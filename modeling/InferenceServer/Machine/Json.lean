import Mathlib.Data.Rat.Defs
import Mathlib.Data.Int.Basic

/-! JSON documents as a program reads them member by member. A member can be
asked for only where there are members, and a number is converted only if the
machine type holds it: both raise an error otherwise. How numbers and texts are
kept is left open. -/
namespace InferenceServer.Machine

/-- The numbers of a document, with the values that they stand for. -/
class JsonNumber (Number : Type) where
  toRat : Number → Rat
  ofInt : Int → Number
  toRat_ofInt : ∀ whole, toRat (ofInt whole) = whole

instance : JsonNumber Rat where
  toRat := id
  ofInt := Int.cast
  toRat_ofInt _ := rfl

/-- Members of an object are kept in the order of their names. -/
inductive Json (Number Text : Type)
  | null
  | bool (value : Bool)
  | number (value : Number)
  | string (text : Text)
  | array (items : List (Json Number Text))
  | object (members : List (String × Json Number Text))

inductive JsonError
  | notObject
  | notConvertible
  | outOfRange
  deriving DecidableEq

namespace Json

abbrev Members (Number Text : Type) := List (String × Json Number Text)

section Access

variable {Number Text : Type} (name : String) (value : Option (Json Number Text))

/-- The members that may be asked for; `null` is an object without any. -/
def members? : Json Number Text → Option (Members Number Text)
  | .null => some []
  | .object members => some members
  | _ => none

def find (json : Json Number Text) (name : String) :
    Except JsonError (Option (Json Number Text)) :=
  match json.members? with
  | none => .error .notObject
  | some members => .ok (members.lookup name)

def isMember (json : Json Number Text) (name : String) : Except JsonError Bool := do
  return (← json.find name).isSome

/-- A missing member reads as `null`. -/
def get (json : Json Number Text) (name : String) : Except JsonError (Json Number Text) := do
  return (← json.find name).getD .null

def isNull : Json Number Text → Bool
  | .null => true
  | _ => false

def isObject : Json Number Text → Bool
  | .object _ => true
  | _ => false

/-- `members[name] = value`. -/
def insertMember (name : String) (value : Json Number Text) :
    Members Number Text → Members Number Text
  | [] => [(name, value)]
  | (other, held) :: rest =>
    if name = other then (name, value) :: rest
    else if name < other then (name, value) :: (other, held) :: rest
    else (other, held) :: insertMember name value rest

/-- A member that is left out when there is no value for it. -/
def insertOptional (members : Members Number Text) : Members Number Text :=
  value.elim members fun value => insertMember name value members

theorem lookup_member (value : Json Number Text) (rest : Members Number Text) (asked : String) :
    ((name, value) :: rest).lookup asked =
      if asked = name then some value else rest.lookup asked := by
  rw [List.lookup_cons]
  by_cases same : asked = name
  · rw [if_pos same, beq_iff_eq.mpr same]
  · rw [if_neg same, beq_eq_false_iff_ne.mpr same]

theorem lookup_insertMember (value : Json Number Text) (members : Members Number Text)
    (asked : String) :
    (insertMember name value members).lookup asked =
      if asked = name then some value else members.lookup asked := by
  induction members with
  | nil => exact lookup_member name value [] asked
  | cons entry rest ih =>
    obtain ⟨other, held⟩ := entry
    simp only [insertMember]
    split
    · rename_i here
      rw [lookup_member, lookup_member, ← here]
      split <;> rfl
    · rename_i different
      split
      · exact lookup_member name value _ asked
      · rw [lookup_member, lookup_member, ih]
        by_cases same : asked = other
        · have apart : asked ≠ name := fun equal => different (equal.symm.trans same)
          rw [if_pos same, if_neg apart, if_pos same]
        · rw [if_neg same, if_neg same]

theorem lookup_insertOptional (members : Members Number Text) (asked : String) :
    (insertOptional name value members).lookup asked =
      if asked = name then value.or (members.lookup asked) else members.lookup asked := by
  cases value with
  | none => exact (ite_self _).symm
  | some value =>
    rw [Option.some_or]
    exact lookup_insertMember name value members asked

theorem ok_bind {First Second Error : Type} (value : First) (next : First → Except Error Second) :
    (Except.ok value >>= next) = next value := rfl

theorem bind_eq_ok {First Second Error : Type} {action : Except Error First}
    {next : First → Except Error Second} {result : Second} :
    (action >>= next) = .ok result ↔ ∃ value, action = .ok value ∧ next value = .ok result := by
  cases action with
  | error raised => exact ⟨nofun, nofun⟩
  | ok value => simp [ok_bind]

variable {json : Json Number Text} {members : Members Number Text}

section

variable (known : json.members? = some members)
include known

theorem find_of_members (name : String) : json.find name = .ok (members.lookup name) := by
  rw [find, known]

@[simp]
theorem isMember_of_members (name : String) :
    json.isMember name = .ok (members.lookup name).isSome := by
  rw [isMember, find_of_members known]
  rfl

@[simp]
theorem get_of_members (name : String) :
    json.get name = .ok ((members.lookup name).getD .null) := by
  rw [get, find_of_members known]
  rfl

end

theorem isMember_of_none (unknown : json.members? = none) (name : String) :
    json.isMember name = .error .notObject := by
  rw [isMember, find, unknown]
  rfl

end Access

/-! ### Conversions of whole numbers -/

/-- A whole number of a type that has a least and a largest value. -/
def ofRange (least largest number : Int) : Except JsonError Int :=
  if least ≤ number ∧ number ≤ largest then .ok number else .error .outOfRange

def toUInt (number : Int) : Except JsonError UInt32 :=
  (fun number => UInt32.ofNat number.toNat) <$> ofRange 0 (UInt32.size - 1) number

def toUInt64 (number : Int) : Except JsonError UInt64 :=
  (fun number => UInt64.ofNat number.toNat) <$> ofRange 0 (UInt64.size - 1) number

def toInt (number : Int) : Except JsonError Int32 :=
  Int32.ofInt <$> ofRange Int32.minValue.toInt Int32.maxValue.toInt number

private theorem map_ofRange {Word : Type} {least largest number : Int} (ofInt : Int → Word)
    (toInt : Word → Int)
    (there : ∀ number, least ≤ number → number ≤ largest → toInt (ofInt number) = number)
    (back : ∀ word, ofInt (toInt word) = word)
    (fits : ∀ word, least ≤ toInt word ∧ toInt word ≤ largest) {value : Word} :
    ofInt <$> ofRange least largest number = .ok value ↔ number = toInt value := by
  have bounded := fits value
  unfold ofRange
  split
  · rename_i range
    constructor
    · intro same
      cases same
      exact (there number range.1 range.2).symm
    · rintro rfl
      exact congrArg Except.ok (back value)
  · constructor
    · nofun
    · rintro rfl
      contradiction

section Whole

variable {number : Int}

theorem toUInt_eq_ok {value : UInt32} : toUInt number = .ok value ↔ number = value.toNat := by
  refine map_ofRange _ (fun word : UInt32 => (word.toNat : Int))
    (fun number above below => ?_) (fun word => ?_) fun word => ?_
  · simp only [UInt32.size] at below
    rw [UInt32.toNat_ofNat_of_lt' (by simp only [UInt32.size]; omega), Int.toNat_of_nonneg above]
  · rw [Int.toNat_natCast, UInt32.ofNat_toNat]
  · have := word.toNat_lt
    simp only [UInt32.size]
    omega

theorem toUInt64_eq_ok {value : UInt64} : toUInt64 number = .ok value ↔ number = value.toNat := by
  refine map_ofRange _ (fun word : UInt64 => (word.toNat : Int))
    (fun number above below => ?_) (fun word => ?_) fun word => ?_
  · simp only [UInt64.size] at below
    rw [UInt64.toNat_ofNat_of_lt' (by simp only [UInt64.size]; omega), Int.toNat_of_nonneg above]
  · rw [Int.toNat_natCast, UInt64.ofNat_toNat]
  · have := word.toNat_lt
    simp only [UInt64.size]
    omega

theorem toInt_eq_ok {value : Int32} : toInt number = .ok value ↔ number = value.toInt := by
  refine map_ofRange _ Int32.toInt (fun number above below => ?_) (fun word => ?_) fun word => ?_
  · have most : Int32.maxValue.toInt = 2 ^ 31 - 1 := by decide
    exact Int32.toInt_ofInt_of_le above (by omega)
  · exact Int32.ofInt_toInt word
  · exact ⟨word.minValue_le_toInt, word.toInt_le⟩

theorem toUInt_returns : (∃ value, toUInt number = .ok value) ↔
    0 ≤ number ∧ number < UInt32.size := by
  simp only [toUInt_eq_ok]
  constructor
  · rintro ⟨value, rfl⟩
    exact ⟨Int.natCast_nonneg _, Int.ofNat_lt.mpr value.toNat_lt⟩
  · rintro ⟨above, below⟩
    refine ⟨UInt32.ofNat number.toNat, ?_⟩
    rw [UInt32.toNat_ofNat_of_lt' (by omega), Int.toNat_of_nonneg above]

theorem toUInt64_returns : (∃ value, toUInt64 number = .ok value) ↔
    0 ≤ number ∧ number < UInt64.size := by
  simp only [toUInt64_eq_ok]
  constructor
  · rintro ⟨value, rfl⟩
    exact ⟨Int.natCast_nonneg _, Int.ofNat_lt.mpr value.toNat_lt⟩
  · rintro ⟨above, below⟩
    refine ⟨UInt64.ofNat number.toNat, ?_⟩
    rw [UInt64.toNat_ofNat_of_lt' (by omega), Int.toNat_of_nonneg above]

end Whole

/-- An id that may be missing. -/
theorem mapM_toUInt64_eq_ok {number : Option Int} {value : Option UInt64} :
    number.mapM toUInt64 = .ok value ↔
      number = value.map fun id => (id.toNat : Int) := by
  cases number with
  | none => cases value <;> simp [pure, Except.pure]
  | some number =>
    have same := @toUInt64_eq_ok number
    cases converted : toUInt64 number <;> cases value <;>
      simp_all [Functor.map, Except.map]

theorem mapM_toUInt64_returns {number : Option Int} : (∃ value, number.mapM toUInt64 = .ok value) ↔
      ∀ whole, number = some whole → 0 ≤ whole ∧ whole < UInt64.size := by
  simp only [← toUInt64_returns, toUInt64_eq_ok, mapM_toUInt64_eq_ok]
  cases number with
  | none => exact ⟨nofun, fun _ => ⟨none, rfl⟩⟩
  | some number =>
    constructor
    · rintro ⟨value, same⟩ whole equal
      cases equal
      cases value with
      | none => cases same
      | some value => exact ⟨value, Option.some.inj same⟩
    · intro converts
      obtain ⟨value, same⟩ := converts number rfl
      exact ⟨some value, congrArg some same⟩

section Numbers

variable {Number Text : Type} [JsonNumber Number] (json : Json Number Text)

/-- A whole number as a document has it. -/
def whole (number : Int) : Json Number Text := .number (JsonNumber.ofInt number)

def isIntegral : Json Number Text → Bool
  | .number value => (JsonNumber.toRat value).den = 1
  | _ => false

/-- The value without its fraction, if it lies between the least and the largest value. -/
def asWhole (least largest : Int) : Json Number Text → Except JsonError Int
  | .null => .ok 0
  | .bool value => .ok value.toInt
  | .number value =>
    let value := JsonNumber.toRat value
    if least ≤ value ∧ value ≤ largest then .ok (value.num.tdiv value.den)
    else .error .outOfRange
  | _ => .error .notConvertible

def asUInt : Except JsonError UInt32 :=
  (fun number => UInt32.ofNat number.toNat) <$> json.asWhole 0 (UInt32.size - 1)

def asUInt64 : Except JsonError UInt64 :=
  (fun number => UInt64.ofNat number.toNat) <$> json.asWhole 0 (UInt64.size - 1)

def asInt : Except JsonError Int32 :=
  Int32.ofInt <$> json.asWhole Int32.minValue.toInt Int32.maxValue.toInt

/-- An integral number is converted if it is in range. -/
theorem asWhole_number {value : Number} (integral : (JsonNumber.toRat value).den = 1)
    (least largest : Int) : (number value : Json Number Text).asWhole least largest =
      ofRange least largest (JsonNumber.toRat value).num := by
  simp only [asWhole]
  generalize JsonNumber.toRat value = value at integral
  obtain ⟨whole, rfl⟩ : ∃ whole : Int, value = whole :=
    ⟨value.num, ((Rat.den_eq_one_iff value).mp integral).symm⟩
  simp only [Rat.num_intCast, Rat.den_intCast, Int.natCast_one, Int.tdiv_one, ofRange]
  norm_cast

theorem asWhole_whole (least largest number : Int) :
    (whole number : Json Number Text).asWhole least largest = ofRange least largest number := by
  rw [whole, asWhole_number]
  · rw [JsonNumber.toRat_ofInt, Rat.num_intCast]
  · rw [JsonNumber.toRat_ofInt, Rat.den_intCast]

theorem asUInt_whole (number : Int) : (whole number : Json Number Text).asUInt = toUInt number := by
  rw [asUInt, asWhole_whole, toUInt]

theorem asUInt64_whole (number : Int) :
    (whole number : Json Number Text).asUInt64 = toUInt64 number := by
  rw [asUInt64, asWhole_whole, toUInt64]

theorem asInt_whole (number : Int) : (whole number : Json Number Text).asInt = toInt number := by
  rw [asInt, asWhole_whole, toInt]

def isInt : Json Number Text → Bool
  | .number value =>
    let value := JsonNumber.toRat value
    value.den = 1 ∧ Int32.minValue.toInt ≤ value.num ∧ value.num ≤ Int32.maxValue.toInt
  | _ => false

def isUInt : Json Number Text → Bool
  | .number value =>
    let value := JsonNumber.toRat value
    value.den = 1 ∧ 0 ≤ value.num ∧ value.num < UInt32.size
  | _ => false

def asBool : Json Number Text → Except JsonError Bool
  | .null => .ok false
  | .bool value => .ok value
  | .number value => .ok (decide (JsonNumber.toRat value ≠ 0))
  | _ => .error .notConvertible

theorem isInt_whole (number : Int) : (whole number : Json Number Text).isInt =
    decide (Int32.minValue.toInt ≤ number ∧ number ≤ Int32.maxValue.toInt) := by
  simp [whole, isInt, JsonNumber.toRat_ofInt]

theorem isUInt_whole (number : Int) : (whole number : Json Number Text).isUInt =
    decide (0 ≤ number ∧ number < UInt32.size) := by
  simp [whole, isUInt, JsonNumber.toRat_ofInt]

/-- The integer that a member holds. -/
def integer? (members : Members Number Text) (name : String) : Option Int :=
  match members.lookup name with
  | some (.number value) =>
    if (JsonNumber.toRat value).den = 1 then some (JsonNumber.toRat value).num else none
  | _ => none

variable {members : Members Number Text} {name : String} {number : Int}

theorem integer?_whole (held : members.lookup name = some (whole number)) :
    integer? members name = some number := by
  simp [integer?, held, whole, JsonNumber.toRat_ofInt]

theorem integer?_nil (name : String) : integer? ([] : Members Number Text) name = none := rfl

theorem integer?_insertMember (name : String) (number : Int) (members : Members Number Text)
    (asked : String) : integer? (insertMember name (whole number) members) asked =
      if asked = name then some number else integer? members asked := by
  split
  · rename_i here
    exact integer?_whole (by rw [lookup_insertMember, if_pos here])
  · rename_i other
    rw [integer?, integer?, lookup_insertMember, if_neg other]

theorem isIntegral_getD (members : Members Number Text) (name : String) :
    ((members.lookup name).getD .null).isIntegral = (integer? members name).isSome := by
  unfold integer?
  split
  · rename_i value held
    rw [held, Option.getD_some, isIntegral]
    by_cases integral : (JsonNumber.toRat value).den = 1
    · rw [if_pos integral, decide_eq_true integral, Option.isSome_some]
    · rw [if_neg integral, decide_eq_false integral, Option.isSome_none]
  · rename_i other
    cases held : members.lookup name with
    | none => rfl
    | some json =>
      cases json with
      | number value => exact absurd held (other value)
      | _ => rfl

section

variable (held : integer? members name = some number)
include held

theorem lookup_of_integer? : (members.lookup name).isSome := by
  unfold integer? at held
  split at held
  · rename_i value found
    rw [found]
    rfl
  · cases held

theorem asWhole_getD (least largest : Int) :
    ((members.lookup name).getD .null).asWhole least largest = ofRange least largest number := by
  unfold integer? at held
  split at held
  · rename_i value found
    split at held
    · rename_i integral
      cases held
      rw [found, Option.getD_some, asWhole_number integral]
    · cases held
  · cases held

theorem asUInt_getD : ((members.lookup name).getD .null).asUInt = toUInt number := by
  rw [asUInt, asWhole_getD held, toUInt]

theorem asUInt64_getD : ((members.lookup name).getD .null).asUInt64 = toUInt64 number := by
  rw [asUInt64, asWhole_getD held, toUInt64]

end

end Numbers

end Json
end InferenceServer.Machine
