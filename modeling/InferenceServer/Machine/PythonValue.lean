import Mathlib.Algebra.Order.Field.Basic
import Mathlib.Algebra.Order.Ring.Unbundled.Rat

/-! Values of a dynamically typed program, as far as a reader of documents tells
them apart. How floats are kept and what the language makes of letters and of
texts of containers is left open. -/
namespace InferenceServer.Machine

/-- Keys of a mapping are texts. -/
inductive PyValue (Double : Type)
  | none
  | bool (value : Bool)
  | int (value : Int)
  | float (value : Double)
  | str (text : String)
  | list (items : List (PyValue Double))
  | mapping (entries : List (String × PyValue Double))

/-- The operations of the language on finite floats and NaN, and on texts. -/
class Python (Double : Type) where
  /-- Where a float lies from zero; NaN lies nowhere. -/
  sign : Double → Option Ordering
  /-- `int()` of a float; NaN is refused. -/
  truncate : Double → Option Int
  /-- `int()` of a text. -/
  parse : String → Option Int
  /-- `str()` of floats and containers. -/
  display : PyValue Double → String
  /-- A number with four digits after the point. -/
  fixed : PyValue Double → String
  times : PyValue Double → PyValue Double → PyValue Double
  strip : String → String
  lower : String → String
  upper : String → String

namespace PyValue

variable {Double : Type}

/-- The entries of a `Mapping`. -/
def entries? : PyValue Double → Option (List (String × PyValue Double))
  | .mapping entries => some entries
  | _ => Option.none

/-- `value.get(key)` of a `Mapping`; other values have no entries. -/
def get (value : PyValue Double) (key : String) : PyValue Double :=
  ((value.entries?.getD []).lookup key).getD .none

/-- `isinstance(value, (int, float))` and no truth value. -/
def isNumber : PyValue Double → Bool
  | .int _ => true
  | .float _ => true
  | _ => false

/-- `isinstance(value, (int, float))`: truth values are integers. -/
def isNumeric : PyValue Double → Bool
  | .bool _ => true
  | value => value.isNumber

def isNone : PyValue Double → Bool
  | .none => true
  | _ => false

/-- `value is True`. -/
def isTrue : PyValue Double → Bool
  | .bool true => true
  | _ => false

/-- `value is False`. -/
def isFalse : PyValue Double → Bool
  | .bool false => true
  | _ => false

def isText (text : String) : PyValue Double → Bool
  | .str held => held = text
  | _ => false

variable [Python Double]

/-- Where a number lies from zero. -/
def sign : PyValue Double → Option Ordering
  | .int value => some (compare value 0)
  | .float value => Python.sign value
  | _ => Option.none

def truthy : PyValue Double → Bool
  | .none => false
  | .bool value => value
  | .int value => value ≠ 0
  | .float value => Python.sign value ≠ some .eq
  | .str text => text ≠ ""
  | .list items => !items.isEmpty
  | .mapping entries => !entries.isEmpty

/-- `value or other`. -/
def orElse (value other : PyValue Double) : PyValue Double :=
  if value.truthy then value else other

/-- `str(value)`. -/
def text : PyValue Double → String
  | .none => "None"
  | .bool true => "True"
  | .bool false => "False"
  | .int value => toString value
  | .str text => text
  | value => Python.display value

/-- `int(value)`; texts and containers may be refused. -/
def whole? : PyValue Double → Option Int
  | .bool value => some value.toInt
  | .int value => some value
  | .float value => Python.truncate value
  | .str text => Python.parse Double text
  | _ => Option.none

/-- The items that a loop goes over: it fails on what has no items. -/
def items? : PyValue Double → Option (List (PyValue Double))
  | .list items => some items
  | .str text => some (text.toList.map fun letter => .str (String.ofList [letter]))
  | .mapping entries => some (entries.map fun entry => .str entry.1)
  | _ => Option.none

end PyValue
/-- Letters of ASCII and floats without rounding; what floats and containers look like is
left out. -/
instance asciiPython : Python Rat where
  sign value := some (compare value 0)
  truncate value := some (value.num.tdiv value.den)
  parse := String.toInt?
  display _ := "..."
  fixed _ := "..."
  times _ _ := .none
  strip text := String.ofList
    ((text.toList.dropWhile Char.isWhitespace).reverse.dropWhile Char.isWhitespace).reverse
  lower := String.toLower
  upper := String.toUpper

end InferenceServer.Machine

/-! Floats without rounding: the numbers of an ordered field, two infinities and NaN. -/
namespace InferenceServer.Machine

inductive PyFloat (Number : Type)
  | finite (value : Number)
  | infinite (positive : Bool)
  | nan
  deriving DecidableEq

/-- What the language makes of texts, and of floats as texts, is left open, but that it leaves
small letters alone. -/
class PyText (Number : Type) where
  truncate : PyFloat Number → Option Int
  parse : String → Option Int
  display : PyValue (PyFloat Number) → String
  fixed : PyValue (PyFloat Number) → String
  times : PyValue (PyFloat Number) → PyValue (PyFloat Number) → PyValue (PyFloat Number)
  strip : String → String
  lower : String → String
  upper : String → String
  plain : ∀ text : String, (∀ letter ∈ text.toList, letter.isLower) → lower (strip text) = text

section Ascii

theorem isLower_spec {letter : Char} (small : letter.isLower) :
    letter.isWhitespace = false ∧ letter.toLower = letter := by
  have range : 97 ≤ letter.toNat ∧ letter.toNat ≤ 122 := by
    obtain ⟨low, high⟩ := Bool.and_eq_true_iff.mp small
    exact ⟨UInt32.le_iff_toNat_le.mp (of_decide_eq_true low),
      UInt32.le_iff_toNat_le.mp (of_decide_eq_true high)⟩
  constructor
  · have other : ∀ blank : Char, blank.toNat < 97 → letter ≠ blank := by
      rintro blank less rfl
      omega
    unfold Char.isWhitespace
    simp [other ' ' (by decide), other '\t' (by decide), other '\r' (by decide),
      other '\n' (by decide)]
  · unfold Char.toLower
    rw [dif_neg]
    have same : letter.val.toNat = letter.toNat := rfl
    simp only [UInt32.le_iff_toNat_le, same]
    rintro ⟨-, upper⟩
    exact absurd (range.1.trans upper) (by decide)

theorem dropWhile_eq_self {Item : Type} {dropped : Item → Bool} {items : List Item}
    (kept : ∀ item ∈ items, dropped item = false) : items.dropWhile dropped = items := by
  cases items with
  | nil => rfl
  | cons first rest => rw [List.dropWhile_cons, kept first List.mem_cons_self]; rfl

/-- Small letters of ASCII are left alone. -/
theorem lower_strip {text : String} (small : ∀ letter ∈ text.toList, letter.isLower) :
    Python.lower Rat (Python.strip Rat text) = text := by
  have kept : ∀ letter ∈ text.toList, letter.isWhitespace = false := fun letter member =>
    (isLower_spec (small letter member)).1
  have stripped : Python.strip Rat text = text := by
    show String.ofList _ = text
    rw [dropWhile_eq_self kept, dropWhile_eq_self fun letter member =>
      kept letter (List.mem_reverse.mp member), List.reverse_reverse, String.ofList_toList]
  refine String.toList_injective ?_
  have mapped : (Python.lower Rat text).toList = text.toList.map Char.toLower := String.toList_map
  rw [stripped, mapped]
  rw [List.map_congr_left fun letter member => (isLower_spec (small letter member)).2]
  exact List.map_id _

/-- Letters of ASCII; what floats and containers look like is left out. -/
instance asciiText : PyText Rat where
  truncate _ := none
  parse := String.toInt?
  display _ := "..."
  fixed _ := "..."
  times _ _ := .none
  strip := Python.strip Rat
  lower := Python.lower Rat
  upper := Python.upper Rat
  plain _ := lower_strip

end Ascii

namespace PyFloat

variable {Number : Type}

def isFinite : PyFloat Number → Bool
  | .finite _ => true
  | _ => false

section Order

variable [LinearOrder Number]

/-- `float <= bound`; NaN compares to nothing. -/
def AtMost : PyFloat Number → Number → Prop
  | .finite value, bound => value ≤ bound
  | .infinite positive, _ => positive = false
  | .nan, _ => False

/-- `float >= bound` -/
def AtLeast : PyFloat Number → Number → Prop
  | .finite value, bound => bound ≤ value
  | .infinite positive, _ => positive = true
  | .nan, _ => False

instance (float : PyFloat Number) (bound : Number) : Decidable (float.AtMost bound) := by
  cases float <;> unfold AtMost <;> infer_instance

instance (float : PyFloat Number) (bound : Number) : Decidable (float.AtLeast bound) := by
  cases float <;> unfold AtLeast <;> infer_instance

/-- Where a float lies from zero; NaN lies nowhere. -/
def sign [Zero Number] : PyFloat Number → Option Ordering
  | .finite value => some (compare value 0)
  | .infinite positive => some (if positive then .gt else .lt)
  | .nan => none

instance [Zero Number] [PyText Number] : Python (PyFloat Number) where
  sign := sign
  truncate := PyText.truncate
  parse := PyText.parse Number
  display := PyText.display
  fixed := PyText.fixed
  times := PyText.times
  strip := PyText.strip Number
  lower := PyText.lower Number
  upper := PyText.upper Number

end Order

section Division

variable [Field Number]

/-- `float / number` by a positive number. -/
def dividedBy : PyFloat Number → Number → PyFloat Number
  | .finite value, number => .finite (value / number)
  | .infinite positive, _ => .infinite positive
  | .nan, _ => .nan

/-- `number / float` by a float that is not zero. -/
def under (number : Number) : PyFloat Number → PyFloat Number
  | .finite value => .finite (number / value)
  | .infinite _ => .finite 0
  | .nan => .nan

variable [LinearOrder Number] [IsStrictOrderedRing Number]

theorem atMost_dividedBy (float : PyFloat Number) {number : Number} (positive : 0 < number)
    (bound : Number) : (float.dividedBy number).AtMost bound ↔ float.AtMost (bound * number) := by
  cases float with
  | finite value => exact div_le_iff₀ positive
  | infinite => exact Iff.rfl
  | nan => exact Iff.rfl

theorem atLeast_dividedBy (float : PyFloat Number) {number : Number} (positive : 0 < number)
    (bound : Number) : (float.dividedBy number).AtLeast bound ↔ float.AtLeast (bound * number) := by
  cases float with
  | finite value => exact le_div_iff₀ positive
  | infinite => exact Iff.rfl
  | nan => exact Iff.rfl

end Division

end PyFloat

end InferenceServer.Machine
