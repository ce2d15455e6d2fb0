import Mathlib.Data.List.TakeWhile
import Mathlib.Data.UInt

/-! UTF-8 as a machine that reads one byte at a time. A byte that cannot go on a character
ends it as malformed and is read again as the first byte of the next. -/
namespace InferenceServer.Machine.Utf8

abbrev CodePoint := Fin 0x110000

instance codePoints_neZero : NeZero 0x110000 := ⟨by decide⟩

/-- Surrogates are code points that no UTF-8 text has. -/
def IsScalar (point : CodePoint) : Prop := ¬ (0xD800 ≤ point.val ∧ point.val ≤ 0xDFFF)

instance (point : CodePoint) : Decidable (IsScalar point) := inferInstanceAs (Decidable (¬ _))

def byte (value : Nat) : UInt8 := UInt8.ofNat value

variable {value bits missing low high : Nat} (bytes : List UInt8) (state : State)

theorem toNat_byte (small : value < 256) : (byte value).toNat = value :=
  UInt8.toNat_ofNat_of_lt' small

/-- The bytes of a code point. -/
def encodePoint (value : Nat) : List UInt8 :=
  if value < 0x80 then [byte value]
  else if value < 0x800 then [byte (0xC0 + value / 64), byte (0x80 + value % 64)]
  else if value < 0x10000 then
    [byte (0xE0 + value / 4096), byte (0x80 + value / 64 % 64), byte (0x80 + value % 64)]
  else
    [byte (0xF0 + value / 262144), byte (0x80 + value / 4096 % 64), byte (0x80 + value / 64 % 64),
      byte (0x80 + value % 64)]

def encodeAll (points : List CodePoint) : List UInt8 := points.flatMap fun point => encodePoint point.val

/-- `text.encode("utf-8")`; a surrogate has no encoding. -/
def encode (points : List CodePoint) : Option (List UInt8) :=
  if points.all (IsScalar ·) then some (encodeAll points) else none

/-- Within a character, the bits so far, the bytes that are missing and the bounds of the next. -/
inductive State
  | start
  | within (bits missing low high : Nat)
  deriving DecidableEq

inductive Event
  | point (value : Nat)
  | malformed
  deriving DecidableEq

/-- Reads the first byte of a character. -/
def lead (value : Nat) : State × List Event :=
  if value < 0x80 then (.start, [.point value])
  else if 0xC2 ≤ value ∧ value ≤ 0xDF then (.within (value - 0xC0) 1 0x80 0xBF, [])
  else if value = 0xE0 then (.within 0 2 0xA0 0xBF, [])
  else if value = 0xED then (.within 0xD 2 0x80 0x9F, [])
  else if 0xE1 ≤ value ∧ value ≤ 0xEF then (.within (value - 0xE0) 2 0x80 0xBF, [])
  else if value = 0xF0 then (.within 0 3 0x90 0xBF, [])
  else if 0xF1 ≤ value ∧ value ≤ 0xF3 then (.within (value - 0xF0) 3 0x80 0xBF, [])
  else if value = 0xF4 then (.within 4 3 0x80 0x8F, [])
  else (.start, [.malformed])

def step (value : UInt8) : State × List Event :=
  match state with
  | .start => lead value.toNat
  | .within bits missing low high =>
    if low ≤ value.toNat ∧ value.toNat ≤ high then
      let bits := bits * 64 + (value.toNat - 0x80)
      if missing = 1 then (.start, [.point bits]) else (.within bits (missing - 1) 0x80 0xBF, [])
    else ((lead value.toNat).1, .malformed :: (lead value.toNat).2)

def run : State → List UInt8 → State × List Event
  | state, [] => (state, [])
  | state, value :: rest =>
    let stepped := step state value
    let later := run stepped.1 rest
    (later.1, stepped.2 ++ later.2)

/-- A character that the input ends within is malformed. -/
def State.finish : State → List Event
  | .start => []
  | .within .. => [.malformed]

def decode : List Event :=
  let (last, events) := run .start bytes
  events ++ last.finish

theorem run_cons (value : UInt8) (rest : List UInt8) : run state (value :: rest) =
      ((run (step state value).1 rest).1,
        (step state value).2 ++ (run (step state value).1 rest).2) := rfl

theorem run_append (first second : List UInt8) : run state (first ++ second) =
      ((run (run state first).1 second).1,
        (run state first).2 ++ (run (run state first).1 second).2) := by
  induction first generalizing state with
  | nil => rfl
  | cons value rest ih =>
    rw [List.cons_append, run_cons, ih, run_cons]
    exact Prod.ext rfl (List.append_assoc ..).symm

/-- After whole characters what follows is decoded on its own. -/
theorem decode_append {first : List UInt8} (whole : (run .start first).1 = .start)
    (second : List UInt8) : decode (first ++ second) = decode first ++ decode second := by
  show (run .start (first ++ second)).2 ++ (run .start (first ++ second)).1.finish =
    ((run .start first).2 ++ (run .start first).1.finish) ++ _
  rw [run_append, whole, State.finish, List.append_nil, List.append_assoc]
  rfl

section

variable (small : value < 256)
include small

/-- A byte that goes on a character. -/
theorem step_within (inside : low ≤ value ∧ value ≤ high) :
    step (.within bits missing low high) (byte value) =
      if missing = 1 then (.start, [.point (bits * 64 + (value - 0x80))])
      else (.within (bits * 64 + (value - 0x80)) (missing - 1) 0x80 0xBF, []) := by
  simp [step, toNat_byte small, inside]

theorem step_start : step .start (byte value) = lead value := by
  rw [step, toNat_byte small]

/-- The last byte of a character. -/
theorem run_last (inside : low ≤ value ∧ value ≤ high) :
    run (.within bits 1 low high) [byte value] = (.start, [.point (bits * 64 + (value - 0x80))]) := by
  rw [run_cons, step_within small inside]
  rfl

/-- A byte of a character that more bytes follow. -/
theorem run_more (inside : low ≤ value ∧ value ≤ high) (rest : List UInt8) :
    run (.within bits (missing + 2) low high) (byte value :: rest) =
      run (.within (bits * 64 + (value - 0x80)) (missing + 1) 0x80 0xBF) rest := by
  rw [run_cons, step_within small inside, if_neg (by omega)]
  rfl

end

theorem lead_two (low : 0x80 ≤ value) (high : value < 0x800) :
    lead (0xC0 + value / 64) = (.within (value / 64) 1 0x80 0xBF, []) := by
  rw [lead, if_neg (by omega), if_pos (by omega), Nat.add_sub_cancel_left]

/-- The first byte of three bounds the second to keep short codes and surrogates out. -/
theorem lead_three (low : 0x800 ≤ value) (high : value < 0x10000)
    (scalar : ¬ (0xD800 ≤ value ∧ value ≤ 0xDFFF)) : ∃ least most,
      lead (0xE0 + value / 4096) = (.within (value / 4096) 2 least most, []) ∧
        least ≤ 0x80 + value / 64 % 64 ∧ 0x80 + value / 64 % 64 ≤ most := by
  rw [lead, if_neg (by omega), if_neg (by omega)]
  by_cases first : value / 4096 = 0
  · rw [if_pos (by omega), first]
    exact ⟨_, _, rfl, by omega, by omega⟩
  · rw [if_neg (by omega)]
    by_cases surrogate : value / 4096 = 0xD
    · rw [if_pos (by omega), surrogate]
      exact ⟨_, _, rfl, by omega, by omega⟩
    · rw [if_neg (by omega), if_pos (by omega), Nat.add_sub_cancel_left]
      exact ⟨_, _, rfl, by omega, by omega⟩

theorem lead_four (low : 0x10000 ≤ value) (high : value < 0x110000) :
    ∃ least most, lead (0xF0 + value / 262144) = (.within (value / 262144) 3 least most, []) ∧
      least ≤ 0x80 + value / 4096 % 64 ∧ 0x80 + value / 4096 % 64 ≤ most := by
  rw [lead, if_neg (by omega), if_neg (by omega), if_neg (by omega), if_neg (by omega),
    if_neg (by omega)]
  by_cases first : value / 262144 = 0
  · rw [if_pos (by omega), first]
    exact ⟨_, _, rfl, by omega, by omega⟩
  · rw [if_neg (by omega)]
    by_cases last : value / 262144 = 4
    · rw [if_neg (by omega), if_pos (by omega), last]
      exact ⟨_, _, rfl, by omega, by omega⟩
    · rw [if_pos (by omega), Nat.add_sub_cancel_left]
      exact ⟨_, _, rfl, by omega, by omega⟩

/-- The bytes are those of one code point, and the first of them lead within it. -/
structure Reads (bytes : List UInt8) (value : Nat) : Prop where
  whole : run .start bytes = (.start, [.point value])
  cut : ∀ length, 0 < length → length < bytes.length → ∃ bits missing low high,
    run .start (bytes.take length) = (.within bits missing low high, [])

theorem reads_one (high : value < 0x80) : Reads [byte value] value where
  whole := by
    rw [run_cons, step_start (by omega), lead, if_pos high]
    rfl
  cut length some_ short := by
    rw [List.length_singleton] at short
    omega

/-- The first byte alone. -/
theorem run_lead (small : value < 256) (leads : lead value = (.within bits missing low high, []))
    (rest : List UInt8) :
    run .start (byte value :: rest) = run (.within bits missing low high) rest := by
  rw [run_cons, step_start small, leads]
  rfl

theorem reads_two (low : 0x80 ≤ value) (high : value < 0x800) :
    Reads [byte (0xC0 + value / 64), byte (0x80 + value % 64)] value where
  whole := by
    have bits : value / 64 * 64 + (0x80 + value % 64 - 0x80) = value := by omega
    rw [run_lead (by omega) (lead_two low high), run_last (by omega) (by omega), bits]
  cut length some_ short := by
    obtain rfl : length = 1 := by
      rw [List.length_cons, List.length_singleton] at short
      omega
    exact ⟨_, _, _, _, run_lead (by omega) (lead_two low high) []⟩

theorem reads_three (low : 0x800 ≤ value) (high : value < 0x10000)
    (scalar : ¬ (0xD800 ≤ value ∧ value ≤ 0xDFFF)) :
    Reads [byte (0xE0 + value / 4096), byte (0x80 + value / 64 % 64), byte (0x80 + value % 64)]
      value := by
  obtain ⟨least, most, leads, after, before⟩ := lead_three low high scalar
  constructor
  · have bits : (value / 4096 * 64 + (0x80 + value / 64 % 64 - 0x80)) * 64 +
        (0x80 + value % 64 - 0x80) = value := by omega
    rw [run_lead (by omega) leads, run_more (by omega) ⟨after, before⟩,
      run_last (by omega) (by omega), bits]
  · intro length some_ short
    rw [List.length_cons, List.length_cons, List.length_singleton] at short
    obtain rfl | rfl : length = 1 ∨ length = 2 := by omega
    · exact ⟨_, _, _, _, run_lead (by omega) leads []⟩
    · rw [List.take_succ_cons, run_lead (by omega) leads, List.take_succ_cons,
        run_more (by omega) ⟨after, before⟩]
      exact ⟨_, _, _, _, rfl⟩

theorem reads_four (low : 0x10000 ≤ value) (high : value < 0x110000) :
    Reads [byte (0xF0 + value / 262144), byte (0x80 + value / 4096 % 64),
      byte (0x80 + value / 64 % 64), byte (0x80 + value % 64)] value := by
  obtain ⟨least, most, leads, after, before⟩ := lead_four low high
  constructor
  · have bits : ((value / 262144 * 64 + (0x80 + value / 4096 % 64 - 0x80)) * 64 +
        (0x80 + value / 64 % 64 - 0x80)) * 64 + (0x80 + value % 64 - 0x80) = value := by omega
    rw [run_lead (by omega) leads, run_more (by omega) ⟨after, before⟩,
      run_more (by omega) (by omega), run_last (by omega) (by omega), bits]
  · intro length some_ short
    rw [List.length_cons, List.length_cons, List.length_cons, List.length_singleton] at short
    obtain rfl | rfl | rfl : length = 1 ∨ length = 2 ∨ length = 3 := by omega
    · exact ⟨_, _, _, _, run_lead (by omega) leads []⟩
    · rw [List.take_succ_cons, run_lead (by omega) leads, List.take_succ_cons,
        run_more (by omega) ⟨after, before⟩]
      exact ⟨_, _, _, _, rfl⟩
    · rw [List.take_succ_cons, run_lead (by omega) leads, List.take_succ_cons,
        run_more (by omega) ⟨after, before⟩, List.take_succ_cons, run_more (by omega) (by omega)]
      exact ⟨_, _, _, _, rfl⟩

/-- The bytes of a character are one character, and fewer of them are none. -/
theorem reads_encodePoint {point : CodePoint} (scalar : IsScalar point) :
    Reads (encodePoint point) point := by
  obtain ⟨value, bound⟩ := point
  dsimp only [IsScalar] at scalar ⊢
  unfold encodePoint
  by_cases one : value < 0x80
  · rw [if_pos one]
    exact reads_one one
  · rw [if_neg one]
    by_cases two : value < 0x800
    · rw [if_pos two]
      exact reads_two (Nat.not_lt.mp one) two
    · rw [if_neg two]
      by_cases three : value < 0x10000
      · rw [if_pos three]
        exact reads_three (Nat.not_lt.mp two) three scalar
      · rw [if_neg three]
        exact reads_four (Nat.not_lt.mp three) bound

/-- The events of whole characters. -/
def points (text : List CodePoint) : List Event := text.map fun point => .point point.val

theorem run_encodeAll {text : List CodePoint} (scalar : ∀ point ∈ text, IsScalar point) :
    run .start (encodeAll text) = (.start, points text) := by
  induction text with
  | nil => rfl
  | cons point rest ih =>
    have here := (reads_encodePoint (scalar point List.mem_cons_self)).whole
    rw [encodeAll, List.flatMap_cons, run_append, here]
    dsimp only
    rw [show rest.flatMap (fun point => encodePoint point.val) = encodeAll rest from rfl,
      ih fun other member => scalar other (List.mem_cons_of_mem _ member)]
    rfl

/-- Text is read back as it was. -/
theorem decode_encodeAll {text : List CodePoint} (scalar : ∀ point ∈ text, IsScalar point) :
    decode (encodeAll text) = points text := by
  show (run .start (encodeAll text)).2 ++ (run .start (encodeAll text)).1.finish = _
  rw [run_encodeAll scalar]
  exact List.append_nil _

/-- The longest part of a text whose encoding fits. -/
def fitting : Nat → List CodePoint → List CodePoint
  | _, [] => []
  | room, point :: rest =>
    if (encodePoint point).length ≤ room then
      point :: fitting (room - (encodePoint point).length) rest
    else []

theorem fitting_sublist (room : Nat) (text : List CodePoint) : fitting room text <+: text := by
  induction text generalizing room with
  | nil => exact List.nil_prefix
  | cons point rest ih =>
    unfold fitting
    split
    · exact List.cons_prefix_cons.mpr ⟨rfl, ih _⟩
    · exact List.nil_prefix

theorem encodeAll_cons (point : CodePoint) (rest : List CodePoint) :
    encodeAll (point :: rest) = encodePoint point.val ++ encodeAll rest := List.flatMap_cons

theorem length_fitting_le (room : Nat) (text : List CodePoint) :
    (encodeAll (fitting room text)).length ≤ room := by
  induction text generalizing room with
  | nil => exact Nat.zero_le room
  | cons point rest ih =>
    unfold fitting
    split
    · rw [encodeAll_cons, List.length_append]
      have later := ih (room - (encodePoint point.val).length)
      omega
    · exact Nat.zero_le room

/-- No longer part of a text fits. -/
theorem prefix_fitting {room : Nat} {text part : List CodePoint} (first : part <+: text)
    (fits : (encodeAll part).length ≤ room) : part <+: fitting room text := by
  induction text generalizing room part with
  | nil =>
    rw [List.prefix_nil.mp first]
    exact List.nil_prefix
  | cons point rest ih =>
    cases part with
    | nil => exact List.nil_prefix
    | cons other part =>
      obtain ⟨rfl, later⟩ := List.cons_prefix_cons.mp first
      rw [encodeAll_cons, List.length_append] at fits
      unfold fitting
      rw [if_pos (by omega)]
      exact List.cons_prefix_cons.mpr ⟨rfl, ih later (by omega)⟩

/-- The part of a text that is left when its encoding is cut is the longest that fits, and
the cut is within a character unless it is the encoding of that part. -/
theorem run_take {text : List CodePoint} (scalar : ∀ point ∈ text, IsScalar point) (room : Nat) :
    (run .start ((encodeAll text).take room)).2 = points (fitting room text) ∧
      ((run .start ((encodeAll text).take room)).1 = .start →
        (encodeAll text).take room = encodeAll (fitting room text)) := by
  induction text generalizing room with
  | nil => exact ⟨by rw [encodeAll, List.flatMap_nil, List.take_nil]; rfl, fun _ => List.take_nil⟩
  | cons point rest ih =>
    have here := reads_encodePoint (scalar point List.mem_cons_self)
    rw [encodeAll_cons, fitting]
    by_cases fits : (encodePoint point.val).length ≤ room
    · obtain ⟨events, whole⟩ := ih (fun other member => scalar other (List.mem_cons_of_mem _ member))
        (room - (encodePoint point.val).length)
      rw [if_pos fits, List.take_append, List.take_of_length_le fits, run_append, here.whole,
        encodeAll_cons]
      refine ⟨?_, fun start => congrArg _ (whole start)⟩
      exact congrArg (Event.point point.val :: ·) events
    · rw [if_neg fits, List.take_append_of_le_length (Nat.le_of_not_le fits)]
      rcases Nat.eq_zero_or_pos room with rfl | some_
      · exact ⟨rfl, fun _ => rfl⟩
      · obtain ⟨bits, missing, low, high, within⟩ := here.cut room some_ (Nat.not_le.mp fits)
        rw [within]
        exact ⟨rfl, nofun⟩

/-- The replacement character. -/
def replacement : List UInt8 := [0xEF, 0xBF, 0xBD]

/-- The text of an event; what is malformed is replaced. -/
def Event.text : Event → List UInt8
  | .point value => encodePoint value
  | .malformed => replacement

/-- The decoding that replaces what is malformed, in UTF-8. -/
def lossy : List UInt8 := (decode bytes).flatMap Event.text

theorem lossy_append {first : List UInt8} (whole : (run .start first).1 = .start)
    (second : List UInt8) : lossy (first ++ second) = lossy first ++ lossy second := by
  rw [lossy, decode_append whole, List.flatMap_append]
  rfl

/-- Bytes that end within a character end in a replacement. -/
theorem lossy_within {bytes : List UInt8} (within : (run .start bytes).1 ≠ .start) :
    ∃ text, lossy bytes = text ++ replacement := by
  refine ⟨(run .start bytes).2.flatMap Event.text, ?_⟩
  have whole : decode bytes = (run .start bytes).2 ++ (run .start bytes).1.finish := rfl
  rw [lossy, whole, List.flatMap_append]
  cases ends : (run .start bytes).1 with
  | start => exact absurd ends within
  | within bits missing low high => rfl

/-- What `bytes.decode("utf-8")` returns, or nothing where it raises. -/
def decodeStrict : Option (List Nat) :=
  (decode bytes).mapM fun event =>
    match event with
    | .point value => some value
    | .malformed => none

/-- `bytes.decode("utf-8", errors="ignore")` -/
def decodeIgnore : List Nat :=
  (decode bytes).filterMap fun event =>
    match event with
    | .point value => some value
    | .malformed => none

theorem decodeStrict_encodeAll {text : List CodePoint} (scalar : ∀ point ∈ text, IsScalar point) :
    decodeStrict (encodeAll text) = some (text.map Fin.val) := by
  rw [decodeStrict, decode_encodeAll scalar, points]
  induction text with
  | nil => rfl
  | cons point rest ih =>
    rw [List.map_cons, List.mapM_cons, ih fun other member => scalar other (List.mem_cons_of_mem _ member)]
    rfl

/-- Bytes that end within a character are no text. -/
theorem decodeStrict_within {bytes : List UInt8} (within : (run .start bytes).1 ≠ .start) :
    decodeStrict bytes = none := by
  have whole : decode bytes = (run .start bytes).2 ++ (run .start bytes).1.finish := rfl
  rw [decodeStrict, whole, List.mapM_append]
  cases ends : (run .start bytes).1 with
  | start => exact absurd ends within
  | within bits missing low high =>
    refine Option.bind_eq_none_iff.mpr fun values _ => ?_
    rfl

theorem decodeIgnore_take {text : List CodePoint} (scalar : ∀ point ∈ text, IsScalar point)
    (room : Nat) : decodeIgnore ((encodeAll text).take room) = (fitting room text).map Fin.val := by
  obtain ⟨events, -⟩ := run_take scalar room
  have whole : decode ((encodeAll text).take room) =
      (run .start ((encodeAll text).take room)).2 ++
        (run .start ((encodeAll text).take room)).1.finish := rfl
  rw [decodeIgnore, whole, events, List.filterMap_append, points, List.filterMap_map]
  have none_ : ∀ state : State, state.finish.filterMap (fun event : Event =>
      match event with
      | .point value => some value
      | .malformed => none) = [] := by
    intro state
    cases state <;> rfl
  rw [none_, List.append_nil]
  exact (List.filterMap_eq_map).symm ▸ rfl

end InferenceServer.Machine.Utf8
