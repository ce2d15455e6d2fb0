import InferenceServer.Machine.Attempts
import Mathlib.Data.List.GetD

/-! Bytes by their offset, with writes and reads of ranges. A read of a range that a write
covers gives what was written, and a write elsewhere leaves it. -/
namespace InferenceServer.Machine

abbrev ByteMemory := Nat → UInt8

namespace ByteMemory

def write (memory : ByteMemory) (offset : Nat) (bytes : List UInt8) : ByteMemory :=
  fun place => if offset ≤ place then bytes.getD (place - offset) (memory place) else memory place

def read (memory : ByteMemory) (offset size : Nat) : List UInt8 :=
  (List.range size).map fun index => memory (offset + index)

/-- Ranges without a common place. -/
def Apart (offset size otherOffset otherSize : Nat) : Prop :=
  offset + size ≤ otherOffset ∨ otherOffset + otherSize ≤ offset

@[simp] theorem read_write (memory : ByteMemory) (offset : Nat) (bytes : List UInt8) :
    (memory.write offset bytes).read offset bytes.length = bytes := by
  refine List.ext_getElem (by simp [read]) fun index short long => ?_
  simp [read, write, long]

theorem read_write_apart (memory : ByteMemory) {offset otherOffset size : Nat}
    {bytes : List UInt8} (apart : Apart offset bytes.length otherOffset size) :
    (memory.write offset bytes).read otherOffset size = memory.read otherOffset size := by
  refine List.map_congr_left fun index member => ?_
  have inside : index < size := List.mem_range.mp member
  unfold write
  split
  · have beyond : bytes.length ≤ otherOffset + index - offset := by
      unfold Apart at apart
      omega
    rw [List.getD_eq_default _ _ beyond]
  · rfl

/-- Places that a write does not cover. -/
theorem write_outside (memory : ByteMemory) {offset place : Nat} {bytes : List UInt8}
    (outside : place < offset ∨ offset + bytes.length ≤ place) :
    memory.write offset bytes place = memory place := by
  unfold write
  split
  · rw [List.getD_eq_default _ _ (by omega)]
  · rfl

/-- Memories that agree on a range. -/
theorem read_congr {memory other : ByteMemory} {offset size : Nat}
    (agree : ∀ place, offset ≤ place → place < offset + size → other place = memory place) :
    other.read offset size = memory.read offset size := by
  refine List.map_congr_left fun index member => agree _ (Nat.le_add_right _ _) ?_
  exact Nat.add_lt_add_left (List.mem_range.mp member) _

/-- The memory after some writes, or where one of them had nothing to write. -/
abbrev Outcome := Except ByteMemory ByteMemory

def Outcome.memory : Outcome → ByteMemory
  | .ok memory | .error memory => memory

/-- What is to stand at an offset; a value may have no bytes. -/
abbrev Field := Nat × Option (List UInt8)

def storeField (offset : Nat) (field : Field) (memory : ByteMemory) : Outcome :=
  match field.2 with
  | some bytes => .ok (memory.write (offset + field.1) bytes)
  | none => .error memory

/-- Stores fields in turn up to the first that has no bytes. -/
def storeFields (offset : Nat) : List Field → ByteMemory → Outcome
  | [], memory => .ok memory
  | field :: rest, memory => storeField offset field memory >>= storeFields offset rest

/-- All the fields have bytes and they are where they should be. -/
def Stored (memory : ByteMemory) (offset : Nat) (fields : List Field) : Prop :=
  ∀ field ∈ fields, ∃ bytes, field.2 = some bytes ∧
    memory.read (offset + field.1) bytes.length = bytes

def Within (low high : Nat) (fields : List Field) : Prop :=
  ∀ field ∈ fields, ∀ bytes, field.2 = some bytes → low ≤ field.1 ∧ field.1 + bytes.length ≤ high

def FieldsApart (first second : Field) : Prop :=
  ∀ bytes other, first.2 = some bytes → second.2 = some other →
    Apart first.1 bytes.length second.1 other.length

/-- Fields at the offsets of a layout, with bytes of its sizes. -/
def Sized (fields : List Field) (layout : List (Nat × Nat)) : Prop :=
  List.Forall₂ (fun field place => field.1 = place.1 ∧
    ∀ bytes, field.2 = some bytes → bytes.length = place.2) fields layout

namespace Sized

variable {fields others : List Field} {layout rest : List (Nat × Nat)} {low high : Nat}

theorem append (first : Sized fields layout) (second : Sized others rest) :
    Sized (fields ++ others) (layout ++ rest) := List.rel_append first second

theorem within (sized : Sized fields layout)
    (inside : ∀ place ∈ layout, low ≤ place.1 ∧ place.1 + place.2 ≤ high) :
    Within low high fields := by
  induction sized with
  | nil => exact fun field member => (nomatch member)
  | cons here _ ih =>
    intro field member bytes held
    rcases List.mem_cons.mp member with rfl | later
    · rw [here.1, here.2 bytes held]
      exact inside _ List.mem_cons_self
    · exact ih (fun place there => inside place (List.mem_cons_of_mem _ there)) field later bytes held

theorem apart (sized : Sized fields layout)
    (apart : layout.Pairwise fun first second => Apart first.1 first.2 second.1 second.2) :
    fields.Pairwise FieldsApart := by
  induction sized with
  | nil => exact List.Pairwise.nil
  | @cons field place fields layout here later ih =>
    obtain ⟨first, others⟩ := List.pairwise_cons.mp apart
    refine List.pairwise_cons.mpr ⟨fun other member bytes others' held held' => ?_, ih others⟩
    obtain ⟨next, inside, there⟩ := exists_mem_of_forall₂ later member
    rw [here.1, here.2 bytes held, there.1, there.2 others' held']
    exact first next inside

end Sized

section Fields

variable {memory after : ByteMemory} {offset low high : Nat} {fields : List Field}

theorem storeFields_append (first second : List Field) :
    storeFields offset (first ++ second) =
      fun memory => storeFields offset first memory >>= storeFields offset second := by
  funext memory
  induction first generalizing memory with
  | nil => rfl
  | cons field rest ih =>
    rw [List.cons_append, storeFields, storeFields]
    cases storeField offset field memory with
    | error stopped => rfl
    | ok next => exact ih next

/-- However far it comes, it leaves what is outside of the fields. -/
theorem storeFields_outside {place : Nat} (within : Within low high fields)
    (outside : place < offset + low ∨ offset + high ≤ place) :
    (storeFields offset fields memory).memory place = memory place := by
  induction fields generalizing memory with
  | nil => rfl
  | cons field rest ih =>
    rw [storeFields, storeField]
    cases here : field.2 with
    | none => rfl
    | some bytes =>
      have bounds := within field List.mem_cons_self bytes here
      refine (ih fun other member => within other (List.mem_cons_of_mem _ member)).trans ?_
      exact write_outside memory (by omega)

theorem storeFields_ok (some_ : ∀ field ∈ fields, field.2.isSome) (memory : ByteMemory) :
    ∃ after, storeFields offset fields memory = .ok after := by
  induction fields generalizing memory with
  | nil => exact ⟨memory, rfl⟩
  | cons field rest ih =>
    obtain ⟨bytes, here⟩ := Option.isSome_iff_exists.mp (some_ field List.mem_cons_self)
    rw [storeFields, storeField, here]
    exact ih (fun other member => some_ other (List.mem_cons_of_mem _ member)) _

theorem storeFields_error (missing : ∃ field ∈ fields, field.2 = none) (memory : ByteMemory) :
    ∃ stopped, storeFields offset fields memory = .error stopped := by
  induction fields generalizing memory with
  | nil =>
    obtain ⟨field, member, -⟩ := missing
    cases member
  | cons field rest ih =>
    rw [storeFields, storeField]
    cases here : field.2 with
    | none => exact ⟨memory, rfl⟩
    | some bytes =>
      obtain ⟨other, member, none_⟩ := missing
      rcases List.mem_cons.mp member with rfl | later
      · exact absurd (here.symm.trans none_) (Option.some_ne_none _)
      · exact ih ⟨other, later, none_⟩ _

/-- What later fields do not touch stays as it is. -/
theorem read_storeFields {field : Field} {bytes : List UInt8} (here : field.2 = some bytes)
    (apart : ∀ other ∈ fields, FieldsApart field other)
    (stored : storeFields offset fields memory = .ok after) :
    after.read (offset + field.1) bytes.length = memory.read (offset + field.1) bytes.length := by
  induction fields generalizing memory with
  | nil =>
    cases stored
    rfl
  | cons other rest ih =>
    rw [storeFields, storeField] at stored
    cases written : other.2 with
    | none =>
      rw [written] at stored
      cases stored
    | some others =>
      rw [written] at stored
      refine (ih (fun next member => apart next (List.mem_cons_of_mem _ member)) stored).trans ?_
      have separate := apart other List.mem_cons_self bytes others here written
      refine read_write_apart memory ?_
      unfold Apart at *
      omega

/-- Fields that are apart are all there afterwards. -/
theorem stored_of_storeFields (apart : fields.Pairwise FieldsApart)
    (stored : storeFields offset fields memory = .ok after) : Stored after offset fields := by
  induction fields generalizing memory with
  | nil => exact fun field member => (nomatch member)
  | cons field rest ih =>
    obtain ⟨others, later⟩ := List.pairwise_cons.mp apart
    rw [storeFields, storeField] at stored
    cases here : field.2 with
    | none =>
      rw [here] at stored
      cases stored
    | some bytes =>
      rw [here] at stored
      intro other member
      rcases List.mem_cons.mp member with rfl | inside
      · exact ⟨bytes, here, (read_storeFields here others stored).trans (read_write ..)⟩
      · exact ih later stored other inside

/-- Memories that agree where the fields are. -/
theorem Stored.congr (stored : Stored memory offset fields) (within : Within low high fields)
    (agree : ∀ place, offset + low ≤ place → place < offset + high → after place = memory place) :
    Stored after offset fields := by
  intro field member
  obtain ⟨bytes, here, read⟩ := stored field member
  have bounds := within field member bytes here
  exact ⟨bytes, here, (read_congr fun place since before =>
    agree place (by omega) (by omega)).trans read⟩

end Fields

end ByteMemory

end InferenceServer.Machine
