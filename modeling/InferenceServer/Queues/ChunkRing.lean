import InferenceServer.Machine.RingWindow
import InferenceServer.Queues.MemoryQueue

/-! What the slots hold, by the numbers of the items: an item that has been enqueued and not read
is whole in its slot, and a slot ahead of it is not marked ready. -/
namespace InferenceServer.Queues

open Machine

namespace Chunk

variable {chunk data slot : Chunk} {item : Item}
variable {field following : Field}

/-- The slot holds the item, whether or not it is marked ready. -/
structure Has (chunk : Chunk) (item : Item) : Prop where
  taskId : chunk.taskId = item.taskId
  text : chunk.text = item.text
  isFinal : chunk.isFinal = if item.isFinal then 1 else 0

/-- The fields that a producer stores before this one are the item's. -/
def StoredBefore (chunk : Chunk) (item : Item) : Field → Prop
  | .taskId => True
  | .text => chunk.taskId = item.taskId
  | .isFinal => chunk.taskId = item.taskId ∧ chunk.text = item.text
  | .itemAvailable => chunk.Has item

/-- The fields that a copy reads before this one are the item's. -/
def CopiedBefore (data : Chunk) (item : Item) : Field → Prop
  | .taskId => True
  | .isFinal => data.taskId = item.taskId
  | .text => data.taskId = item.taskId ∧ data.isFinal = if item.isFinal then 1 else 0
  | .itemAvailable => data.Has item

theorem StoredBefore.store (before : chunk.StoredBefore item field)
    (next : field.afterStore = some following) :
    (chunk.store item field).StoredBefore item following := by
  cases field with
  | taskId =>
    cases next
    exact rfl
  | text =>
    cases next
    exact ⟨before, rfl⟩
  | isFinal =>
    cases next
    exact ⟨before.1, before.2, rfl⟩
  | itemAvailable => cases next

theorem StoredBefore.last (before : chunk.StoredBefore item field) (last : field.afterStore = none)
    : (chunk.store item field).Has item := by
  cases field with
  | itemAvailable => exact ⟨before.taskId, before.text, before.isFinal⟩
  | taskId | text | isFinal => cases last

theorem CopiedBefore.copyField (before : data.CopiedBefore item field) (held : slot.Has item)
    (next : field.afterCopy = some following) :
    (data.copyField slot field).CopiedBefore item following := by
  cases field with
  | taskId =>
    cases next
    exact held.taskId
  | isFinal =>
    cases next
    exact ⟨before, held.isFinal⟩
  | text =>
    cases next
    exact ⟨before.1, held.text, before.2⟩
  | itemAvailable => cases next

theorem CopiedBefore.last (before : data.CopiedBefore item field) (last : field.afterCopy = none) :
    (data.copyField slot field).Has item := by
  cases field with
  | itemAvailable => exact ⟨before.taskId, before.text, before.isFinal⟩
  | taskId | isFinal | text => cases last

/-- A reader that has copied an item returns it. -/
theorem Has.item_eq (held : data.Has item) : data.item = item.strip := by
  have final : decide (data.isFinal = 1) = item.isFinal := by
    rw [held.isFinal]
    cases item.isFinal <;> rfl
  rw [Chunk.item, Item.strip, held.taskId, held.text, final]

@[simp] theorem itemAvailable_store (other : field.afterStore ≠ none) :
    (chunk.store item field).itemAvailable = chunk.itemAvailable := by
  cases field with
  | taskId | text | isFinal => rfl
  | itemAvailable => exact absurd rfl other

end Chunk

namespace Memory

variable {memory : Memory} {enqueued : List Item} {slot position val : Nat}
  {first freed published ready marked : Nat} {item : Item} {field : Field}

@[simp] theorem buffer_store_same :
    (memory.store slot item field).buffer slot = (memory.buffer slot).store item field :=
  Function.update_self ..

theorem buffer_store_other (other : position ≠ slot) :
    (memory.store slot item field).buffer position = memory.buffer position :=
  Function.update_of_ne other ..

@[simp] theorem buffer_mark_same :
    (memory.mark slot).buffer slot = { memory.buffer slot with itemAvailable := 0 } :=
  Function.update_self ..

theorem buffer_mark_other (other : position ≠ slot) :
    (memory.mark slot).buffer position = memory.buffer position :=
  Function.update_of_ne other ..

theorem has_mark_iff : ((memory.mark slot).buffer position).Has item ↔
    (memory.buffer position).Has item := by
  by_cases same : position = slot
  · rw [same, buffer_mark_same]
    exact ⟨fun held => ⟨held.taskId, held.text, held.isFinal⟩,
      fun held => ⟨held.taskId, held.text, held.isFinal⟩⟩
  · rw [buffer_mark_other same]

/-- The slots when `first` items have been got, the read index has been moved `freed` times and
the write index `published` times. -/
structure Holds (memory : Memory) (enqueued : List Item) (first freed published : Nat) :
    Prop where
  roomy : margin < memory.capacity
  writeIdx : memory.writeIdx = published % memory.capacity
  readIdx : memory.readIdx = freed % memory.capacity
  read : first ≤ freed ∧ freed ≤ first + 1
  ordered : freed ≤ published
  fits : published + margin ≤ freed + memory.capacity
  filled : enqueued.length ≤ published
  unread : ∀ position item, first ≤ position → enqueued[position]? = some item →
    (memory.buffer (position % memory.capacity)).Has item.cut

/-- No slot from `ready` on is marked ready, for one round after the slots that are free. -/
def Unready (memory : Memory) (freed ready : Nat) : Prop :=
  ∀ position, ready ≤ position → position < freed + memory.capacity →
    (memory.buffer (position % memory.capacity)).itemAvailable = 0

/-- The reader has marked as many slots. -/
def Marked (memory : Memory) (freed marked : Nat) : Prop :=
  ∀ position, freed ≤ position → position < freed + marked →
    (memory.buffer (position % memory.capacity)).itemAvailable = 0

theorem Holds.store (holds : memory.Holds enqueued first freed published)
    (after : enqueued.length ≤ position) (room : position + margin < freed + memory.capacity) :
    (memory.store (position % memory.capacity) item field).Holds enqueued first freed
      published := by
  refine { holds with unread := fun number other since found => ?_ }
  have before := (List.getElem?_eq_some_iff.mp found).1
  have apart : number % memory.capacity ≠ position % memory.capacity := by
    intro same
    have read := holds.read
    simp only [margin] at room
    have equal := eq_of_mod_eq same (by omega) (by omega)
    omega
  have held := holds.unread number other since found
  rw [← buffer_store_other apart] at held
  exact held

theorem Marked.store (kept : memory.Marked freed marked) (after : freed + marked ≤ position)
    (room : position < freed + memory.capacity) :
    (memory.store (position % memory.capacity) item field).Marked freed marked := by
  intro number since before
  have apart : number % memory.capacity ≠ position % memory.capacity := by
    intro same
    have equal := eq_of_mod_eq same (by omega) (by omega)
    omega
  exact (congrArg Chunk.itemAvailable (buffer_store_other apart)).trans (kept number since before)

/-- A field that is no mark changes no mark. -/
theorem Unready.store (unready : memory.Unready freed ready) (other : field.afterStore ≠ none) :
    (memory.store slot item field).Unready freed ready := by
  intro number since before
  have clear := unready number since before
  change ((memory.store slot item field).buffer (number % memory.capacity)).itemAvailable = 0
  by_cases same : number % memory.capacity = slot
  · rw [same] at clear ⊢
    rw [buffer_store_same, Chunk.itemAvailable_store other]
    exact clear
  · rw [buffer_store_other same]
    exact clear

/-- The next slot is marked ready. -/
theorem Unready.last (unready : memory.Unready freed ready) (after : freed ≤ ready) :
    (memory.store (ready % memory.capacity) item field).Unready freed (ready + 1) := by
  intro number since before
  have apart : number % memory.capacity ≠ ready % memory.capacity := by
    intro same
    change number < freed + memory.capacity at before
    have equal := eq_of_mod_eq same (by omega) (by omega)
    omega
  exact (congrArg Chunk.itemAvailable (buffer_store_other apart)).trans
    (unready number (by omega) before)

theorem Holds.mark (holds : memory.Holds enqueued first freed published) :
    (memory.mark slot).Holds enqueued first freed published :=
  { holds with unread := fun number other since found =>
      has_mark_iff.mpr (holds.unread number other since found) }

/-- Marking clears at most. -/
theorem itemAvailable_mark (clear : (memory.buffer position).itemAvailable = 0) :
    ((memory.mark slot).buffer position).itemAvailable = 0 := by
  by_cases same : position = slot
  · rw [same, buffer_mark_same]
  · rw [buffer_mark_other same]
    exact clear

theorem Unready.mark (unready : memory.Unready freed ready) :
    (memory.mark slot).Unready freed ready :=
  fun number since before => itemAvailable_mark (unready number since before)

theorem Marked.mark (kept : memory.Marked freed marked) :
    (memory.mark ((freed + marked) % memory.capacity)).Marked freed (marked + 1) := by
  intro number since before
  rcases Nat.lt_succ_iff_lt_or_eq.mp before with earlier | rfl
  · exact itemAvailable_mark (kept number since earlier)
  · exact congrArg Chunk.itemAvailable buffer_mark_same

section

variable (holds : memory.Holds enqueued first freed published)
include holds

/-- The writer publishes the slots up to `later`. -/
theorem Holds.setWriteIdx {later : Nat} {items : List Item}
    (index : val % memory.capacity = later % memory.capacity) (ordered : published ≤ later)
    (fits : later + margin ≤ freed + memory.capacity) (filled : (enqueued ++ items).length ≤ later)
    (unread : ∀ number item, items[number]? = some item →
      (memory.buffer ((enqueued.length + number) % memory.capacity)).Has item.cut) :
    (memory.setWriteIdx val).Holds (enqueued ++ items) first freed later where
  roomy := holds.roomy
  writeIdx := index
  readIdx := holds.readIdx
  read := holds.read
  ordered := holds.ordered.trans ordered
  fits := fits
  filled := filled
  unread := by
    intro number item since found
    rcases Nat.lt_or_ge number enqueued.length with before | after
    · rw [List.getElem?_append_left before] at found
      exact holds.unread number item since found
    · rw [List.getElem?_append_right after] at found
      have held := unread (number - enqueued.length) item found
      rw [Nat.add_sub_cancel' after] at held
      exact held

/-- The item in the last slot that is published is enqueued. -/
theorem Holds.enqueue (filled : enqueued.length < published)
    (held : (memory.buffer (enqueued.length % memory.capacity)).Has item.cut) :
    memory.Holds (enqueued ++ [item]) first freed published := by
  refine { holds with
    filled := by
      rw [List.length_append]
      exact filled
    unread := fun number other since found => ?_ }
  rcases Nat.lt_or_ge number enqueued.length with before | after
  · rw [List.getElem?_append_left before] at found
    exact holds.unread number other since found
  · rw [List.getElem?_append_right after] at found
    rw [List.getElem?_singleton] at found
    split at found
    · cases found
      rw [show number = enqueued.length by omega]
      exact held
    · cases found

/-- The reader frees the slots up to `later`. -/
theorem Holds.setReadIdx {later got : Nat} (index : val % memory.capacity = later % memory.capacity)
    (since : freed ≤ later) (ordered : later ≤ published) (read : got ≤ later ∧ later ≤ got + 1)
    (onward : first ≤ got) :
    (memory.setReadIdx val).Holds enqueued got later published where
  roomy := holds.roomy
  writeIdx := holds.writeIdx
  readIdx := index
  read := read
  ordered := ordered
  fits := holds.fits.trans (Nat.add_le_add_right since _)
  filled := holds.filled
  unread := fun number item after => holds.unread number item (onward.trans after)

end

/-- A slot that was marked as read is free for the next round. -/
theorem Unready.free (unready : memory.Unready freed ready) (kept : memory.Marked freed marked) :
    (memory.setReadIdx val).Unready (freed + marked) ready := by
  intro number since before
  change number < freed + marked + memory.capacity at before
  rcases Nat.lt_or_ge number (freed + memory.capacity) with near | far
  · exact unready number since near
  · have clear := kept (number - memory.capacity) (by omega) (by omega)
    have round : (number - memory.capacity) % memory.capacity = number % memory.capacity := by
      rw [← Nat.add_mod_right, Nat.sub_add_cancel (by omega)]
    rw [round] at clear
    exact clear

theorem Marked.none (memory : Memory) (freed : Nat) : memory.Marked freed 0 := by
  intro number since before
  omega

/-- Some items less than a round on, the index has come round at most once. -/
theorem add_mod_cases (position : Nat) {steps size : Nat} (few : steps < size) :
    (position + steps) % size = position % size + steps ∨
      (position + steps) % size + size = position % size + steps := by
  rw [← Nat.mod_add_mod]
  have within := Nat.mod_lt position (show 0 < size by omega)
  by_cases straight : position % size + steps < size
  · exact .inl (Nat.mod_eq_of_lt straight)
  · right
    rw [Nat.mod_eq_sub_mod (by omega), Nat.mod_eq_of_lt (by omega)]
    omega

section

variable (holds : memory.Holds enqueued first freed published)
include holds

/-- The indices tell how many slots are published and not free. -/
theorem Holds.size_eq :
    memory.size (published % memory.capacity) (freed % memory.capacity) = published - freed := by
  obtain ⟨steps, rfl⟩ := Nat.exists_eq_add_of_le holds.ordered
  have roomy := holds.roomy
  have fits := holds.fits
  simp only [margin] at roomy fits
  have within := Nat.mod_lt freed (show 0 < memory.capacity by omega)
  unfold size
  rcases add_mod_cases freed (show steps < memory.capacity by omega) with
    straight | round <;> split <;> omega

/-- `put_many` keeps to the same margin. -/
theorem Holds.availableSpace_eq :
    memory.availableSpace (published % memory.capacity) (freed % memory.capacity) =
      freed + memory.capacity - published - margin := by
  obtain ⟨steps, rfl⟩ := Nat.exists_eq_add_of_le holds.ordered
  have roomy := holds.roomy
  have fits := holds.fits
  simp only [margin] at roomy fits
  have within := Nat.mod_lt freed (show 0 < memory.capacity by omega)
  have below := Nat.mod_lt (freed + steps) (show 0 < memory.capacity by omega)
  unfold availableSpace margin
  rcases add_mod_cases freed (show steps < memory.capacity by omega) with
    straight | round <;> split <;> omega

end

end Memory
end InferenceServer.Queues
