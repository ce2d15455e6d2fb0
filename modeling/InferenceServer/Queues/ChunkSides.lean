import InferenceServer.Queues.ChunkRing

/-! What the place of the producer and the place of the consumer say about the ring, and that
each side keeps what the other relies on. -/
namespace InferenceServer.Queues

open Machine

/-- What the queue makes of an item. -/
def Item.kept (item : Item) : Item := item.cut.strip

/-- The copy is the item with the number. -/
def Copied (enqueued : List Item) (number : Nat) (data : Chunk) : Prop :=
  ∃ item, enqueued[number]? = some item ∧ data.Has item.cut

/-- The copy is so far the item with the number. -/
def Copying (enqueued : List Item) (number : Nat) (data : Chunk) (field : Field) : Prop :=
  field = .taskId ∨ ∃ item, enqueued[number]? = some item ∧ data.CopiedBefore item.cut field

/-- What the place of the producer says, when `freed` slots have been freed. -/
def ProducerFits (memory : Memory) (enqueued : List Item) (freed : Nat) : Producer → Prop
  | .idle | .sizing _ | .measuring _ _ | .waiting _ => True
  | .sized _ writeIdx | .spacing _ _ writeIdx =>
    writeIdx = enqueued.length % memory.capacity
  | .claiming _ => enqueued.length + margin < freed + memory.capacity
  | .publishing _ slot => slot = enqueued.length % memory.capacity ∧
      enqueued.length + margin < freed + memory.capacity
  | .filling item slot field => slot = enqueued.length % memory.capacity ∧
      (memory.buffer slot).StoredBefore item.cut field
  | .batching _ kept writeIdx index field => writeIdx = enqueued.length % memory.capacity ∧
      enqueued.length + kept.length + margin ≤ freed + memory.capacity ∧ index ≤ kept.length ∧
      (∀ earlier item, earlier < index → kept[earlier]? = some item →
        (memory.buffer ((enqueued.length + earlier) % memory.capacity)).Has item.cut) ∧
      ∀ item, kept[index]? = some item →
        (memory.buffer ((enqueued.length + index) % memory.capacity)).StoredBefore item.cut field

/-- How many slots the producer has published ahead of the items. -/
def Producer.claimed : Producer → Nat
  | .filling _ _ _ => 1
  | _ => 0

/-- How many slots the producer has marked ready ahead of the items. -/
def Producer.ahead : Producer → Nat
  | .batching _ _ _ index _ => index
  | _ => 0

/-- What the place of the consumer says, when `published` slots have been published. -/
def ConsumerFits (capacity : Nat) (enqueued obtained : List Item) (published : Nat) :
    Consumer → Prop
  | .idle | .getting | .trying | .manyGetting _ _ => True
  | .getRead readIdx | .tryRead readIdx | .manyRead _ _ readIdx =>
    readIdx = obtained.length % capacity
  | .tryChecking readIdx => readIdx = obtained.length % capacity ∧ obtained.length < published
  | .getCopying readIdx data field => readIdx = obtained.length % capacity ∧
      obtained.length < published ∧ Copying enqueued obtained.length data field
  | .getMarking readIdx data | .getMoving readIdx data =>
    readIdx = obtained.length % capacity ∧ Copied enqueued obtained.length data
  | .tryMarking readIdx | .tryMoving readIdx =>
    readIdx = obtained.length % capacity ∧ obtained.length < enqueued.length
  | .tryCopying readIdx data field => readIdx = obtained.length % capacity ∧
      obtained.length < enqueued.length ∧ Copying enqueued obtained.length data field
  | .manyCopying readIdx count results data field => readIdx = obtained.length % capacity ∧
      obtained.length + count ≤ published ∧ results.length < count ∧
      obtained ++ results <+: enqueued.map Item.kept ∧
      Copying enqueued (obtained ++ results).length data field
  | .manyMarking readIdx count results data => readIdx = obtained.length % capacity ∧
      obtained.length + count ≤ published ∧ results.length < count ∧
      obtained ++ results <+: enqueued.map Item.kept ∧
      Copied enqueued (obtained ++ results).length data
  | .manyMoving readIdx results => readIdx = obtained.length % capacity ∧
      obtained ++ results <+: enqueued.map Item.kept

/-- How many slots the consumer has freed ahead of the items. -/
def Consumer.taken : Consumer → Nat
  | .tryCopying _ _ _ => 1
  | _ => 0

/-- How many slots the consumer has marked as read and not freed. -/
def Consumer.marked : Consumer → Nat
  | .getMoving _ _ | .tryMoving _ => 1
  | .manyCopying _ _ results _ _ | .manyMarking _ _ results _ | .manyMoving _ results =>
    results.length
  | _ => 0

section Copies

variable {enqueued more obtained results : List Item} {number : Nat} {data slot : Chunk}
  {field following : Field}

theorem Copied.append (copied : Copied enqueued number data) :
    Copied (enqueued ++ more) number data := by
  obtain ⟨item, found, held⟩ := copied
  exact ⟨item, List.getElem?_append_left (List.getElem?_eq_some_iff.mp found).1 ▸ found, held⟩

theorem Copying.append (copying : Copying enqueued number data field) :
    Copying (enqueued ++ more) number data field := by
  rcases copying with first | ⟨item, found, before⟩
  · exact .inl first
  · exact .inr ⟨item, List.getElem?_append_left (List.getElem?_eq_some_iff.mp found).1 ▸ found,
      before⟩

theorem Copied.lt (copied : Copied enqueued number data) : number < enqueued.length := by
  obtain ⟨item, found, _⟩ := copied
  exact (List.getElem?_eq_some_iff.mp found).1

/-- One more field of a slot that holds the item. -/
theorem Copying.next (copying : Copying enqueued number data field) {item : Item}
    (found : enqueued[number]? = some item) (held : slot.Has item.cut)
    (next : field.afterCopy = some following) :
    Copying enqueued number (data.copyField slot field) following := by
  refine .inr ⟨item, found, ?_⟩
  rcases copying with rfl | ⟨other, here, before⟩
  · exact Chunk.CopiedBefore.copyField (show data.CopiedBefore item.cut .taskId from trivial) held next
  · cases found.symm.trans here
    exact before.copyField held next

theorem Copying.last (copying : Copying enqueued number data field)
    (last : field.afterCopy = none) : Copied enqueued number (data.copyField slot field) := by
  rcases copying with rfl | ⟨item, found, before⟩
  · cases last
  · exact ⟨item, found, before.last last⟩

/-- The copy of the next item extends what has been got. -/
theorem Copied.extends (copied : Copied enqueued obtained.length data)
    (got : obtained <+: enqueued.map Item.kept) :
    obtained ++ [data.item] <+: enqueued.map Item.kept := by
  obtain ⟨item, found, held⟩ := copied
  obtain ⟨rest, split⟩ := got
  have next : (obtained ++ rest)[obtained.length]? = some item.kept := by
    rw [split, List.getElem?_map, found]
    rfl
  rw [List.getElem?_append_right le_rfl, Nat.sub_self] at next
  cases rest with
  | nil => cases next
  | cons head tail =>
    cases next
    rw [held.item_eq, ← split]
    exact ⟨tail, by rw [List.append_assoc]; rfl⟩

end Copies

section Frames

variable {memory : Memory} {enqueued more obtained : List Item} {freed later slot : Nat}
  {capacity published : Nat} {producer : Producer} {consumer : Consumer}

theorem prefix_append (got : obtained <+: enqueued.map Item.kept) :
    obtained <+: (enqueued ++ more).map Item.kept := by
  rw [List.map_append]
  exact got.trans (List.prefix_append _ _)

/-- What the consumer relies on stays as the producer goes on. -/
theorem ConsumerFits.mono (fits : ConsumerFits capacity enqueued obtained published consumer)
    (since : published ≤ later) :
    ConsumerFits capacity (enqueued ++ more) obtained later consumer := by
  have longer : enqueued.length ≤ (enqueued ++ more).length := by simp
  cases consumer with
  | idle | getting | trying | manyGetting => trivial
  | getRead | tryRead | manyRead => exact fits
  | tryChecking => exact ⟨fits.1, fits.2.trans_le since⟩
  | getCopying => exact ⟨fits.1, fits.2.1.trans_le since, fits.2.2.append⟩
  | getMarking | getMoving => exact ⟨fits.1, fits.2.append⟩
  | tryMarking | tryMoving => exact ⟨fits.1, fits.2.trans_le longer⟩
  | tryCopying => exact ⟨fits.1, fits.2.1.trans_le longer, fits.2.2.append⟩
  | manyCopying =>
    obtain ⟨index, within, few, got, copying⟩ := fits
    exact ⟨index, within.trans since, few, prefix_append got, copying.append⟩
  | manyMarking =>
    obtain ⟨index, within, few, got, copied⟩ := fits
    exact ⟨index, within.trans since, few, prefix_append got, copied.append⟩
  | manyMoving => exact ⟨fits.1, prefix_append fits.2⟩

/-- What the producer relies on stays as slots are freed. -/
theorem ProducerFits.mono (fits : ProducerFits memory enqueued freed producer)
    (since : freed ≤ later) : ProducerFits memory enqueued later producer := by
  have room := Nat.add_le_add_right since memory.capacity
  cases producer with
  | idle | sizing | measuring | waiting => trivial
  | sized | spacing | filling => exact fits
  | claiming => exact Nat.lt_of_lt_of_le fits room
  | publishing => exact ⟨fits.1, fits.2.trans_le room⟩
  | batching =>
    obtain ⟨index, within, few, earlier, here⟩ := fits
    exact ⟨index, within.trans room, few, earlier, here⟩

theorem Chunk.storedBefore_mark {chunk : Chunk} {item : Item} {field : Field}
    (before : chunk.StoredBefore item field) :
    Chunk.StoredBefore { chunk with itemAvailable := 0 } item field := by
  cases field with
  | taskId => trivial
  | text | isFinal => exact before
  | itemAvailable => exact ⟨before.taskId, before.text, before.isFinal⟩

/-- A mark of the consumer leaves what the producer has stored. -/
theorem ProducerFits.mark (fits : ProducerFits memory enqueued freed producer) :
    ProducerFits (memory.mark slot) enqueued freed producer := by
  have kept : ∀ position item field, (memory.buffer position).StoredBefore item field →
      ((memory.mark slot).buffer position).StoredBefore item field := by
    intro position item field before
    by_cases same : position = slot
    · rw [same, Memory.buffer_mark_same]
      exact Chunk.storedBefore_mark (same ▸ before)
    · rw [Memory.buffer_mark_other same]
      exact before
  cases producer with
  | idle | sizing | measuring | waiting => trivial
  | sized | spacing | claiming | publishing => exact fits
  | filling => exact ⟨fits.1, kept _ _ _ fits.2⟩
  | batching =>
    obtain ⟨index, within, few, earlier, here⟩ := fits
    exact ⟨index, within, few, fun number item before found =>
      Memory.has_mark_iff.mpr (earlier number item before found),
      fun item found => kept _ _ _ (here item found)⟩

end Frames

namespace ChunkQueue

def published (queue : ChunkQueue) : Nat := queue.enqueued.length + queue.producer.claimed

def freed (queue : ChunkQueue) : Nat := queue.obtained.length + queue.consumer.taken

/-- What holds in every state of a run. -/
structure Sound (queue : ChunkQueue) : Prop where
  holds : queue.memory.Holds queue.enqueued queue.obtained.length queue.freed queue.published
  unready : queue.memory.Unready queue.freed (queue.enqueued.length + queue.producer.ahead)
  marked : queue.memory.Marked queue.freed queue.consumer.marked
  producer : ProducerFits queue.memory queue.enqueued queue.freed queue.producer
  consumer : ConsumerFits queue.memory.capacity queue.enqueued queue.obtained queue.published
    queue.consumer
  obtained : queue.obtained <+: queue.enqueued.map Item.kept

end ChunkQueue
end InferenceServer.Queues
