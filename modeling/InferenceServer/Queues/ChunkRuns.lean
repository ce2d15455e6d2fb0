import InferenceServer.Queues.ChunkSides

/-! What every access of the producer and of the consumer keeps. -/
namespace InferenceServer.Queues.ChunkQueue

open Machine

variable {queue next : ChunkQueue}

section

variable (sound : queue.Sound)
include sound

/-- The producer moves on without touching what is shared. -/
theorem Sound.producerAt {producer before : Producer} {accepted : List Item}
    (here : queue.producer = before)
    (fits : ProducerFits queue.memory queue.enqueued queue.freed producer)
    (claimed : producer.claimed = before.claimed) (ahead : producer.ahead = before.ahead) :
    { queue with producer, accepted }.Sound := by
  subst here
  have published : { queue with producer, accepted }.published = queue.published :=
    congrArg (queue.enqueued.length + ·) claimed
  refine ⟨?_, ?_, sound.marked, fits, ?_, sound.obtained⟩
  · rw [published]
    exact sound.holds
  · dsimp only
    rw [ahead]
    exact sound.unready
  · rw [published]
    exact sound.consumer

/-- The consumer moves on without touching what is shared. -/
theorem Sound.consumerAt {consumer before : Consumer} (here : queue.consumer = before)
    (fits : ConsumerFits queue.memory.capacity queue.enqueued queue.obtained queue.published
      consumer) (taken : consumer.taken = before.taken) (marked : consumer.marked = before.marked) :
    { queue with consumer }.Sound := by
  subst here
  have freed : { queue with consumer }.freed = queue.freed :=
    congrArg (queue.obtained.length + ·) taken
  refine ⟨?_, ?_, ?_, ?_, fits, sound.obtained⟩
  · rw [freed]
    exact sound.holds
  · rw [freed]
    exact sound.unready
  · rw [freed]
    dsimp only
    rw [marked]
    exact sound.marked
  · rw [freed]
    exact sound.producer

/-- What the consumer has marked has been enqueued. -/
theorem Sound.marked_le : queue.freed + queue.consumer.marked ≤ queue.enqueued.length := by
  have got := sound.obtained.length_le
  have fits := sound.consumer
  unfold freed
  rw [List.length_map] at got
  cases consumer : queue.consumer with
  | idle | getting | trying | manyGetting | getRead | tryRead | manyRead | tryChecking |
    getCopying | getMarking | tryMarking => exact got
  | getMoving =>
    rw [consumer] at fits
    exact fits.2.lt
  | tryMoving =>
    rw [consumer] at fits
    exact fits.2
  | tryCopying =>
    rw [consumer] at fits
    exact fits.2.1
  | manyCopying =>
    rw [consumer] at fits
    have longer := fits.2.2.2.1.length_le
    rw [List.length_append, List.length_map] at longer
    exact longer
  | manyMarking =>
    rw [consumer] at fits
    have longer := fits.2.2.2.1.length_le
    rw [List.length_append, List.length_map] at longer
    exact longer
  | manyMoving =>
    rw [consumer] at fits
    have longer := fits.2.length_le
    rw [List.length_append, List.length_map] at longer
    exact longer

theorem freed_le : queue.freed ≤ queue.enqueued.length :=
  (Nat.le_add_right _ _).trans sound.marked_le

end

section Produce

variable {item : Item} {field : Field} {slot writeIdx index : Nat} {items kept : List Item}

section

variable (sound : queue.Sound)
include sound

/-- The producer stores a field other than the mark in the slot of an item to come. -/
theorem Sound.stores {position : Nat} {producer before : Producer} (here : queue.producer = before)
    (after : queue.enqueued.length ≤ position)
    (room : position + margin < queue.freed + queue.memory.capacity)
    (other : field.afterStore ≠ none)
    (fits : ProducerFits (queue.memory.store (position % queue.memory.capacity) item field)
      queue.enqueued queue.freed producer) (claimed : producer.claimed = before.claimed)
    (ahead : producer.ahead = before.ahead) :
    { queue with
      memory := queue.memory.store (position % queue.memory.capacity) item field
      producer }.Sound := by
  subst here
  have published : { queue with
      memory := queue.memory.store (position % queue.memory.capacity) item field
      producer }.published = queue.published := congrArg (queue.enqueued.length + ·) claimed
  refine ⟨?_, ?_, ?_, fits, ?_, sound.obtained⟩
  · rw [published]
    exact sound.holds.store after room
  · dsimp only
    rw [ahead]
    exact sound.unready.store other
  · exact sound.marked.store (sound.marked_le.trans after) (by omega)
  · rw [published]
    exact sound.consumer

theorem Sound.publishing (here : queue.producer = .publishing item slot) :
    { queue with
      memory := queue.memory.setWriteIdx ((slot + 1) % queue.memory.capacity)
      producer := .filling item slot .taskId }.Sound := by
  have fits := sound.producer
  rw [here] at fits
  obtain ⟨rfl, room⟩ := fits
  have holds := sound.holds
  have published : queue.published = queue.enqueued.length := by rw [published, here]; rfl
  rw [published] at holds
  have moved : Memory.Holds _ (queue.enqueued ++ []) _ _ (queue.enqueued.length + 1) :=
    holds.setWriteIdx
      (show (queue.enqueued.length % queue.memory.capacity + 1) % queue.memory.capacity %
        queue.memory.capacity = _ by simp)
      (by omega) (by omega) (by simp) (by simp)
  rw [List.append_nil] at moved
  refine ⟨moved, ?_, sound.marked, ⟨rfl, trivial⟩, ?_, sound.obtained⟩
  · have unready := sound.unready
    rw [here] at unready
    exact unready
  · have consumer := sound.consumer
    rw [published] at consumer
    have later : ConsumerFits _ (queue.enqueued ++ []) _ _ _ :=
      consumer.mono (Nat.le_succ queue.enqueued.length)
    rw [List.append_nil] at later
    exact later

section

variable (here : queue.producer = .filling item slot field)
include here

theorem Sound.filling {following : Field} (follows : field.afterStore = some following) :
    { queue with
      memory := queue.memory.store slot item.cut field
      producer := .filling item slot following }.Sound := by
  have fits := sound.producer
  rw [here] at fits
  obtain ⟨rfl, before⟩ := fits
  have published : queue.published = queue.enqueued.length + 1 := by rw [published, here]; rfl
  have room := sound.holds.fits
  rw [published] at room
  refine sound.stores here le_rfl (by omega) (by rw [follows]; nofun) ⟨rfl, ?_⟩ rfl rfl
  rw [Memory.buffer_store_same]
  exact before.store follows

theorem Sound.filled {accepted : List Item} (last : field.afterStore = none) :
    { queue with
      memory := queue.memory.store slot item.cut field
      producer := .idle
      accepted
      enqueued := queue.enqueued ++ [item] }.Sound := by
  have fits := sound.producer
  rw [here] at fits
  obtain ⟨rfl, before⟩ := fits
  have published : queue.published = queue.enqueued.length + 1 := by rw [published, here]; rfl
  have holds := sound.holds
  have unready := sound.unready
  have consumer := sound.consumer
  rw [published] at holds consumer
  rw [here] at unready
  have room := holds.fits
  have length : (queue.enqueued ++ [item]).length = queue.enqueued.length + 1 :=
    List.length_append
  refine ⟨?_, ?_, ?_, trivial, ?_, prefix_append sound.obtained⟩
  · have held := before.last last
    rw [← Memory.buffer_store_same] at held
    have enqueued := (holds.store le_rfl (by omega)).enqueue (Nat.lt_succ_self _) held
    rw [← length] at enqueued
    exact enqueued
  · change Memory.Unready _ queue.freed ((queue.enqueued ++ [item]).length + 0)
    rw [length]
    exact unready.last (freed_le sound)
  · exact sound.marked.store sound.marked_le (by omega)
  · have later : ConsumerFits _ (queue.enqueued ++ [item]) _ _ _ := consumer.mono le_rfl
    rw [← length] at later
    exact later

end

section

variable (here : queue.producer = .batching items kept writeIdx index field)
include here

theorem Sound.batching {following : Field} (found : kept[index]? = some item)
    (follows : field.afterStore = some following) :
    { queue with
      memory := queue.memory.store ((writeIdx + index) % queue.memory.capacity) item.cut field
      producer := .batching items kept writeIdx index following }.Sound := by
  have fits := sound.producer
  rw [here] at fits
  obtain ⟨rfl, within, few, earlier, now⟩ := fits
  have inside := (List.getElem?_eq_some_iff.mp found).1
  rw [Nat.mod_add_mod]
  refine sound.stores here (Nat.le_add_right _ _) (by omega) (by rw [follows]; nofun)
    ⟨rfl, within, few, fun number other before there => ?_, fun other there => ?_⟩ rfl rfl
  · have apart : (queue.enqueued.length + number) % queue.memory.capacity ≠
        (queue.enqueued.length + index) % queue.memory.capacity := by
      intro same
      have read := freed_le sound
      have equal := eq_of_mod_eq same (by omega) (by omega)
      omega
    have held := earlier number other before there
    rw [← Memory.buffer_store_other apart] at held
    exact held
  · cases found.symm.trans there
    have stored := (now item found).store follows
    rw [← Memory.buffer_store_same] at stored
    exact stored

/-- The last field of an item of the batch marks its slot ready. -/
theorem Sound.batched (found : kept[index]? = some item) (last : field.afterStore = none) :
    { queue with
      memory := queue.memory.store ((writeIdx + index) % queue.memory.capacity) item.cut field
      producer := .batching items kept writeIdx (index + 1) .taskId }.Sound := by
  have fits := sound.producer
  rw [here] at fits
  obtain ⟨rfl, within, few, earlier, now⟩ := fits
  have inside := (List.getElem?_eq_some_iff.mp found).1
  have unready := sound.unready
  rw [here] at unready
  have read := freed_le sound
  rw [Nat.mod_add_mod]
  have same : queue.published = { queue with
      memory := queue.memory.store ((queue.enqueued.length + index) % queue.memory.capacity)
        item.cut field
      producer := .batching items kept (queue.enqueued.length % queue.memory.capacity)
        (index + 1) .taskId }.published := by
    simp only [published, here, Producer.claimed]
  refine ⟨?_, ?_, ?_, ⟨rfl, within, inside, fun number other before there => ?_,
    fun _ _ => trivial⟩, ?_, sound.obtained⟩
  · rw [← same]
    exact sound.holds.store (Nat.le_add_right _ _) (by omega)
  · exact unready.last (read.trans (Nat.le_add_right _ _))
  · exact sound.marked.store (sound.marked_le.trans (Nat.le_add_right _ _)) (by omega)
  · rcases Nat.lt_succ_iff_lt_or_eq.mp before with sooner | rfl
    · have apart : (queue.enqueued.length + number) % queue.memory.capacity ≠
          (queue.enqueued.length + index) % queue.memory.capacity := by
        intro same
        have equal := eq_of_mod_eq same (by omega) (by omega)
        omega
      have held := earlier number other sooner there
      rw [← Memory.buffer_store_other apart] at held
      exact held
    · cases found.symm.trans there
      have held := (now item found).last last
      rw [← Memory.buffer_store_same] at held
      exact held
  · rw [← same]
    exact sound.consumer

theorem Sound.batchPublished {accepted : List Item} (found : kept[index]? = none) :
    { queue with
      memory := queue.memory.setWriteIdx (writeIdx + kept.length)
      producer := .idle
      accepted
      enqueued := queue.enqueued ++ kept }.Sound := by
  have fits := sound.producer
  rw [here] at fits
  obtain ⟨rfl, within, few, earlier, _⟩ := fits
  have full : index = kept.length := le_antisymm few (List.getElem?_eq_none_iff.mp found)
  subst full
  have unready := sound.unready
  rw [here] at unready
  have published : queue.published = queue.enqueued.length := by rw [published, here]; rfl
  have length : (queue.enqueued ++ kept).length = queue.enqueued.length + kept.length :=
    List.length_append
  have holds := sound.holds
  have consumer := sound.consumer
  rw [published] at holds consumer
  refine ⟨?_, ?_, sound.marked, trivial, ?_, prefix_append sound.obtained⟩
  · refine holds.setWriteIdx ?_ ?_ ?_ ?_ fun number item there => ?_
    · rw [Nat.mod_add_mod]
      exact congrArg (· % _) length.symm
    · change _ ≤ (queue.enqueued ++ kept).length + 0
      omega
    · change (queue.enqueued ++ kept).length + 0 + margin ≤ _
      omega
    · exact le_rfl
    · exact earlier number item (List.getElem?_eq_some_iff.mp there).1 there
  · change Memory.Unready _ queue.freed ((queue.enqueued ++ kept).length + 0)
    rw [length]
    exact unready
  · refine consumer.mono ?_
    change _ ≤ (queue.enqueued ++ kept).length + 0
    omega

end

theorem Sound.room (here : queue.producer = .sized item writeIdx)
    (free : ¬ queue.memory.capacity - margin ≤ queue.memory.size writeIdx queue.memory.readIdx) :
    queue.enqueued.length + margin < queue.freed + queue.memory.capacity := by
  have index := sound.producer
  rw [here] at index
  have published : queue.published = queue.enqueued.length := by rw [published, here]; rfl
  have holds := sound.holds
  rw [published] at holds
  have index : writeIdx = queue.enqueued.length % queue.memory.capacity := index
  rw [index, holds.readIdx, holds.size_eq] at free
  have ordered := holds.ordered
  omega

/-- The batch that `put_many` writes fits into the free slots. -/
theorem Sound.batch {block : Bool} (here : queue.producer = .spacing items block writeIdx)
    (few : kept.length ≤ queue.memory.availableSpace writeIdx queue.memory.readIdx) :
    { queue with producer := .batching items kept writeIdx 0 .taskId }.Sound := by
  have index := sound.producer
  rw [here] at index
  have published : queue.published = queue.enqueued.length := by rw [published, here]; rfl
  have holds := sound.holds
  rw [published] at holds
  have index : writeIdx = queue.enqueued.length % queue.memory.capacity := index
  rw [index, holds.readIdx, holds.availableSpace_eq] at few
  have fits := holds.fits
  refine sound.producerAt here ⟨index, by omega, Nat.zero_le _, fun _ _ before => ?_,
    fun _ _ => trivial⟩ rfl rfl
  cases before

/-- The index that a writer has just read. -/
theorem Sound.writeIdx_eq {before : Producer} (here : queue.producer = before)
    (settled : before.claimed = 0) :
    queue.memory.writeIdx = queue.enqueued.length % queue.memory.capacity := by
  rw [sound.holds.writeIdx, published, here, settled, Nat.add_zero]

theorem Sound.produce (stepped : queue.produce = some next) : next.Sound := by
  cases here : queue.producer with
  | idle =>
    rw [ChunkQueue.produce, here] at stepped
    cases stepped
  | sizing item =>
    rw [ChunkQueue.produce, here] at stepped
    cases stepped
    exact sound.producerAt here (sound.writeIdx_eq here rfl) rfl rfl
  | sized item writeIdx =>
    rw [ChunkQueue.produce, here] at stepped
    dsimp only at stepped
    split at stepped
    · cases stepped
      exact sound.producerAt here trivial rfl rfl
    · rename_i free
      cases stepped
      exact sound.producerAt here (sound.room here free) rfl rfl
  | claiming item =>
    rw [ChunkQueue.produce, here] at stepped
    cases stepped
    have room := sound.producer
    rw [here] at room
    exact sound.producerAt here ⟨sound.writeIdx_eq here rfl, room⟩ rfl rfl
  | publishing item slot =>
    rw [ChunkQueue.produce, here] at stepped
    cases stepped
    exact sound.publishing here
  | filling item slot field =>
    rw [ChunkQueue.produce, here] at stepped
    dsimp only at stepped
    split at stepped
    · cases stepped
      exact sound.filling here ‹_›
    · cases stepped
      exact sound.filled here ‹_›
  | measuring | waiting =>
    rw [ChunkQueue.produce, here] at stepped
    cases stepped
    exact sound.producerAt here (sound.writeIdx_eq here rfl) rfl rfl
  | spacing items block writeIdx =>
    rw [ChunkQueue.produce, here] at stepped
    dsimp only at stepped
    split at stepped
    · cases stepped
      exact sound.batch here ‹_›
    · split at stepped
      · cases stepped
        exact sound.producerAt here trivial rfl rfl
      · split at stepped
        · cases stepped
          exact sound.producerAt here trivial rfl rfl
        · cases stepped
          exact sound.batch here (List.length_take_le ..)
  | batching items kept writeIdx index field =>
    rw [ChunkQueue.produce, here] at stepped
    dsimp only at stepped
    split at stepped
    · rename_i item found
      cases stepped
      split
      · exact sound.batching here found ‹_›
      · exact sound.batched here found ‹_›
    · cases stepped
      exact sound.batchPublished here ‹_›

end

end Produce

section Consume

variable {number readIdx : Nat} {data : Chunk} {field : Field}

section

variable (sound : queue.Sound)
include sound

/-- An item that has been enqueued and not got is whole in its slot. -/
theorem Sound.whole (since : queue.obtained.length ≤ number)
    (before : number < queue.enqueued.length) : ∃ item, queue.enqueued[number]? = some item ∧
      (queue.memory.buffer (number % queue.memory.capacity)).Has item.cut :=
  ⟨_, List.getElem?_eq_getElem before,
    sound.holds.unread number _ since (List.getElem?_eq_getElem before)⟩

/-- A published slot that is marked ready holds an item. -/
theorem Sound.written (before : number < queue.published)
    (ready : (queue.memory.buffer (number % queue.memory.capacity)).itemAvailable ≠ 0) :
    number < queue.enqueued.length := by
  by_contra beyond
  have fits := sound.holds.fits
  refine ready (sound.unready number ?_ (by omega))
  rw [published] at before
  cases here : queue.producer with
  | filling =>
    rw [here] at before
    change number < _ + 1 at before
    change queue.enqueued.length + 0 ≤ number
    omega
  | idle | sizing | sized | claiming | publishing | measuring | spacing | waiting | batching =>
    rw [here] at before
    exact absurd before beyond

theorem Sound.marks {consumer before : Consumer} {slot : Nat} (here : queue.consumer = before)
    (next : slot = (queue.freed + before.marked) % queue.memory.capacity)
    (fits : ConsumerFits queue.memory.capacity queue.enqueued queue.obtained queue.published
      consumer) (taken : consumer.taken = before.taken)
    (marked : consumer.marked = before.marked + 1) :
    { queue with memory := queue.memory.mark slot, consumer }.Sound := by
  have freed : { queue with memory := queue.memory.mark slot, consumer }.freed = queue.freed :=
    congrArg (queue.obtained.length + ·) (taken.trans (congrArg _ here.symm))
  subst here next
  refine ⟨?_, ?_, ?_, ?_, fits, sound.obtained⟩
  · rw [freed]
    exact sound.holds.mark
  · rw [freed]
    exact sound.unready.mark
  · rw [freed]
    dsimp only
    rw [marked]
    exact sound.marked.mark
  · rw [freed]
    exact sound.producer.mark

/-- The consumer frees all the slots it has marked. -/
theorem Sound.frees {consumer : Consumer} {val : Nat} {obtained : List Item}
    (index : val % queue.memory.capacity =
      (queue.freed + queue.consumer.marked) % queue.memory.capacity)
    (freed : obtained.length + consumer.taken = queue.freed + queue.consumer.marked)
    (few : consumer.taken ≤ 1) (onward : queue.obtained.length ≤ obtained.length)
    (marked : consumer.marked = 0)
    (fits : ConsumerFits queue.memory.capacity queue.enqueued obtained queue.published consumer)
    (got : obtained <+: queue.enqueued.map Item.kept) :
    { queue with memory := queue.memory.setReadIdx val, consumer, obtained }.Sound := by
  have moved : { queue with memory := queue.memory.setReadIdx val, consumer, obtained }.freed =
      queue.freed + queue.consumer.marked := freed
  have enqueued := sound.marked_le.trans sound.holds.filled
  refine ⟨?_, ?_, ?_, ?_, fits, got⟩
  · rw [moved]
    refine sound.holds.setReadIdx index (Nat.le_add_right _ _) enqueued ?_ onward
    change obtained.length ≤ _ ∧ _ ≤ obtained.length + 1
    omega
  · rw [moved]
    exact sound.unready.free sound.marked
  · dsimp only
    rw [marked]
    exact Memory.Marked.none _ _
  · rw [moved]
    exact sound.producer.mono (Nat.le_add_right _ _)

/-- The index that a reader has just read. -/
theorem Sound.readIdx_eq (settled : queue.consumer.taken = 0) :
    queue.memory.readIdx = queue.obtained.length % queue.memory.capacity := by
  rw [sound.holds.readIdx, freed, settled, Nat.add_zero]

/-- The queue is not empty when the indices differ. -/
theorem Sound.published_of_ne (settled : queue.consumer.taken = 0)
    (other : queue.obtained.length % queue.memory.capacity ≠ queue.memory.writeIdx) :
    queue.obtained.length < queue.published := by
  have ordered := sound.holds.ordered
  rw [freed, settled, Nat.add_zero] at ordered
  refine Nat.lt_of_le_of_ne ordered fun same => other ?_
  rw [sound.holds.writeIdx, same]

/-- `get` and `get_many` copy a field of an item that is whole. -/
theorem Sound.copied (since : queue.obtained.length ≤ number)
    (before : number < queue.enqueued.length) (copying : Copying queue.enqueued number data field) :
    (∀ following, field.afterCopy = some following → Copying queue.enqueued number
      (data.copyField (queue.memory.buffer (number % queue.memory.capacity)) field) following) ∧
    (field.afterCopy = none → Copied queue.enqueued number
      (data.copyField (queue.memory.buffer (number % queue.memory.capacity)) field)) := by
  obtain ⟨item, found, held⟩ := sound.whole since before
  exact ⟨fun _ follows => copying.next found held follows, copying.last⟩

theorem Sound.getCopying (here : queue.consumer = .getCopying readIdx data field)
    (ready : queue.Ready) (stepped : queue.consume = some next) : next.Sound := by
  have fits := sound.consumer
  rw [here] at fits
  obtain ⟨rfl, within, copying⟩ := fits
  have marked := ready _ (by rw [copiedSlot, here]; rfl)
  have before := sound.written within marked
  have copied := sound.copied le_rfl before copying
  rw [consume, here] at stepped
  dsimp only at stepped
  split at stepped
  · cases stepped
    exact sound.consumerAt here ⟨rfl, within, copied.1 _ ‹_›⟩ rfl rfl
  · cases stepped
    exact sound.consumerAt here ⟨rfl, copied.2 ‹_›⟩ rfl rfl

/-- What `get_nowait` copies it has freed already; the margin keeps the slot as it was. -/
theorem Sound.tryCopying (here : queue.consumer = .tryCopying readIdx data field)
    (stepped : queue.consume = some next) : next.Sound := by
  have fits := sound.consumer
  rw [here] at fits
  obtain ⟨rfl, before, copying⟩ := fits
  have copied := sound.copied le_rfl before copying
  rw [consume, here] at stepped
  dsimp only at stepped
  split at stepped
  · cases stepped
    exact sound.consumerAt here ⟨rfl, before, copied.1 _ ‹_›⟩ rfl rfl
  · rename_i last
    cases stepped
    have got := (copied.2 last).extends sound.obtained
    have length := @List.length_append _ queue.obtained
      [(data.copyField (queue.memory.buffer
        (queue.obtained.length % queue.memory.capacity)) field).item]
    have same : queue.freed = queue.obtained.length + 1 := by rw [freed, here]; rfl
    have holds := sound.holds
    have unready := sound.unready
    have producer := sound.producer
    rw [same] at holds unready producer
    rw [List.length_singleton] at length
    refine ⟨?_, ?_, Memory.Marked.none _ _, ?_, trivial, got⟩
    · change Memory.Holds _ _ (queue.obtained ++ _).length ((queue.obtained ++ _).length + 0) _
      rw [length]
      exact { holds with
        read := ⟨le_rfl, Nat.le_succ _⟩
        unread := fun number item after => holds.unread number item (by omega) }
    · change Memory.Unready _ ((queue.obtained ++ _).length + 0) _
      rw [length]
      exact unready
    · change ProducerFits _ _ ((queue.obtained ++ _).length + 0) _
      rw [length]
      exact producer

theorem Sound.manyRead {most : Nat} {block : Bool}
    (here : queue.consumer = .manyRead most block readIdx) (stepped : queue.consume = some next) :
    next.Sound := by
  have fits := sound.consumer
  rw [here] at fits
  have fits : readIdx = queue.obtained.length % queue.memory.capacity := fits
  subst fits
  rw [consume, here] at stepped
  dsimp only at stepped
  split at stepped
  · cases stepped
    cases block <;> exact sound.consumerAt here trivial rfl rfl
  · split at stepped
    · cases stepped
      exact sound.consumerAt here trivial rfl rfl
    · split at stepped
      · cases stepped
        exact sound.consumerAt here ⟨rfl, by rw [List.append_nil]; exact sound.obtained⟩ rfl rfl
      · rename_i count size
        cases stepped
        have holds := sound.holds
        have same : queue.freed = queue.obtained.length := by rw [freed, here]; rfl
        rw [same] at holds
        rw [holds.writeIdx, holds.size_eq] at size
        have ordered := holds.ordered
        refine sound.consumerAt here ⟨rfl, by omega, Nat.succ_pos _, ?_, .inl rfl⟩ rfl rfl
        rw [List.append_nil]
        exact sound.obtained

theorem Sound.manyCopying {count : Nat} {results : List Item}
    (here : queue.consumer = .manyCopying readIdx count results data field) (ready : queue.Ready)
    (stepped : queue.consume = some next) : next.Sound := by
  have fits := sound.consumer
  rw [here] at fits
  obtain ⟨rfl, within, few, got, copying⟩ := fits
  have marked := ready _ (by rw [copiedSlot, here]; rfl)
  rw [Nat.mod_add_mod, ← List.length_append] at marked
  have length : (queue.obtained ++ results).length = queue.obtained.length + results.length :=
    List.length_append
  have before := sound.written (by omega) marked
  have copied := sound.copied (by omega) before copying
  rw [consume, here] at stepped
  dsimp only at stepped
  rw [Nat.mod_add_mod, ← List.length_append] at stepped
  split at stepped
  · cases stepped
    exact sound.consumerAt here ⟨rfl, within, few, got, copied.1 _ ‹_›⟩ rfl rfl
  · cases stepped
    exact sound.consumerAt here ⟨rfl, within, few, got, copied.2 ‹_›⟩ rfl rfl

theorem Sound.manyMarking {count : Nat} {results : List Item}
    (here : queue.consumer = .manyMarking readIdx count results data)
    (stepped : queue.consume = some next) : next.Sound := by
  have fits := sound.consumer
  rw [here] at fits
  obtain ⟨rfl, within, few, got, copied⟩ := fits
  have got := copied.extends got
  have slot : (queue.obtained.length % queue.memory.capacity + results.length) %
      queue.memory.capacity = (queue.freed + results.length) % queue.memory.capacity := by
    rw [Nat.mod_add_mod, freed, here]
    rfl
  have length : (results ++ [data.item]).length = results.length + 1 := List.length_append
  rw [List.append_assoc] at got
  rw [consume, here] at stepped
  dsimp only at stepped
  split at stepped
  · cases stepped
    exact sound.marks here slot ⟨rfl, within, by omega, got, .inl rfl⟩ rfl length
  · cases stepped
    exact sound.marks here slot ⟨rfl, got⟩ rfl length

theorem Sound.consume (ready : queue.Ready) (stepped : queue.consume = some next) : next.Sound := by
  cases here : queue.consumer with
  | idle =>
    rw [ChunkQueue.consume, here] at stepped
    cases stepped
  | getting | trying | manyGetting =>
    rw [ChunkQueue.consume, here] at stepped
    cases stepped
    exact sound.consumerAt here (sound.readIdx_eq (by rw [here]; rfl)) rfl rfl
  | getRead readIdx =>
    have fits := sound.consumer
    rw [here] at fits
    have fits : readIdx = queue.obtained.length % queue.memory.capacity := fits
    subst fits
    rw [ChunkQueue.consume, here] at stepped
    dsimp only at stepped
    split at stepped
    · cases stepped
      exact sound.consumerAt here trivial rfl rfl
    · rename_i other
      have within := sound.published_of_ne (by rw [here]; rfl) other
      split at stepped <;> cases stepped
      · exact sound.consumerAt here trivial rfl rfl
      · exact sound.consumerAt here ⟨rfl, within, .inl rfl⟩ rfl rfl
  | getCopying => exact sound.getCopying here ready stepped
  | getMarking readIdx data =>
    have fits := sound.consumer
    rw [here] at fits
    rw [ChunkQueue.consume, here] at stepped
    cases stepped
    refine sound.marks here ?_ fits rfl rfl
    rw [freed, here]
    exact fits.1
  | getMoving readIdx data =>
    have fits := sound.consumer
    rw [here] at fits
    obtain ⟨rfl, copied⟩ := fits
    rw [ChunkQueue.consume, here] at stepped
    cases stepped
    have same : queue.freed + queue.consumer.marked = queue.obtained.length + 1 := by
      rw [freed, here]
      rfl
    refine sound.frees ?_ ?_ (Nat.zero_le 1) (by simp) rfl trivial (copied.extends sound.obtained)
    · rw [same, Nat.mod_add_mod]
    · rw [same, List.length_append]
      rfl
  | tryRead readIdx =>
    have fits := sound.consumer
    rw [here] at fits
    have fits : readIdx = queue.obtained.length % queue.memory.capacity := fits
    subst fits
    rw [ChunkQueue.consume, here] at stepped
    dsimp only at stepped
    split at stepped
    · cases stepped
      exact sound.consumerAt here trivial rfl rfl
    · rename_i other
      cases stepped
      exact sound.consumerAt here ⟨rfl, sound.published_of_ne (by rw [here]; rfl) other⟩ rfl rfl
  | tryChecking readIdx =>
    have fits := sound.consumer
    rw [here] at fits
    obtain ⟨rfl, within⟩ := fits
    rw [ChunkQueue.consume, here] at stepped
    dsimp only at stepped
    split at stepped
    · cases stepped
      exact sound.consumerAt here trivial rfl rfl
    · rename_i marked
      cases stepped
      exact sound.consumerAt here ⟨rfl, sound.written within marked⟩ rfl rfl
  | tryMarking readIdx =>
    have fits := sound.consumer
    rw [here] at fits
    rw [ChunkQueue.consume, here] at stepped
    cases stepped
    refine sound.marks here ?_ fits rfl rfl
    rw [freed, here]
    exact fits.1
  | tryMoving readIdx =>
    have fits := sound.consumer
    rw [here] at fits
    obtain ⟨rfl, before⟩ := fits
    rw [ChunkQueue.consume, here] at stepped
    cases stepped
    have same : queue.freed + queue.consumer.marked = queue.obtained.length + 1 := by
      rw [freed, here]
      rfl
    refine sound.frees ?_ same.symm le_rfl le_rfl rfl ⟨rfl, before, .inl rfl⟩ sound.obtained
    rw [same, Nat.mod_add_mod]
  | tryCopying => exact sound.tryCopying here stepped
  | manyRead => exact sound.manyRead here stepped
  | manyCopying => exact sound.manyCopying here ready stepped
  | manyMarking => exact sound.manyMarking here stepped
  | manyMoving readIdx results =>
    have fits := sound.consumer
    rw [here] at fits
    obtain ⟨rfl, got⟩ := fits
    rw [ChunkQueue.consume, here] at stepped
    cases stepped
    have same : queue.freed + queue.consumer.marked =
        queue.obtained.length + results.length := by
      rw [freed, here]
      rfl
    refine sound.frees ?_ ?_ (Nat.zero_le 1) (by simp) rfl trivial got
    · rw [same, Nat.mod_add_mod]
    · rw [same, List.length_append]
      rfl

end

end Consume

theorem Sound.step {label : Label} (sound : queue.Sound) (meets : queue.Meets label)
    (stepped : queue.step label = some next) : next.Sound := by
  cases label with
  | put message =>
    dsimp only [ChunkQueue.step] at stepped
    split at stepped <;> cases stepped
    rename_i here
    exact sound.producerAt here trivial rfl rfl
  | putMany messages block =>
    dsimp only [ChunkQueue.step] at stepped
    split at stepped
    · rename_i here
      split at stepped <;> cases stepped
      · exact sound
      · exact sound.producerAt here trivial rfl rfl
    · cases stepped
  | produce => exact sound.produce stepped
  | putTimeout =>
    dsimp only [ChunkQueue.step] at stepped
    split at stepped <;> cases stepped
    rename_i here
    exact sound.producerAt here trivial rfl rfl
  | get | getNowait | getMany =>
    dsimp only [ChunkQueue.step] at stepped
    split at stepped <;> cases stepped
    rename_i here
    exact sound.consumerAt here trivial rfl rfl
  | consume => exact sound.consume meets stepped
  | getTimeout =>
    dsimp only [ChunkQueue.step] at stepped
    split at stepped <;> cases stepped
    all_goals
      rename_i here
      exact sound.consumerAt here trivial rfl rfl

theorem sound_create {capacity : Nat} (roomy : margin < capacity) : (create capacity).Sound where
  holds := {
    roomy := roomy
    writeIdx := rfl
    readIdx := rfl
    read := ⟨le_rfl, Nat.le_succ _⟩
    ordered := le_rfl
    fits := by
      change 0 + margin ≤ 0 + capacity
      omega
    filled := le_rfl
    unread := fun _ _ _ found => by cases found }
  unready := fun _ _ _ => rfl
  marked := Memory.Marked.none _ _
  producer := trivial
  consumer := trivial
  obtained := List.nil_prefix

end InferenceServer.Queues.ChunkQueue
