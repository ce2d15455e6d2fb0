import InferenceServer.Queues.ChunkRuns

/-! What the consumer gets is what the producer has enqueued, in order and as it was put. -/
namespace InferenceServer.Queues

open Machine

/-- The items of the call that the producer is in. -/
def Producer.pending : Producer → List Item
  | .idle => []
  | .sizing item | .sized item _ | .claiming item | .publishing item _ | .filling item _ _ => [item]
  | .measuring items _ | .spacing items _ _ | .waiting items => items
  | .batching _ kept _ _ _ => kept

namespace ChunkQueue

variable {queue next : ChunkQueue} {label : Label}

/-- The slot of which the consumer reads a field next. -/
def readSlot (queue : ChunkQueue) : Option Nat :=
  match queue.consumer with
  | .tryCopying readIdx _ _ => some readIdx
  | _ => queue.copiedSlot

/-- The slot holds an item that the consumer has not got. -/
def HoldsUnread (queue : ChunkQueue) (slot : Nat) : Prop :=
  ∃ number item, queue.obtained.length ≤ number ∧ queue.enqueued[number]? = some item ∧
    slot = number % queue.memory.capacity ∧ (queue.memory.buffer slot).Has item.cut

theorem Sound.holdsUnread {number : Nat} (sound : queue.Sound)
    (since : queue.obtained.length ≤ number) (before : number < queue.enqueued.length) :
    queue.HoldsUnread (number % queue.memory.capacity) := by
  obtain ⟨item, found, held⟩ := sound.whole since before
  exact ⟨number, item, since, found, rfl, held⟩

/-- No slot is read before its item is there. -/
theorem Sound.reads {slot : Nat} (sound : queue.Sound) (ready : queue.Ready)
    (reads : slot ∈ queue.readSlot) : queue.HoldsUnread slot := by
  have fits := sound.consumer
  unfold readSlot at reads
  split at reads
  · rename_i here
    cases reads
    rw [here] at fits
    obtain ⟨rfl, before, _⟩ := fits
    exact sound.holdsUnread le_rfl before
  · have marked := ready slot reads
    unfold copiedSlot at reads
    split at reads
    · rename_i here
      cases reads
      rw [here] at fits
      obtain ⟨rfl, within, _⟩ := fits
      exact sound.holdsUnread le_rfl (sound.written within marked)
    · rename_i results _ _ here
      cases reads
      rw [here] at fits
      obtain ⟨rfl, within, few, _⟩ := fits
      rw [Nat.mod_add_mod] at marked ⊢
      exact sound.holdsUnread (Nat.le_add_right _ _) (sound.written (by omega) marked)
    · cases reads

/-- The producer enqueues the items of its call and no others. -/
theorem mem_of_produce (stepped : queue.produce = some next) {item : Item}
    (member : item ∈ next.enqueued ∨ item ∈ next.producer.pending) :
    item ∈ queue.enqueued ∨ item ∈ queue.producer.pending := by
  cases here : queue.producer with
  | idle =>
    rw [produce, here] at stepped
    cases stepped
  | sizing | claiming | publishing | measuring | waiting =>
    rw [produce, here] at stepped
    cases stepped
    exact member
  | sized =>
    rw [produce, here] at stepped
    dsimp only at stepped
    split at stepped <;> cases stepped
    · exact .inl (member.resolve_right List.not_mem_nil)
    · exact member
  | filling =>
    rw [produce, here] at stepped
    dsimp only at stepped
    split at stepped <;> cases stepped
    · exact member
    · exact List.mem_append.mp (member.resolve_right List.not_mem_nil)
  | spacing =>
    rw [produce, here] at stepped
    dsimp only at stepped
    split at stepped
    · cases stepped
      exact member
    · split at stepped
      · cases stepped
        exact member
      · split at stepped <;> cases stepped
        · exact .inl (member.resolve_right List.not_mem_nil)
        · exact member.imp_right List.mem_of_mem_take
  | batching =>
    rw [produce, here] at stepped
    dsimp only at stepped
    split at stepped
    · cases stepped
      dsimp only at member
      split at member <;> exact member
    · cases stepped
      exact List.mem_append.mp (member.resolve_right List.not_mem_nil)

/-- All items are plain. -/
def AllPlain (queue : ChunkQueue) : Prop :=
  ∀ item, item ∈ queue.enqueued ∨ item ∈ queue.producer.pending → item.Plain

theorem enqueued_of_consume (stepped : queue.consume = some next) :
    next.enqueued = queue.enqueued ∧ next.accepted = queue.accepted ∧
      next.producer = queue.producer := by
  unfold consume at stepped
  repeat' split at stepped
  all_goals cases stepped <;> exact ⟨rfl, rfl, rfl⟩

theorem AllPlain.step (plain : queue.AllPlain) (meets : queue.Meets label)
    (stepped : queue.step label = some next) : next.AllPlain := by
  cases label with
  | put message =>
    dsimp only [ChunkQueue.step] at stepped
    split at stepped <;> cases stepped
    intro item member
    rcases member with enqueued | pending
    · exact plain item (.inl enqueued)
    · exact List.mem_singleton.mp pending ▸ meets
  | putMany messages block =>
    dsimp only [ChunkQueue.step] at stepped
    split at stepped
    · split at stepped <;> cases stepped
      · exact plain
      · intro item member
        rcases member with enqueued | pending
        · exact plain item (.inl enqueued)
        · obtain ⟨message, given, rfl⟩ := List.mem_map.mp pending
          exact meets message given
    · cases stepped
  | produce => exact fun item member => plain item (mem_of_produce stepped member)
  | putTimeout =>
    dsimp only [ChunkQueue.step] at stepped
    split at stepped <;> cases stepped
    exact fun item member => plain item (.inl (member.resolve_right List.not_mem_nil))
  | get | getNowait | getMany =>
    dsimp only [ChunkQueue.step] at stepped
    split at stepped <;> cases stepped
    exact plain
  | consume =>
    obtain ⟨enqueued, _, producer⟩ := enqueued_of_consume stepped
    intro item member
    rw [enqueued, producer] at member
    exact plain item member
  | getTimeout =>
    dsimp only [ChunkQueue.step] at stepped
    split at stepped <;> cases stepped <;> exact plain

/-- What was taken without an error is enqueued. -/
structure Told (queue : ChunkQueue) : Prop where
  enqueued : queue.enqueued = queue.accepted
  kept : ∀ items kept writeIdx index field,
    queue.producer = .batching items kept writeIdx index field → kept = items

theorem Told.produce (told : queue.Told) (fits : queue.Fits .produce)
    (stepped : queue.produce = some next) : next.Told := by
  cases here : queue.producer with
  | idle =>
    rw [ChunkQueue.produce, here] at stepped
    cases stepped
  | sizing | claiming | publishing | measuring | waiting =>
    rw [ChunkQueue.produce, here] at stepped
    cases stepped
    exact ⟨told.enqueued, by rintro _ _ _ _ _ ⟨⟩⟩
  | sized =>
    rw [ChunkQueue.produce, here] at stepped
    dsimp only at stepped
    split at stepped <;> cases stepped <;> exact ⟨told.enqueued, by rintro _ _ _ _ _ ⟨⟩⟩
  | filling item =>
    rw [ChunkQueue.produce, here] at stepped
    dsimp only at stepped
    split at stepped <;> cases stepped
    · exact ⟨told.enqueued, by rintro _ _ _ _ _ ⟨⟩⟩
    · exact ⟨congrArg (· ++ [item]) told.enqueued, by rintro _ _ _ _ _ ⟨⟩⟩
  | spacing items block writeIdx =>
    rw [ChunkQueue.produce, here] at stepped
    dsimp only at stepped
    split at stepped
    · cases stepped
      refine ⟨told.enqueued, fun _ _ _ _ _ same => ?_⟩
      cases same
      rfl
    · rename_i crowded
      split at stepped
      · cases stepped
        exact ⟨told.enqueued, by rintro _ _ _ _ _ ⟨⟩⟩
      · rename_i waits
        have block : block = false := Bool.eq_false_iff.mpr waits
        rw [Fits, here, block] at fits
        exact absurd fits crowded
  | batching items kept writeIdx index field =>
    have same := told.kept _ _ _ _ _ here
    rw [ChunkQueue.produce, here] at stepped
    dsimp only at stepped
    split at stepped
    · cases stepped
      refine ⟨told.enqueued, fun _ _ _ _ _ after => ?_⟩
      dsimp only at after
      split at after <;> cases after <;> exact same
    · cases stepped
      subst same
      exact ⟨congrArg (· ++ kept) told.enqueued, by rintro _ _ _ _ _ ⟨⟩⟩

theorem Told.step (told : queue.Told) (fits : queue.Fits label)
    (stepped : queue.step label = some next) : next.Told := by
  cases label with
  | put =>
    dsimp only [ChunkQueue.step] at stepped
    split at stepped <;> cases stepped
    exact ⟨told.enqueued, nofun⟩
  | putMany =>
    dsimp only [ChunkQueue.step] at stepped
    split at stepped
    · split at stepped <;> cases stepped
      · exact told
      · exact ⟨told.enqueued, nofun⟩
    · cases stepped
  | produce => exact told.produce fits stepped
  | putTimeout =>
    dsimp only [ChunkQueue.step] at stepped
    split at stepped <;> cases stepped
    exact ⟨told.enqueued, nofun⟩
  | get | getNowait | getMany =>
    dsimp only [ChunkQueue.step] at stepped
    split at stepped <;> cases stepped
    exact ⟨told.enqueued, told.kept⟩
  | consume =>
    obtain ⟨enqueued, accepted, producer⟩ := enqueued_of_consume stepped
    exact ⟨by rw [enqueued, accepted, told.enqueued],
      fun items kept writeIdx index field here => told.kept _ _ _ _ _ (producer ▸ here)⟩
  | getTimeout =>
    dsimp only [ChunkQueue.step] at stepped
    split at stepped <;> cases stepped <;> exact ⟨told.enqueued, told.kept⟩

/-- In every run in which `get` and `get_many` read only slots that are marked ready, and no text
ends in NUL characters: what the consumer has got is what was enqueued, in order and cut to the
fields; it reads only slots that hold their item; and what is enqueued and not got stays whole.
If no `put_many` has dropped items, what was enqueued is what `put` and `put_many` have taken. -/
theorem chunks_delivered {capacity : Nat} (roomy : margin < capacity)
    (reached : Reaches step Meets (create capacity) queue) :
    queue.obtained <+: queue.enqueued.map Item.cut ∧
    (∀ slot ∈ queue.readSlot, queue.Meets .consume → queue.HoldsUnread slot) ∧
    (∀ number item, queue.obtained.length ≤ number → queue.enqueued[number]? = some item →
      (queue.memory.buffer (number % queue.memory.capacity)).Has item.cut) ∧
    (Reaches step (fun before label => before.Meets label ∧ before.Fits label) (create capacity)
      queue → queue.enqueued = queue.accepted) := by
  have sound : queue.Sound := by
    refine reached.invariant Sound (sound_create roomy) ?_
    exact fun _ _ _ sound meets stepped => sound.step meets stepped
  have plain : queue.AllPlain := by
    refine reached.invariant AllPlain ?_ fun _ _ _ plain meets stepped => plain.step meets stepped
    rintro item (enqueued | pending)
    · cases enqueued
    · cases pending
  refine ⟨?_, fun slot reads ready => sound.reads ready reads, sound.holds.unread, fun fitting => ?_⟩
  · have kept : queue.enqueued.map Item.kept = queue.enqueued.map Item.cut :=
      List.map_congr_left fun item member => plain item (.inl member)
    rw [← kept]
    exact sound.obtained
  · have told : queue.Told := by
      refine fitting.invariant Told ⟨rfl, fun _ _ _ _ _ here => by cases here⟩ ?_
      exact fun _ _ _ told meets stepped => told.step meets.2 stepped
    exact told.enqueued

/-- A worker puts a chunk and its final result; the reader takes both at once. -/
def twoChunks : List Label :=
  [.putMany [⟨['7'], none, some ['a']⟩, ⟨['7'], some "final_result", some ['b']⟩] false] ++
    List.replicate 11 .produce ++ [.getMany 100 true] ++ List.replicate 13 .consume

theorem twoChunks_runs : (runWithin step Meets (create 12) twoChunks).isSome = true := by
  decide +kernel

theorem chunks_delivered_twoChunks :
    ((runWithin step Meets (create 12) twoChunks).get twoChunks_runs).obtained <+:
      ((runWithin step Meets (create 12) twoChunks).get twoChunks_runs).enqueued.map Item.cut :=
  (chunks_delivered (by decide) (reaches_get twoChunks_runs)).1

/-- The reader comes between the new index and the contents of the slot. -/
def earlyReader : List Label :=
  [.put ⟨['7'], none, some ['a']⟩] ++ List.replicate 4 .produce ++ [.get] ++
    List.replicate 8 .consume

theorem earlyReader_runs :
    (runWithin step (fun _ _ => True) (create 12) earlyReader).isSome = true := by
  decide +kernel

/-- `get` returns an empty item that nobody has put. -/
theorem get_reads_unwritten :
    ((runWithin step (fun _ _ => True) (create 12) earlyReader).get earlyReader_runs).obtained =
      [⟨[], [], false⟩] ∧
    ((runWithin step (fun _ _ => True) (create 12) earlyReader).get earlyReader_runs).accepted =
      [] ∧
    ¬ ((runWithin step (fun _ _ => True) (create 12) earlyReader).get
        earlyReader_runs).obtained <+:
      ((runWithin step (fun _ _ => True) (create 12) earlyReader).get
        earlyReader_runs).accepted.map Item.cut := by
  decide +kernel

end ChunkQueue
end InferenceServer.Queues
