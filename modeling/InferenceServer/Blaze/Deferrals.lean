import InferenceServer.Blaze.RequestLedger

/-! What is deferred and how it stays so. A pending DEALLOCATE waits for a slot that
can still be evicted, a latched EVICT and a pending memory request make way only
for one that is refused, and a task stops running only when its stream is closed. -/
namespace InferenceServer.Blaze

open Machine

/-- An EVICT of a slot in this phase is neither pointless nor already made. -/
def Phase.evictable : Phase → Bool
  | .idle | .running _ | .stopping _ none _ => true
  | .stopping _ (some _) _ | .evicting .. | .free => false

namespace Desk

variable {config : BlazeConfig} {d d' d'' : Desk n} {answer : SchedulerAnswer} {s : Fin n}
variable {phase : Phase} {given : ManageMemoryTask n} (evicted : ManageMemoryTask n)

/-! ## A pending DEALLOCATE can be carried out -/

/-- A request is a DEALLOCATE of this slot. -/
def Deallocates (request : ManageMemoryTask n) (s : Fin n) : Prop :=
  request.action = .deallocate ∧ request.slotId = some s

def PendingEvictable (d : Desk n) : Prop :=
  ∀ request, d.pendingRequests.pendingMemoryTask = some request →
    ∀ s, Deallocates request s → (d.slotManager s).evictable

theorem PendingEvictable.of_kept (held : PendingEvictable d)
    (memory : d'.pendingRequests.pendingMemoryTask = d.pendingRequests.pendingMemoryTask)
    (slots : ∀ s, (d.slotManager s).evictable → (d'.slotManager s).evictable) :
    PendingEvictable d' := by
  intro request pending s names
  rw [memory] at pending
  exact slots s (held request pending s names)

theorem pendingEvictable_none (empty : d.pendingRequests.pendingMemoryTask = none) :
    PendingEvictable d := by
  intro request pending
  rw [empty] at pending
  contradiction

/-- A slot in a new phase stays evictable if it was. -/
theorem evictable_update (stays : (d.slotManager s).evictable → phase.evictable) (s' : Fin n)
    (before : (d.slotManager s').evictable) :
    (Function.update d.slotManager s phase s').evictable := by
  by_cases same : s' = s
  · subst same
    rw [Function.update_self]
    exact stays before
  · rw [Function.update_of_ne same]
    exact before

theorem PendingEvictable.setPhase (held : PendingEvictable d)
    (stays : (d.slotManager s).evictable → phase.evictable) :
    PendingEvictable (setPhase d s phase) :=
  held.of_kept rfl (evictable_update stays)

/-- An eviction of a slot that no pending DEALLOCATE names. -/
theorem pendingEvictable_evict {evicted : ManageMemoryTask n} (held : PendingEvictable d)
    (names : Deallocates evicted s)
    (other : ∀ request, d.pendingRequests.pendingMemoryTask = some request →
      ¬Deallocates request s) : PendingEvictable (evict config d answer evicted s) := by
  have moved : ∀ {d' : Desk n} {phase : Phase}, d'.slotManager = d.slotManager →
      d'.pendingRequests.pendingMemoryTask = d.pendingRequests.pendingMemoryTask →
      PendingEvictable (Desk.setPhase d' s phase) := by
    intro d' phase slots memory request pending s' named
    rw [setPhase_slotManager, Function.update_of_ne, slots]
    · exact held request (memory ▸ pending) s' named
    · rintro rfl
      exact other request (memory ▸ pending) named
  have evictHeld_evictable : ∀ owner, (d.slotManager s).evictable →
      PendingEvictable (evictHeld config d answer evicted s owner) := by
    intro owner evictable
    unfold evictHeld
    simp only
    split
    · have dropped := (evictPendingTask_pending config
        (d.pushRequest answer (makeEvictRequest evicted.taskId s) none) s).1
      cases owner with
      | none => exact moved (Runner.evictPendingTask_slotManager ..) dropped
      | some task => exact moved (Runner.evictPendingTask_slotManager ..) dropped
    · intro request pending s' named
      have same : s' = s := by
        rw [← Option.some.inj pending, Deallocates, names.2] at named
        exact (Option.some.inj named.2).symm
      exact same ▸ evictable
  unfold evict Desk.phase
  cases phase : d.slotManager s with
  | idle => exact evictHeld_evictable none (by rw [phase]; rfl)
  | running owner => exact evictHeld_evictable (some owner) (by rw [phase]; rfl)
  | stopping owner evictId latched =>
    exact moved (closeLatched_slotManager ..) (by rw [closeLatched_pending])
  | evicting | free => exact held.of_kept rfl fun _ before => before

theorem pendingEvictable_memory (empty : d.pendingRequests.pendingMemoryTask = none) :
    PendingEvictable (memory config d answer given) := by
  have held := pendingEvictable_none empty
  obtain ⟨taskId, action, slotId, slotIdToCopyFrom⟩ := given
  cases action with
  | allocate =>
    unfold memory Runner.handleAllocateRequest
    simp only
    split
    · exact pendingEvictable_none empty
    · intro request pending s names
      rw [← Option.some.inj pending] at names
      exact absurd names.1 (by simp)
  | deallocate =>
    cases slotId with
    | none => exact held
    | some s => exact pendingEvictable_evict held ⟨rfl, rfl⟩ (by simp [empty])
  | move => exact held.of_kept rfl fun _ before => before

section

variable (held : PendingEvictable d)
include held

theorem PendingEvictable.task (given : Sequence) :
    PendingEvictable (Desk.task config d answer given s) := by
  unfold Desk.task Desk.phase
  cases phase : d.slotManager s with
  | idle =>
    simp only
    split
    · exact PendingEvictable.setPhase (held.of_kept rfl fun _ before => before) fun _ => rfl
    · exact held.of_kept rfl fun _ before => before
  | stopping owner evictId latched =>
    refine held.setPhase fun before => ?_
    rw [phase] at before
    cases evictId with
    | none => rfl
    | some => contradiction
  | evicting | free | running => exact held.of_kept rfl fun _ before => before

theorem PendingEvictable.cancel (cancelled : UInt32) :
    PendingEvictable (cancel d answer cancelled) := by
  unfold Desk.cancel
  split
  · exact held.of_kept rfl fun _ before => before
  · split
    · exact held
    · rename_i found
      simp only
      split
      · exact held.of_kept rfl (evictable_update fun _ => rfl)
      · exact held.of_kept rfl fun _ before => before

theorem PendingEvictable.output (output : OutputMessage n) (accepts rejects : UInt32) :
    PendingEvictable (Desk.output config d output accepts rejects) := by
  unfold Desk.output Desk.phase
  cases d.slotManager output.slotId with
  | running owner =>
    simp only
    split
    · exact held.of_kept rfl (evictable_update fun _ => rfl)
    · split
      · exact held.of_kept rfl (evictable_update fun _ => rfl)
      · exact held.of_kept rfl fun _ before => before
  | free | idle => exact held.of_kept rfl fun _ before => before
  | stopping | evicting => exact held

theorem PendingEvictable.stopAck : PendingEvictable (stopAck config d answer s) := by
  unfold Desk.stopAck Desk.phase
  cases phase : d.slotManager s with
  | stopping owner evictId latched =>
    cases evictId with
    | some evictId =>
      have idle : PendingEvictable (Desk.setPhase (closeLatched d latched) s .idle) :=
        PendingEvictable.setPhase
          (held.of_kept (by rw [closeLatched_pending]) (by simp)) fun _ => rfl
      refine pendingEvictable_evict idle ⟨rfl, rfl⟩ fun request pending names => ?_
      have kept : d.pendingRequests.pendingMemoryTask = some request := by
        rw [← pending]
        simp [Desk.setPhase]
      -- a slot with a latched EVICT is named by no pending DEALLOCATE
      have evictable := held request kept s names
      rw [phase] at evictable
      contradiction
    | none =>
      have idle : PendingEvictable (Desk.setPhase d s .idle) := held.setPhase fun _ => rfl
      cases latched with
      | none => exact idle
      | some latched => exact idle.task latched
  | free | idle | running | evicting => exact held

theorem PendingEvictable.response (response : SchedulerResponse n) :
    PendingEvictable (Desk.response config d answer response) := by
  unfold Desk.response
  split
  · unfold allocateAck
    split
    · exact held.of_kept rfl fun _ before => before
    · exact held.of_kept rfl (evictable_update fun _ => rfl)
  · rename_i s type slot
    unfold evictAck Desk.phase
    cases phase : d.slotManager s with
    | evicting => exact held.setPhase (by rw [phase]; exact id)
    | free | idle | running | stopping => exact held
  · exact held.stopAck
  · unfold submitError
    split
    · exact held.of_kept rfl (evictable_update fun _ => rfl)
    · exact held
  · split
    · exact held
    · exact held.of_kept rfl fun _ before => before
  · exact held

end

/-! ## What is latched stays latched -/

/-- No latched EVICT is replaced by another one. -/
def KeepsLatched (d d' : Desk n) : Prop :=
  ∀ s evict evict', (d.slotManager s).deferredEvict = some evict →
    (d'.slotManager s).deferredEvict = some evict' → evict = evict'

theorem KeepsLatched.of_same (slots : d'.slotManager = d.slotManager) : KeepsLatched d d' := by
  intro s evict evict' before after
  rw [slots, before] at after
  exact Option.some.inj after

theorem KeepsLatched.update (slots : d'.slotManager = Function.update d.slotManager s phase)
    (kept : (d.slotManager s).deferredEvict = phase.deferredEvict ∨
      (d.slotManager s).deferredEvict = none ∨ phase.deferredEvict = none) : KeepsLatched d d' := by
  intro s' evict evict' before after
  by_cases same : s' = s
  · subst same
    rw [slots, Function.update_self] at after
    rw [before, after] at kept
    simpa using kept
  · rw [slots, Function.update_of_ne same, before] at after
    exact Option.some.inj after

theorem evictHeld_slots (config : BlazeConfig) (d : Desk n) (answer : SchedulerAnswer)
    (evicted : ManageMemoryTask n) (s : Fin n) (owner : Option UInt32) :
    (evictHeld config d answer evicted s owner).slotManager =
      if answer.accepts then Function.update d.slotManager s (.evicting evicted.taskId owner)
      else d.slotManager := by
  unfold evictHeld
  simp only
  split
  · cases owner <;> simp
  · rfl

theorem keepsLatched_evictHeld (owner : Option UInt32) :
    KeepsLatched d (evictHeld config d answer evicted s owner) := by
  have slots := evictHeld_slots config d answer evicted s owner
  split at slots
  · exact .update slots (.inr (.inr rfl))
  · exact .of_same slots

theorem keepsLatched_evict (unlatched : (d.slotManager s).deferredEvict = none) :
    KeepsLatched d (evict config d answer evicted s) := by
  unfold evict Desk.phase
  cases phase : d.slotManager s with
  | idle => exact keepsLatched_evictHeld evicted none
  | running owner => exact keepsLatched_evictHeld evicted (some owner)
  | stopping owner evictId latched =>
    have slots : (setPhase (closeLatched d latched) s
        (.stopping owner (some evicted.taskId) none)).slotManager =
        Function.update d.slotManager s (.stopping owner (some evicted.taskId) none) := by
      simp
    exact .update slots (.inr (.inl unlatched))
  | evicting | free => exact .of_same rfl

theorem keepsLatched_memory
    (unlatched : ∀ s, Deallocates given s → (d.slotManager s).deferredEvict = none) :
    KeepsLatched d (memory config d answer given) := by
  obtain ⟨taskId, action, slotId, slotIdToCopyFrom⟩ := given
  cases action with
  | allocate =>
    unfold memory Runner.handleAllocateRequest
    simp only
    split <;> exact .of_same rfl
  | deallocate =>
    cases slotId with
    | none => exact .of_same rfl
    | some s => exact keepsLatched_evict _ (unlatched s ⟨rfl, rfl⟩)
  | move => exact .of_same rfl

theorem keepsLatched_task (given : Sequence) :
    KeepsLatched d (Desk.task config d answer given s) := by
  unfold Desk.task Desk.phase
  cases phase : d.slotManager s with
  | idle =>
    simp only
    split
    · exact .update rfl (.inr (.inr rfl))
    · exact .of_same rfl
  | stopping => exact .update rfl (.inl (by rw [phase]; rfl))
  | evicting | free | running => exact .of_same rfl

theorem keepsLatched_cancel (cancelled : UInt32) : KeepsLatched d (cancel d answer cancelled) := by
  unfold cancel
  split
  · exact .of_same rfl
  · split
    · exact .of_same rfl
    · simp only
      split
      · exact .update rfl (.inr (.inr rfl))
      · exact .of_same rfl

theorem keepsLatched_output (output : OutputMessage n) (accepts rejects : UInt32) :
    KeepsLatched d (Desk.output config d output accepts rejects) := by
  unfold Desk.output
  split
  · split
    · exact .update rfl (.inr (.inr rfl))
    · split
      · exact .update rfl (.inr (.inr rfl))
      · exact .of_same rfl
  all_goals exact .of_same rfl

/-- After its STOP ack a slot has nothing latched, and no other slot is touched. -/
theorem stopAck_slots (config : BlazeConfig) (d : Desk n) (answer : SchedulerAnswer) (s : Fin n) :
    (stopAck config d answer s).slotManager = d.slotManager ∨
      ∃ phase : Phase, phase.deferredEvict = none ∧
        (stopAck config d answer s).slotManager = Function.update d.slotManager s phase := by
  unfold stopAck Desk.phase
  cases phase : d.slotManager s with
  | stopping owner evictId latched =>
    right
    cases evictId with
    | some evictId =>
      have idle : Desk.phase (setPhase (closeLatched d latched) s .idle) s = .idle :=
        Function.update_self ..
      simp only [evict, idle, evictHeld_slots, setPhase_slotManager, closeLatched_slotManager,
        Function.update_idem]
      split
      · exact ⟨_, rfl, rfl⟩
      · exact ⟨_, rfl, rfl⟩
    | none =>
      cases latched with
      | none => exact ⟨.idle, rfl, rfl⟩
      | some latched =>
        have idle : Desk.phase (setPhase d s .idle) s = .idle := Function.update_self ..
        simp only [task, idle]
        split
        · exact ⟨.running latched.taskId, rfl, by simp⟩
        · exact ⟨.idle, rfl, rfl⟩
  | free | idle | running | evicting => exact .inl rfl

theorem keepsLatched_response (response : SchedulerResponse n) :
    KeepsLatched d (Desk.response config d answer response) := by
  unfold Desk.response
  split
  · unfold allocateAck
    split
    · exact .of_same rfl
    · exact .update rfl (.inr (.inr rfl))
  · unfold evictAck
    split
    · exact .update rfl (.inr (.inr rfl))
    · exact .of_same rfl
  · rename_i s type slot
    rcases stopAck_slots config d answer s with same | ⟨phase, unlatched, moved⟩
    · exact .of_same same
    · exact .update moved (.inr (.inr unlatched))
  · unfold submitError
    split
    · exact .update rfl (.inr (.inr rfl))
    · exact .of_same rfl
  · split <;> exact .of_same rfl
  · exact .of_same rfl

/-! ## What is pending makes way only for what is refused -/

theorem pendingMemory_evict (d : Desk n) (evicted : ManageMemoryTask n) :
    (evict config d answer evicted s).pendingRequests.pendingMemoryTask =
        d.pendingRequests.pendingMemoryTask ∨ answer.accepts = false ∧
        (evict config d answer evicted s).pendingRequests.pendingMemoryTask = some evicted := by
  have pendingMemory_evictHeld : ∀ owner,
      (evictHeld config d answer evicted s owner).pendingRequests.pendingMemoryTask =
          d.pendingRequests.pendingMemoryTask ∨
        answer.accepts = false ∧
          (evictHeld config d answer evicted s owner).pendingRequests.pendingMemoryTask =
            some evicted := by
    intro owner
    unfold evictHeld
    by_cases accepts : answer.accepts
    · have dropped := (evictPendingTask_pending config
        (d.pushRequest answer (makeEvictRequest evicted.taskId s) none) s).1
      simp only [accepts, ↓reduceIte]
      cases owner <;> exact .inl dropped
    · simp only [accepts, Bool.false_eq_true, ↓reduceIte]
      exact .inr ⟨trivial, rfl⟩
  unfold evict Desk.phase
  cases d.slotManager s with
  | idle => exact pendingMemory_evictHeld none
  | running owner => exact pendingMemory_evictHeld (some owner)
  | stopping owner evictId latched => exact .inl (by simp [setPhase])
  | evicting | free => exact .inl rfl

theorem pendingMemory_memory (d : Desk n) (given : ManageMemoryTask n) :
    (memory config d answer given).pendingRequests.pendingMemoryTask =
        d.pendingRequests.pendingMemoryTask ∨
      (memory config d answer given).pendingRequests.pendingMemoryTask = some given := by
  unfold memory
  split
  · unfold Runner.handleAllocateRequest
    simp only
    split
    · exact .inl rfl
    · exact .inr rfl
  · exact (pendingMemory_evict d given).imp id And.right
  · exact .inl rfl
  · exact .inl rfl

theorem pendingMemory_task (d : Desk n) (given : Sequence) :
    (Desk.task config d answer given s).pendingRequests.pendingMemoryTask =
      d.pendingRequests.pendingMemoryTask := by
  unfold Desk.task
  split
  · simp only
    split <;> rfl
  all_goals rfl

theorem pendingMemory_cancel (d : Desk n) (cancelled : UInt32) :
    (cancel d answer cancelled).pendingRequests.pendingMemoryTask =
      d.pendingRequests.pendingMemoryTask := by
  unfold cancel
  split
  · rfl
  · split
    · rfl
    · simp only
      split <;> rfl

theorem pendingMemory_output (d : Desk n) (output : OutputMessage n) (accepts rejects : UInt32) :
    (Desk.output config d output accepts rejects).pendingRequests.pendingMemoryTask =
      d.pendingRequests.pendingMemoryTask := by
  unfold Desk.output
  split
  · split
    · rfl
    · split <;> rfl
  all_goals rfl

/-- A response makes a request pending only when a latched EVICT is refused. -/
theorem pendingMemory_response (config : BlazeConfig) (d : Desk n) (answer : SchedulerAnswer)
    (response : SchedulerResponse n) :
    (Desk.response config d answer response).pendingRequests.pendingMemoryTask =
        d.pendingRequests.pendingMemoryTask ∨
      answer.accepts = false ∧ response.requestType = .stop ∧
        ∃ s, response.slotId = some s ∧ (d.slotManager s).deferredEvict.isSome := by
  unfold Desk.response
  split
  · unfold allocateAck
    split <;> exact .inl rfl
  · unfold evictAck
    split <;> exact .inl rfl
  · rename_i s type slot
    unfold stopAck Desk.phase
    cases phase : d.slotManager s with
    | stopping owner evictId latched =>
      cases evictId with
      | some evictId =>
        rcases pendingMemory_evict (setPhase (closeLatched d latched) s .idle)
          { taskId := evictId, action := .deallocate, slotId := some s } with same | refused
        · exact .inl (same.trans (by simp [setPhase]))
        · exact .inr ⟨refused.1, type, s, slot, by rw [phase]; rfl⟩
      | none =>
        cases latched with
        | none => exact .inl rfl
        | some latched => exact .inl (pendingMemory_task (setPhase d s .idle) latched)
    | free | idle | running | evicting => exact .inl rfl
  · unfold submitError
    split <;> exact .inl rfl
  · split <;> exact .inl rfl
  · exact .inl rfl

/-- A cancel takes the place of a deferred one only when its STOP is refused. -/
theorem pendingCancel_refused (d : Desk n) (answer : SchedulerAnswer) (cancelled : UInt32) :
    (cancel d answer cancelled).pendingRequests.pendingCancelTaskId =
        d.pendingRequests.pendingCancelTaskId ∨ answer.accepts = false ∧
        d.pendingRequests.pendingTask.map Sequence.taskId ≠ some cancelled ∧
        (∃ s, d.slotManager s = .running cancelled) ∧
        (cancel d answer cancelled).pendingRequests.pendingCancelTaskId = some cancelled := by
  unfold cancel
  split
  · exact .inl rfl
  · rename_i elsewhere
    cases found : slotRunning d cancelled with
    | none => exact .inl rfl
    | some s =>
      by_cases accepts : answer.accepts
      · exact .inl (by simp only [accepts, ↓reduceIte]; rfl)
      · simp only [accepts, Bool.false_eq_true, ↓reduceIte]
        exact .inr ⟨trivial, elsewhere, ⟨s, slotRunning_some found⟩, rfl⟩

/-- The cancel of a running task is pushed as STOP or deferred. -/
theorem cancel_running {d : Desk n} (running : d.slotManager s = .running cancelled)
    (elsewhere : d.pendingRequests.pendingTask.map Sequence.taskId ≠ some cancelled) :
    (∃ s, .push (makeStopRequest cancelled s) none true ∈ (cancel d answer cancelled).log) ∨
      (cancel d answer cancelled).pendingRequests.pendingCancelTaskId = some cancelled := by
  unfold cancel
  rw [if_neg elsewhere]
  cases found : slotRunning d cancelled with
  | none => exact absurd running (slotRunning_none found s)
  | some s =>
    by_cases accepts : answer.accepts
    · refine .inl ⟨s, ?_⟩
      simp [accepts, Runner.pushToken, Runner.note, setPhase, Runner.pushRequest]
    · exact .inr (by simp [accepts, Runner.deferCancel])

/-! ## A task stops running only when its stream is closed -/

/-- Every task that was running still is, or its stream has been closed. -/
def Settles (d d' : Desk n) : Prop :=
  ∀ s task, d.slotManager s = .running task →
    d'.slotManager s = .running task ∨ 0 < closings d'.log task

theorem Settles.of_same (slots : d'.slotManager = d.slotManager) : Settles d d' :=
  fun _ _ running => .inl (slots ▸ running)

/-- A slot that was not running takes up another phase. -/
theorem Settles.update (slots : d'.slotManager = Function.update d.slotManager s phase)
    (calm : ∀ task, d.slotManager s = .running task → 0 < closings d'.log task) : Settles d d' := by
  intro s' task running
  by_cases same : s' = s
  · subst same
    exact .inr (calm task running)
  · exact .inl (by rw [slots, Function.update_of_ne same, running])

theorem Settles.trans (first : Settles d d') (second : Settles d' d'')
    (grows : d'.log <+: d''.log) : Settles d d'' := by
  intro s task running
  rcases first s task running with still | closed
  · exact second s task still
  · exact .inr (Nat.lt_of_lt_of_le closed (tally_mono grows task))

theorem settles_evict : Settles d (evict config d answer evicted s) := by
  unfold evict Desk.phase
  cases phase : d.slotManager s with
  | idle =>
    have slots := evictHeld_slots config d answer evicted s none
    split at slots
    · exact .update slots (by simp [phase])
    · exact .of_same slots
  | running owner =>
    by_cases accepts : answer.accepts
    · refine .update (evictHeld_slots config d answer evicted s (some owner) |>.trans
        (if_pos accepts)) fun task running => ?_
      rw [phase, Phase.running.injEq] at running
      subst running
      simp only [evictHeld, accepts, ↓reduceIte]
      exact closings_note _ rfl
    · exact .of_same (evictHeld_slots config d answer evicted s (some owner) |>.trans
        (if_neg accepts))
  | stopping owner evictId latched =>
    have slots : (setPhase (closeLatched d latched) s
        (.stopping owner (some evicted.taskId) none)).slotManager =
        Function.update d.slotManager s (.stopping owner (some evicted.taskId) none) := by
      simp
    exact .update slots (by simp [phase])
  | evicting | free => exact .of_same rfl

theorem settles_memory (given : ManageMemoryTask n) : Settles d (memory config d answer given) := by
  unfold memory
  split
  · unfold Runner.handleAllocateRequest
    simp only
    split <;> exact .of_same rfl
  · exact settles_evict given
  · exact .of_same rfl
  · exact .of_same rfl

theorem settles_task (given : Sequence) : Settles d (Desk.task config d answer given s) := by
  unfold Desk.task Desk.phase
  cases phase : d.slotManager s with
  | idle =>
    simp only
    split
    · exact .update rfl (by simp [phase])
    · exact .of_same rfl
  | stopping => exact .update rfl (by simp [phase])
  | evicting | free | running => exact .of_same rfl

theorem settles_cancel (cancelled : UInt32) : Settles d (cancel d answer cancelled) := by
  unfold cancel
  split
  · exact .of_same rfl
  · split
    · exact .of_same rfl
    · rename_i s found
      simp only
      split
      · refine .update rfl fun task running => ?_
        rw [slotRunning_some found, Phase.running.injEq] at running
        exact running ▸ closings_note _ (closes_of_closing (by decide))
      · exact .of_same rfl

theorem settles_output (output : OutputMessage n) (accepts rejects : UInt32) :
    Settles d (Desk.output config d output accepts rejects) := by
  unfold Desk.output Desk.phase
  cases phase : d.slotManager output.slotId with
  | running owner =>
    simp only
    split
    · refine .update rfl fun task running => ?_
      rw [phase, Phase.running.injEq] at running
      exact running ▸ closings_note _ (closes_of_closing (by cases config.kind <;> decide))
    · split
      · refine .update rfl fun task running => ?_
        rw [phase, Phase.running.injEq] at running
        exact running ▸ closings_note _ (closes_of_closing (by decide))
      · exact .of_same rfl
  | free | idle | stopping | evicting => exact .of_same rfl

theorem settles_stopAck : Settles d (stopAck config d answer s) := by
  unfold stopAck Desk.phase
  cases phase : d.slotManager s with
  | stopping owner evictId latched =>
    cases evictId with
    | some evictId =>
      have slots : (setPhase (closeLatched d latched) s .idle).slotManager =
          Function.update d.slotManager s .idle := by
        simp
      have idled : Settles d (setPhase (closeLatched d latched) s .idle) :=
        .update slots (by simp [phase])
      exact idled.trans (settles_evict _) (adds_evict _ _).grows
    | none =>
      have idled : Settles d (setPhase d s .idle) := .update rfl (by simp [phase])
      cases latched with
      | none => exact idled
      | some latched => exact idled.trans (settles_task latched) (adds_task _ latched).grows
  | free | idle | running | evicting => exact .of_same rfl

theorem settles_response {response : SchedulerResponse n}
    (free : response.requestType = .allocate → ∀ s, response.slotId = some s →
      d.slotManager s = .free) : Settles d (Desk.response config d answer response) := by
  unfold Desk.response
  split
  · rename_i type
    unfold allocateAck
    split
    · exact .of_same rfl
    · rename_i s slot
      exact .update rfl (by simp [free type s slot])
  · rename_i s type slot
    unfold evictAck Desk.phase
    cases phase : d.slotManager s with
    | evicting => exact .update rfl (by simp [phase])
    | free | idle | running | stopping => exact .of_same rfl
  · exact settles_stopAck
  · rename_i s type slot
    unfold submitError Desk.phase
    cases phase : d.slotManager s with
    | running owner =>
      refine .update rfl fun task running => ?_
      rw [phase, Phase.running.injEq] at running
      exact running ▸ closings_note _ (closes_of_closing (by decide))
    | free | idle | stopping | evicting => exact .of_same rfl
  · split <;> exact .of_same rfl
  · exact .of_same rfl

end Desk

end InferenceServer.Blaze
