import InferenceServer.Blaze.Ledger

/-! The runners refine the desk: on a slot manager that stores the desk's phases,
every handler ends without a fault in a slot manager that stores the phases of
the desk's own handler, with the same pending requests, the same pushes to the
scheduler and the same log. -/
namespace InferenceServer.Blaze

namespace Runner

variable {Slots Slots' : Type}

/-- The same runner over another way of keeping its slots. -/
def withSlots (r : Runner Slots n) (slots : Slots') : Runner Slots' n :=
  { slotManager := slots, pendingRequests := r.pendingRequests, scheduler := r.scheduler
    log := r.log }

/-- A handler ended without a fault in a runner that stores a desk: its slot
manager stores the phases and everything else is the same. -/
def Refines (result : Except Fault (BlazeRunner n)) (d : Desk n) : Prop :=
  ∃ m : SlotManager n, m.Shows d.slotManager ∧ result = .ok (d.withSlots m)

section WithSlots

variable (r : Runner Slots n) (slots : Slots')

@[simp] theorem withSlots_slotManager : (r.withSlots slots).slotManager = slots := rfl
@[simp] theorem withSlots_pending : (r.withSlots slots).pendingRequests = r.pendingRequests := rfl
@[simp] theorem withSlots_log : (r.withSlots slots).log = r.log := rfl
@[simp] theorem note_withSlots (effect : Effect n) :
    (r.withSlots slots).note effect = (r.note effect).withSlots slots := rfl
@[simp] theorem pushToken_withSlots (taskId tokenId flags accepts rejects : UInt32) :
    (r.withSlots slots).pushToken taskId tokenId flags accepts rejects =
      (r.pushToken taskId tokenId flags accepts rejects).withSlots slots := rfl
@[simp] theorem pushRequest_withSlots (answer : SchedulerAnswer) (request : ISRequest n)
    (task : Option UInt32) : (r.withSlots slots).pushRequest answer request task =
      (r.pushRequest answer request task).withSlots slots := rfl
@[simp] theorem deferTask_withSlots (task : Sequence) :
    (r.withSlots slots).deferTask task = (r.deferTask task).withSlots slots := rfl
@[simp] theorem deferMemoryTask_withSlots (request : ManageMemoryTask n) :
    (r.withSlots slots).deferMemoryTask request = (r.deferMemoryTask request).withSlots slots := rfl
@[simp] theorem deferCancel_withSlots (taskId : UInt32) :
    (r.withSlots slots).deferCancel taskId = (r.deferCancel taskId).withSlots slots := rfl
@[simp] theorem dropPendingTask_withSlots :
    (r.withSlots slots).dropPendingTask = r.dropPendingTask.withSlots slots := rfl
@[simp] theorem closeDropped_withSlots (task : Sequence) :
    (r.withSlots slots).closeDropped task = (r.closeDropped task).withSlots slots := rfl

@[simp] theorem evictPendingTask_withSlots (config : BlazeConfig) (s : Fin n) :
    (r.withSlots slots).evictPendingTask config s =
      (r.evictPendingTask config s).withSlots slots := by
  unfold evictPendingTask
  rw [withSlots_pending]
  cases r.pendingRequests.pendingTask with
  | none => rfl
  | some task =>
    simp only
    split <;> rfl

@[simp] theorem modifySlot_withSlots (m : SlotManager n) (s : Fin n)
    (change : SlotContext n → SlotContext n) :
    (r.withSlots m).modifySlot s change = r.withSlots (m.modify s change) := rfl

end WithSlots

variable {config : BlazeConfig} {answer : SchedulerAnswer} {d : Desk n} {m m' : SlotManager n}
variable {s : Fin n}

theorem setSlotState_withSlots (stepped : m.setSlotState s state = .ok m') :
    (d.withSlots m).setSlotState s state = .ok (d.withSlots m') := by
  simp only [setSlotState, withSlots_slotManager, stepped]
  rfl

theorem setSlotAsIdle_withSlots (stepped : m.setSlotAsIdle s = .ok m') :
    (d.withSlots m).setSlotAsIdle s = .ok (d.withSlots m') := by
  simp only [setSlotAsIdle, withSlots_slotManager, stepped]
  rfl

theorem clearSlotContext_withSlots (stepped : m.clearSlotContext s = .ok m') :
    (d.withSlots m).clearSlotContext s = .ok (d.withSlots m') := by
  simp only [clearSlotContext, withSlots_slotManager, stepped]
  rfl

theorem bindTaskToSlot_withSlots (unbound : m.taskToSlot task = none) :
    (d.withSlots m).bindTaskToSlot task s = d.withSlots (m.bindTaskToSlot task s) := by
  simp [bindTaskToSlot, SlotManager.isBound, unbound]
  rfl

theorem unbindTaskFromSlot_withSlots (bound : m.taskToSlot task = some s) :
    (d.withSlots m).unbindTaskFromSlot task = d.withSlots (m.unbindTaskFromSlot task) := by
  simp [unbindTaskFromSlot, SlotManager.isBound, bound]
  rfl

/-- Neither the position a continued task resumes at nor the fields of a new run
are control fields, apart from the task id. -/
theorem resumePosition_control (config : BlazeConfig) (task : Sequence) (slot : SlotContext n) :
    ∃ position, resumePosition config task slot = { slot with currentPosition := position } := by
  unfold resumePosition
  split
  · split
    · exact ⟨_, rfl⟩
    · exact ⟨_, rfl⟩
  · exact ⟨_, rfl⟩

theorem initSlotForRun_control (config : BlazeConfig) (answer : SchedulerAnswer)
    (task : Sequence) (slot : SlotContext n) :
    ∃ accepts rejects, initSlotForRun config answer task slot = { slot with
      ignoreEos := task.samplingParams.ignoreEos, taskId := some task.taskId, tokensGenerated := 0
      specAcceptsAtStart := accepts, specRejectsAtStart := rejects } := by
  unfold initSlotForRun
  split
  · exact ⟨_, _, rfl⟩
  · exact ⟨_, _, rfl⟩

section

variable (shows : m.Shows d.slotManager)
include shows

/-- An IDLE slot takes the task or the task is kept for a retry; a stopping slot
latches it; an evicting slot turns it down. -/
theorem handleTask_refines (named : task.slot config.kind n = some s)
    (unbound : ∀ s', d.slotManager s' ≠ .running task.taskId) :
    Refines ((d.withSlots m).handleTask config answer task) (Desk.task config d answer task s) := by
  obtain ⟨state, taskId, ack, evict, latched⟩ := shows.slots s
  unfold handleTask Desk.task Desk.phase
  simp only [named, withSlots_slotManager, SlotManager.getSlotContext]
  cases phase : d.slotManager s with
  | free =>
    rw [phase] at state
    exact ⟨m, shows, by simp [state, Phase.state]; rfl⟩
  | running owner =>
    rw [phase] at state
    exact ⟨m, shows, by simp [state, Phase.state]; rfl⟩
  | evicting ackId owner =>
    rw [phase] at state
    exact ⟨m, shows, by simp [state, Phase.state]; rfl⟩
  | stopping owner evictId held =>
    rw [phase] at state taskId ack evict
    refine ⟨_, ?_, by simp [state, Phase.state]; rfl⟩
    exact shows.modify_phase (by simp [phase, Phase.state]) (by simp [Phase.state])
      ⟨state, taskId, ack, evict, rfl⟩
  | idle =>
    rw [phase] at state taskId ack evict latched
    obtain ⟨position, resumed⟩ := resumePosition_control config task (m.slots s)
    have shows' : (m.modify s (resumePosition config task)).Shows d.slotManager := by
      refine shows.modify_control ?_
      rw [phase, resumed]
      exact ⟨state, taskId, ack, evict, latched⟩
    simp only [state, Phase.state]
    by_cases accepts : answer.accepts
    · obtain ⟨specAccepts, specRejects, started⟩ := initSlotForRun_control config answer task
        (resumePosition config task (m.slots s))
      have unmapped : m.taskToSlot task.taskId = none := shows.not_bound unbound
      obtain ⟨m', stepped, shown⟩ := shows.start phase unbound
        (initSlotForRun config answer task (resumePosition config task (m.slots s)))
        (by rw [started, resumed]; exact ⟨rfl, rfl, ack, evict, latched⟩)
        (by rw [started, resumed]; exact state)
      refine ⟨m', by simpa [accepts] using shown, ?_⟩
      simp only [accepts, Bool.not_true, Bool.false_eq_true, ↓reduceIte, modifySlot_withSlots,
        pushRequest_withSlots]
      rw [bindTaskToSlot_withSlots (by simpa using unmapped)]
      refine setSlotState_withSlots ?_
      simpa [SlotManager.modify, SlotManager.bindTaskToSlot] using stepped
    · exact ⟨_, by simpa [accepts] using shows', by simp [accepts]; rfl⟩

/-- EVICT of an IDLE slot. -/
theorem handleEvictRequest_idle (named : request.slotId = some s) (phase : d.slotManager s = .idle) :
    Refines ((d.withSlots m).handleEvictRequest config answer request)
      (Desk.evictHeld config d answer request s none) := by
  obtain ⟨state, taskId, ack, evict, latched⟩ := shows.slots s
  rw [phase] at state taskId evict latched
  unfold handleEvictRequest Desk.evictHeld
  simp only [named, withSlots_slotManager, SlotManager.getSlotContext, state, Phase.state]
  by_cases accepts : answer.accepts
  · obtain ⟨m', stepped, shown⟩ := shows.transition (.evicting request.taskId none)
      { m.slots s with pendingAckRequestId := some request.taskId }
      (by simp [phase, Phase.state]) (by simp [Phase.state]) (by simp [phase, state])
      (by simp [phase, Phase.state, SlotState.legal]) ⟨rfl, taskId, rfl, evict, latched⟩
    refine ⟨m', by simpa [accepts] using shown, ?_⟩
    simp [accepts]
    exact setSlotState_withSlots stepped
  · exact ⟨m, by simpa [accepts] using shows, by simp [accepts]; rfl⟩

/-- EVICT of a running slot, whose task is unbound. -/
theorem handleEvictRequest_running (named : request.slotId = some s)
    (phase : d.slotManager s = .running task) :
    Refines ((d.withSlots m).handleEvictRequest config answer request)
      (Desk.evictHeld config d answer request s (some task)) := by
  obtain ⟨state, taskId, ack, evict, latched⟩ := shows.slots s
  rw [phase] at state taskId evict latched
  unfold handleEvictRequest Desk.evictHeld
  simp only [named, withSlots_slotManager, SlotManager.getSlotContext, state, Phase.state]
  by_cases accepts : answer.accepts
  · have bound := (shows.tasks task s).mpr phase
    have shown := shows.leave (.evicting request.taskId (some task))
      { m.slots s with state := .awaitingEvictAck, pendingAckRequestId := some request.taskId }
      phase (by simp [Phase.state]) ⟨rfl, taskId, rfl, evict, latched⟩
    refine ⟨_, by simpa [accepts] using shown, ?_⟩
    simp [accepts, taskId, Phase.taskId, unbindTaskFromSlot_withSlots bound]
    refine setSlotState_withSlots ?_
    rw [SlotManager.setSlotState_ok _ _ _ (by
      simp [SlotManager.unbindTaskFromSlot, state, SlotState.legal, Phase.state])]
    simp [SlotManager.unbindTaskFromSlot, SlotManager.countAfter, SlotManager.modify, Phase.state,
      taskId, Phase.taskId]
  · exact ⟨m, by simpa [accepts] using shows, by simp [accepts]; rfl⟩

/-- An IDLE or running slot is evicted or the request is kept for a retry; a
stopping slot latches it and turns its latched task down. -/
theorem handleEvictRequest_refines (named : request.slotId = some s) :
    Refines ((d.withSlots m).handleEvictRequest config answer request)
      (Desk.evict config d answer request s) := by
  obtain ⟨state, taskId, ack, evict, latched⟩ := shows.slots s
  unfold Desk.evict Desk.phase
  cases phase : d.slotManager s with
  | idle => exact handleEvictRequest_idle shows named phase
  | running task => exact handleEvictRequest_running shows named phase
  | free =>
    rw [phase] at state
    unfold handleEvictRequest
    exact ⟨m, shows, by simp [named, SlotManager.getSlotContext, state, Phase.state]; rfl⟩
  | evicting ackId owner =>
    rw [phase] at state
    unfold handleEvictRequest
    exact ⟨m, shows, by simp [named, SlotManager.getSlotContext, state, Phase.state]; rfl⟩
  | stopping task evictId held =>
    rw [phase] at state taskId ack evict latched
    unfold handleEvictRequest
    refine ⟨m.modify s fun slot => { slot with
      deferredContinue := none, deferredEvict := some (makeEvictRequest request.taskId s) }, ?_, ?_⟩
    · simp only [Desk.setPhase, Desk.closeLatched_slotManager]
      exact shows.modify_phase (by simp [phase, Phase.state]) (by simp [Phase.state])
        ⟨state, taskId, ack, rfl, rfl⟩
    · rw [Phase.deferredContinue] at latched
      simp only [named, withSlots_slotManager, SlotManager.getSlotContext, state, Phase.state,
        latched]
      cases held with
      | none =>
        have stored : ∀ {m₁ m₂ : SlotManager n}, m₁ = m₂ →
            (pure (d.withSlots m₁) : Except Fault (BlazeRunner n)) = .ok (d.withSlots m₂) := by
          rintro _ _ rfl
          rfl
        exact stored (SlotManager.modify_congr (by simp only [withSlots_slotManager, latched]))
      | some task =>
        simp only [modifySlot_withSlots, closeDropped_withSlots, SlotManager.modify_modify]
        rfl

/-- The STOP ack of a slot frees it for its latched eviction or task. Neither the
stopped task nor the latched one may run anywhere. -/
theorem handleStopAck_refines (stopping : d.slotManager s = .stopping owner evictId held)
    (ownerGone : ∀ s', d.slotManager s' ≠ .running owner) (heldGone : ∀ task, held = some task →
      task.slot config.kind n = some s ∧ ∀ s', d.slotManager s' ≠ .running task.taskId) :
    Refines ((d.withSlots m).handleStopAck config answer owner s)
      (Desk.stopAck config d answer s) := by
  obtain ⟨state, taskId, ack, evict, latched⟩ := shows.slots s
  rw [stopping] at state taskId ack evict latched
  simp only [Phase.state, Phase.taskId, Phase.ackId, Phase.deferredEvict,
    Phase.deferredContinue] at state taskId ack evict latched
  obtain ⟨m', idled, slot, released⟩ := shows.release stopping ownerGone
  unfold handleStopAck validateAck Desk.stopAck Desk.phase
  simp only [withSlots_slotManager, SlotManager.getSlotContext, ack, decide_true, ↓reduceIte,
    setSlotAsIdle_withSlots idled, stopping]
  simp only [bind, Except.bind, handleDeferredAction, withSlots_slotManager,
    SlotManager.getSlotContext, slot, SlotManager.idleContext, evict, latched]
  cases evictId with
  | some evictId =>
    cases held with
    | none =>
      simp only [Option.map_some, modifySlot_withSlots]
      exact handleEvictRequest_refines (d := Desk.setPhase d s .idle)
        (released _ ⟨rfl, rfl, rfl, rfl, latched⟩) rfl
    | some task =>
      simp only [Option.map_some, modifySlot_withSlots, closeDropped_withSlots,
        SlotManager.modify_modify]
      exact handleEvictRequest_refines
        (d := Desk.setPhase (Desk.closeLatched d (some task)) s .idle)
        (released _ ⟨rfl, rfl, rfl, rfl, rfl⟩) rfl
  | none =>
    cases held with
    | none =>
      have shown := released id ⟨rfl, rfl, rfl, evict, latched⟩
      rw [SlotManager.modify_id] at shown
      exact ⟨m', shown, rfl⟩
    | some task =>
      obtain ⟨named, gone⟩ := heldGone task rfl
      simp only [Option.map_none, modifySlot_withSlots]
      refine handleTask_refines (d := Desk.setPhase d s .idle)
        (released _ ⟨rfl, rfl, rfl, evict, rfl⟩) named fun s' => ?_
      simp only [Desk.setPhase, Function.update_apply]
      split
      · simp
      · exact gone s'

/-- The EVICT ack of a slot frees it. -/
theorem handleEvictAck_refines (evicting : d.slotManager s = .evicting ackId owner)
    (ownerGone : ∀ task, owner = some task → ∀ s', d.slotManager s' ≠ .running task) :
    Refines ((d.withSlots m).handleEvictAck ackId s) (Desk.evictAck d s) := by
  have ack := (shows.slots s).ack
  rw [evicting, Phase.ackId] at ack
  obtain ⟨m', cleared, shown⟩ := shows.clear evicting ownerGone
  unfold handleEvictAck validateAck Desk.evictAck Desk.phase
  simp only [withSlots_slotManager, SlotManager.getSlotContext, ack, decide_true, ↓reduceIte,
    evicting]
  exact ⟨m', shown, clearSlotContext_withSlots cleared⟩

/-- An ALLOCATE ack names no slot or a FREE one. -/
theorem handleAllocateAck_refines (free : ∀ s, slotId = some s → d.slotManager s = .free) :
    Refines ((d.withSlots m).handleAllocateAck requestId slotId)
      (Desk.allocateAck d requestId slotId) := by
  cases slotId with
  | none => exact ⟨m, shows, rfl⟩
  | some s =>
    obtain ⟨state, taskId, ack, evict, latched⟩ := shows.slots s
    rw [free s rfl] at state taskId ack evict latched
    obtain ⟨m', idled, shown⟩ := shows.transition .idle (m.slots s)
      (by simp [free s rfl, Phase.state]) (by simp [Phase.state]) (by simp [free s rfl, state])
      (by simp [free s rfl, Phase.state, SlotState.legal]) ⟨rfl, taskId, ack, evict, latched⟩
    rw [Function.update_eq_self] at idled
    have stepped : m.setSlotState s .idle = .ok m' := idled
    refine ⟨m', shown, ?_⟩
    unfold handleAllocateAck
    simp only [setSlotState_withSlots stepped, bind, Except.bind]
    rfl

/-- A rejected SUBMIT fails the task its slot is running. -/
theorem handleSubmitError_refines :
    Refines ((d.withSlots m).handleSubmitError s) (Desk.submitError d s) := by
  obtain ⟨state, taskId, -, -, -⟩ := shows.slots s
  unfold handleSubmitError Desk.submitError Desk.phase
  simp only [withSlots_slotManager, SlotManager.getSlotContext, state]
  cases phase : d.slotManager s with
  | running task =>
    obtain ⟨m', idled, shown⟩ := shows.finish phase
    rw [phase, Phase.taskId] at taskId
    refine ⟨m', shown, ?_⟩
    simp only [Phase.state, taskId, setSlotAsIdle_withSlots idled, bind, Except.bind]
    rfl
  | free | idle | stopping | evicting => exact ⟨m, shows, by simp [Phase.state]; rfl⟩

/-- An output becomes a token of the task its slot is running. -/
theorem handleSchedulerOutput_refines (output : OutputMessage n) :
    ∃ accepts rejects, Refines ((d.withSlots m).handleSchedulerOutput config answer output)
      (Desk.output config d output accepts rejects) := by
  obtain ⟨state, taskId, ack, evict, latched⟩ := shows.slots output.slotId
  unfold handleSchedulerOutput Desk.output Desk.phase
  simp only [withSlots_slotManager, SlotManager.getSlotContext]
  cases phase : d.slotManager output.slotId with
  | free | idle | stopping | evicting =>
    rw [phase] at state
    exact ⟨0, 0, m, shows, by simp [state, Phase.state]; rfl⟩
  | running task =>
    rw [phase] at state taskId ack evict latched
    simp only [Phase.state, Phase.taskId] at state taskId
    simp only [state, taskId]
    by_cases exhausted : output.ctxExhausted
    · obtain ⟨m', idled, shown⟩ := shows.finish phase
      refine ⟨0, 0, m', by simpa [exhausted] using shown, ?_⟩
      simp only [exhausted, ↓reduceIte, setSlotAsIdle_withSlots idled, bind, Except.bind]
      rfl
    · have noted : (m.modify output.slotId (noteOutput config.kind output)).Shows
          d.slotManager := by
        refine shows.modify_control ?_
        rw [phase]
        unfold noteOutput
        split <;> exact ⟨state, taskId, ack, evict, latched⟩
      refine ⟨specDelta config.kind (outputFinished config.kind output) answer.specAccepts
          (m.slots output.slotId).specAcceptsAtStart,
        specDelta config.kind (outputFinished config.kind output) answer.specRejects
          (m.slots output.slotId).specRejectsAtStart, ?_⟩
      simp only [exhausted, Bool.false_eq_true, ↓reduceIte, modifySlot_withSlots]
      by_cases finished : outputFinished config.kind output
      · obtain ⟨m', idled, shown⟩ := noted.finish phase
        refine ⟨m', by simpa [finished] using shown, ?_⟩
        simp only [finished, ↓reduceIte, setSlotAsIdle_withSlots idled, bind, Except.bind]
        rfl
      · refine ⟨_, by simpa [finished] using noted, ?_⟩
        simp only [finished, Bool.false_eq_true, ↓reduceIte, pure_bind]
        rfl

/-- The slot the manager maps a task to is the one running it. -/
theorem slotRunning_eq (task : UInt32) : Desk.slotRunning d task = m.getSlotByTaskId task := by
  unfold Desk.slotRunning Desk.phase SlotManager.getSlotByTaskId
  cases bound : m.taskToSlot task with
  | none =>
    refine List.find?_eq_none.mpr fun s _ => ?_
    simp only [decide_eq_true_eq, ← shows.tasks, bound]
    simp
  | some s =>
    have running := (shows.tasks task s).mp bound
    cases found : (List.finRange n).find? fun s => d.slotManager s = .running task with
    | none => simpa [running] using List.find?_eq_none.mp found s (List.mem_finRange s)
    | some s' =>
      have running' : d.slotManager s' = .running task := by simpa using List.find?_some found
      rw [shows.running_unique running running']

/-- A cancel drops the pending task or stops the slot running it. -/
theorem handleStopRequest_refines (task : UInt32) :
    Refines ((d.withSlots m).handleStopRequest answer task) (Desk.cancel d answer task) := by
  unfold handleStopRequest Desk.cancel
  rw [slotRunning_eq shows]
  by_cases queued : d.pendingRequests.pendingTask.map Sequence.taskId = some task
  · exact ⟨m, by simpa [queued] using shows, by simp [queued]; rfl⟩
  · simp only [withSlots_pending, queued, ↓reduceIte, withSlots_slotManager,
      SlotManager.getSlotByTaskId]
    cases bound : m.taskToSlot task with
    | none => exact ⟨m, shows, rfl⟩
    | some s =>
      have running := (shows.tasks task s).mp bound
      obtain ⟨state, taskId, ack, evict, latched⟩ := shows.slots s
      rw [running] at state taskId ack evict latched
      rw [Phase.state] at state
      by_cases accepts : answer.accepts
      · have shown := shows.leave (.stopping task none none)
          { m.slots s with state := .awaitingStopAck, pendingAckRequestId := some task }
          running (by simp [Phase.state]) ⟨rfl, taskId, rfl, evict, latched⟩
        refine ⟨_, by simpa [accepts] using shown, ?_⟩
        have stepped := SlotManager.setSlotState_ok
          (m.modify s fun slot => { slot with pendingAckRequestId := some task }) s
          .awaitingStopAck (.inr (by simp [state, SlotState.legal]))
        simp only [SlotManager.getSlotContext, state, ne_eq, not_true_eq_false, ↓reduceIte,
          accepts, Bool.not_true, Bool.false_eq_true, pushRequest_withSlots, modifySlot_withSlots,
          setSlotState_withSlots stepped, bind, Except.bind]
        rw [unbindTaskFromSlot_withSlots (s := s) (by simpa using bound)]
        simp only [SlotManager.unbindTaskFromSlot, SlotManager.modify, Function.update_self,
          Function.update_idem, SlotManager.countAfter, Phase.state, state]
        rfl
      · refine ⟨m, by simpa [accepts] using shows, ?_⟩
        simp [SlotManager.getSlotContext, state, accepts]
        rfl

end

/-- A response that the desk expects: an ALLOCATE of a FREE slot, an EVICT or STOP
ack its slot waits for, with no task of that slot bound anywhere. -/
structure Expected (config : BlazeConfig) (d : Desk n) (response : SchedulerResponse n) : Prop where
  named : response.requestType = .allocate ∨ response.slotId.isSome
  free : response.requestType = .allocate → ∀ s, response.slotId = some s → d.slotManager s = .free
  evicting : response.requestType = .evict → ∀ s, response.slotId = some s →
    ∃ owner, d.slotManager s = .evicting response.requestId owner
  stopping : response.requestType = .stop → ∀ s, response.slotId = some s →
    ∃ evictId held, d.slotManager s = .stopping response.requestId evictId held
  stale : ∀ s task, response.slotId = some s → (d.slotManager s).stale = some task →
    ∀ s', d.slotManager s' ≠ .running task
  latched : ∀ s task, response.slotId = some s → (d.slotManager s).deferredContinue = some task →
    task.slot config.kind n = some s ∧ ∀ s', d.slotManager s' ≠ .running task.taskId

theorem handleSchedulerResponse_refines (shows : m.Shows d.slotManager)
    {response : SchedulerResponse n} (expected : Expected config d response) :
    Refines ((d.withSlots m).handleSchedulerResponse config answer response)
      (Desk.response config d answer response) := by
  unfold handleSchedulerResponse Desk.response
  have named := expected.named
  cases type : response.requestType with
  | allocate => exact handleAllocateAck_refines shows (expected.free type)
  | «continue» =>
    simp only [type, reduceCtorEq, false_or] at named
    simp only [named, ↓reduceIte]
    split
    · exact ⟨m, shows, rfl⟩
    · exact ⟨m, shows, rfl⟩
  | submit | evict | stop =>
    simp only [type, reduceCtorEq, false_or] at named
    obtain ⟨s, slot⟩ := Option.isSome_iff_exists.mp named
    simp only [slot]
    first
      | exact handleSubmitError_refines shows
      | (obtain ⟨owner, phase⟩ := expected.evicting type s slot
         exact handleEvictAck_refines shows phase fun task owned =>
           expected.stale s task slot (by rw [phase]; exact owned))
      | (obtain ⟨evictId, held, phase⟩ := expected.stopping type s slot
         exact handleStopAck_refines shows phase
           (expected.stale s _ slot (by rw [phase]; rfl))
           fun task latched => expected.latched s task slot (by rw [phase]; exact latched))

theorem handleMemoryRequest_refines (shows : m.Shows d.slotManager) {request : ManageMemoryTask n}
    (named : request.action = .deallocate → request.slotId.isSome) :
    Refines ((d.withSlots m).handleMemoryRequest config answer request)
      (Desk.memory config d answer request) := by
  unfold handleMemoryRequest Desk.memory
  cases action : request.action with
  | allocate =>
    refine ⟨m, ?_, ?_⟩
    · unfold handleAllocateRequest
      simp only
      split <;> exact shows
    · unfold handleAllocateRequest
      simp only [pushRequest_withSlots, deferMemoryTask_withSlots]
      split <;> rfl
  | deallocate =>
    obtain ⟨s, slot⟩ := Option.isSome_iff_exists.mp (named action)
    simp only [slot]
    exact handleEvictRequest_refines shows slot
  | move => exact ⟨m, shows, rfl⟩

end Runner

end InferenceServer.Blaze
