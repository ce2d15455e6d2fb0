import InferenceServer.Blaze.Ledger
import InferenceServer.Blaze.Acks

/-! Routes. A task that waits on the desk waits for its own slot, every request
and response that needs a slot names one, and a slot keeps the id of a task it
gave up only after the task's stream was closed. -/
namespace InferenceServer.Blaze

open Machine

namespace Desk

variable {config : BlazeConfig} {d d' : Desk n} {answer : SchedulerAnswer} {s : Fin n}
variable {request : ManageMemoryTask n} {response : SchedulerResponse n}

/-- A request the scheduler answers: an ALLOCATE, or a STOP or EVICT of a slot. -/
def Answerable (request : ISRequest n) : Prop :=
  request.type = .allocate ∨ (request.type = .stop ∨ request.type = .evict) ∧ request.slotId.isSome

/-- Everything on the desk and at the port is where it can be dealt with. -/
structure Routed (config : BlazeConfig) (d : Desk n) : Prop where
  pendingTask : ∀ task, d.pendingRequests.pendingTask = some task →
    ∃ s, task.slot config.kind n = some s ∧ d.slotManager s = .idle
  pendingMemoryTask : ∀ request, d.pendingRequests.pendingMemoryTask = some request →
    request.action = .deallocate → request.slotId.isSome
  latched : ∀ s task, (d.slotManager s).deferredContinue = some task →
    task.slot config.kind n = some s
  stale : ∀ s task, (d.slotManager s).stale = some task → 0 < closings d.log task
  awaiting : ∀ request ∈ d.scheduler.awaiting, Answerable request
  responses : ∀ response ∈ d.scheduler.responses,
    response.requestType = .allocate ∨ response.slotId.isSome

theorem initial_routed (config : BlazeConfig) (n : Nat) : Routed config (initial n) where
  pendingTask := by simp [initial]
  pendingMemoryTask := by simp [initial]
  latched := by simp [initial, Phase.deferredContinue]
  stale := by simp [initial, Phase.stale]
  awaiting := by simp [initial]
  responses := by simp [initial]

section

variable (routed : Routed config d)
include routed

/-- A slot that takes up another phase. An IDLE slot does so only when the pending
task is not its own. -/
theorem Routed.setPhase (phase : Phase) (leaves : d.slotManager s = .idle → phase = .idle ∨
      ∀ task, d.pendingRequests.pendingTask = some task → task.slot config.kind n ≠ some s)
    (latched : ∀ task, phase.deferredContinue = some task → task.slot config.kind n = some s)
    (stale : ∀ task, phase.stale = some task → 0 < closings d.log task) :
    Routed config (setPhase d s phase) where
  pendingTask := by
    intro task pending
    obtain ⟨s', named, idle⟩ := routed.pendingTask task pending
    refine ⟨s', named, ?_⟩
    simp only [setPhase_slotManager, Function.update_apply]
    split
    · rename_i same
      subst same
      exact (leaves idle).resolve_right fun elsewhere => elsewhere task pending named
    · exact idle
  pendingMemoryTask := routed.pendingMemoryTask
  latched := by
    intro s' task
    simp only [setPhase_slotManager, Function.update_apply]
    split
    · rename_i same
      subst same
      exact latched task
    · exact routed.latched s' task
  stale := by
    intro s' task
    simp only [setPhase_slotManager, Function.update_apply]
    split
    · exact stale task
    · exact routed.stale s' task
  awaiting := routed.awaiting
  responses := routed.responses

/-- A log that grows and a pending task that goes change no route. -/
theorem Routed.of_same (slots : d'.slotManager = d.slotManager)
    (scheduler : d'.scheduler = d.scheduler)
    (memory : d'.pendingRequests.pendingMemoryTask = d.pendingRequests.pendingMemoryTask)
    (pending : ∀ task, d'.pendingRequests.pendingTask = some task →
      d.pendingRequests.pendingTask = some task) (grows : d.log <+: d'.log) : Routed config d' where
  pendingTask := fun task held => slots ▸ routed.pendingTask task (pending task held)
  pendingMemoryTask := by rw [memory]; exact routed.pendingMemoryTask
  latched := by rw [slots]; exact routed.latched
  stale := by
    intro s task owned
    rw [slots] at owned
    exact Nat.lt_of_lt_of_le (routed.stale s task owned) (tally_mono grows task)
  awaiting := by rw [scheduler]; exact routed.awaiting
  responses := by rw [scheduler]; exact routed.responses

theorem Routed.note (effect : Effect n) : Routed config (d.note effect) :=
  routed.of_same rfl rfl rfl (fun _ held => held) (List.prefix_append _ _)

theorem Routed.dropPendingTask : Routed config d.dropPendingTask :=
  routed.of_same rfl rfl rfl (by simp [Runner.dropPendingTask]) (List.prefix_refl _)

theorem Routed.closeLatched (latched : Option Sequence) :
    Routed config (closeLatched d latched) := by
  cases latched with
  | none => exact routed
  | some task => exact routed.note _

theorem Routed.pushRequest {request : ISRequest n} {owner : Option UInt32}
    (named : owner.isSome ∧ request.slotId.isSome ∨ Answerable request) :
    Routed config (d.pushRequest answer request owner) where
  pendingTask := routed.pendingTask
  pendingMemoryTask := routed.pendingMemoryTask
  latched := routed.latched
  stale := fun s task owned => Nat.lt_of_lt_of_le (routed.stale s task owned)
    (tally_mono (List.prefix_append _ _) task)
  awaiting := by
    intro other member
    simp only [Runner.pushRequest] at member
    split at member
    · unfold SchedulerPort.accept at member
      split at member
      · exact routed.awaiting other member
      · rename_i unowned
        rcases List.mem_append.mp member with old | new
        · exact routed.awaiting other old
        · rw [List.mem_singleton.mp new]
          refine named.resolve_left ?_
          rintro ⟨owned, slot⟩
          obtain ⟨task, rfl⟩ := Option.isSome_iff_exists.mp owned
          obtain ⟨s, slot⟩ := Option.isSome_iff_exists.mp slot
          exact unowned task s rfl slot
    · exact routed.awaiting other member
  responses := by
    intro response member
    simp only [Runner.pushRequest] at member
    split at member
    · unfold SchedulerPort.accept at member
      split at member <;> exact routed.responses response member
    · exact routed.responses response member

theorem Routed.deferMemoryTask (named : request.action = .deallocate → request.slotId.isSome) :
    Routed config (d.deferMemoryTask request) := { routed with
  pendingMemoryTask := by
    intro other held
    rw [← Option.some.inj held]
    exact named }

theorem Routed.deferTask {task : Sequence} (named : task.slot config.kind n = some s)
    (idle : d.slotManager s = .idle) :
    Routed config (d.deferTask task) := { routed with
  pendingTask := by
    intro other held
    rw [← Option.some.inj held]
    exact ⟨s, named, idle⟩ }

end

/-- After an eviction took the pending task of its slot, what is pending is for
another slot. -/
theorem evictPendingTask_elsewhere (config : BlazeConfig) (d : Desk n) (s : Fin n)
    (task : Sequence) (held : (d.evictPendingTask config s).pendingRequests.pendingTask = some task) :
    task.slot config.kind n ≠ some s := by
  unfold Runner.evictPendingTask at held
  split at held
  · rename_i empty
    rw [empty] at held
    contradiction
  · rename_i pending occupied
    split at held
    · contradiction
    · rename_i elsewhere
      rw [occupied] at held
      exact Option.some.inj held ▸ elsewhere

section

variable (routed : Routed config d)
include routed

theorem Routed.evictPendingTask (s : Fin n) : Routed config (d.evictPendingTask config s) := by
  unfold Runner.evictPendingTask
  split
  · exact routed
  · split
    · exact routed.dropPendingTask.note _
    · exact routed

theorem Routed.takePendingMemoryTask :
    Routed config d.takePendingMemoryTask := { routed with
  pendingMemoryTask := by simp [Runner.takePendingMemoryTask] }

theorem Routed.takePendingCancel : Routed config d.takePendingCancel :=
  routed.of_same rfl rfl rfl (fun _ held => held) (List.prefix_refl _)

/-- Another port, whose requests and responses name their slots. -/
theorem Routed.withPort {port : SchedulerPort n}
    (awaiting : ∀ request ∈ port.awaiting, Answerable request)
    (responses : ∀ response ∈ port.responses,
      response.requestType = .allocate ∨ response.slotId.isSome) :
    Routed config { d with scheduler := port } :=
  ⟨routed.pendingTask, routed.pendingMemoryTask, routed.latched, routed.stale, awaiting, responses⟩

theorem Routed.popResponse {rest : List (SchedulerResponse n)}
    (oldest : d.scheduler.responses = response :: rest) : Routed config (d.popResponse rest) :=
  routed.withPort routed.awaiting fun other member =>
    routed.responses other (by rw [oldest]; exact List.mem_cons_of_mem _ member)

theorem Routed.popOutput (rest : List (OutputMessage n × UInt32)) :
    Routed config (d.popOutput rest) :=
  routed.withPort routed.awaiting routed.responses

section

variable (named : response.requestType = .allocate ∨ response.slotId.isSome)
include named

theorem Routed.respond {ended : Option (Fin n)} :
    Routed config { d with scheduler := d.scheduler.respond response ended } := by
  refine routed.withPort routed.awaiting fun other member => ?_
  rcases List.mem_append.mp member with old | new
  · exact routed.responses other old
  · rw [List.mem_singleton.mp new]
    exact named

theorem Routed.answered {position : Nat} {ended : Option (Fin n)} :
    Routed config
      { d with scheduler := (d.scheduler.takeAwaiting position).respond response ended } := by
  refine routed.withPort (fun other member => ?_) fun other member => ?_
  · exact routed.awaiting other (List.mem_of_mem_eraseIdx member)
  · rcases List.mem_append.mp member with old | new
    · exact routed.responses other old
    · rw [List.mem_singleton.mp new]
      exact named

end

theorem routed_evictHeld {owner : Option UInt32} (named : request.slotId.isSome) :
    Routed config (evictHeld config d answer request s owner) := by
  have pushed : Routed config (d.pushRequest answer (makeEvictRequest request.taskId s) none) :=
    routed.pushRequest (.inr (.inr ⟨.inr rfl, rfl⟩))
  unfold evictHeld
  simp only
  split
  · have dropped := pushed.evictPendingTask s
    have elsewhere := evictPendingTask_elsewhere config
      (d.pushRequest answer (makeEvictRequest request.taskId s) none) s
    cases owner with
    | none =>
      exact dropped.setPhase _ (fun _ => .inr elsewhere) (by simp [Phase.deferredContinue])
        (by simp [Phase.stale])
    | some running =>
      refine (dropped.note _).setPhase _ (fun _ => .inr elsewhere)
        (by simp [Phase.deferredContinue]) fun other owned => closings_note _ ?_
      exact owned
  · exact pushed.deferMemoryTask fun _ => named

theorem routed_evict (named : request.slotId.isSome) :
    Routed config (evict config d answer request s) := by
  unfold evict Desk.phase
  cases phase : d.slotManager s with
  | idle | running => exact routed_evictHeld routed named
  | stopping owner evictId latched =>
    have closed := routed.closeLatched latched
    refine closed.setPhase _ ?_ (by simp [Phase.deferredContinue]) fun other owned => ?_
    · simp [phase]
    · refine closed.stale s other ?_
      rw [closeLatched_slotManager, phase]
      exact owned
  | evicting | free => exact routed.note _

theorem routed_memory (named : request.action = .deallocate → request.slotId.isSome) :
    Routed config (memory config d answer request) := by
  unfold memory
  split
  · have pushed : Routed config (d.pushRequest answer
        (makeAllocateRequest config request.taskId request.slotIdToCopyFrom) none) :=
      routed.pushRequest (.inr (.inl rfl))
    unfold Runner.handleAllocateRequest
    simp only
    split
    · exact pushed
    · exact pushed.deferMemoryTask named
  · rename_i slotId action slot
    exact routed_evict routed (named action)
  · exact routed
  · exact routed.note _

/-- A task may start when the pending task, if any, is for another slot. -/
theorem routed_task {given : Sequence} (named : given.slot config.kind n = some s)
    (elsewhere : ∀ pending, d.pendingRequests.pendingTask = some pending →
      pending.slot config.kind n ≠ some s) : Routed config (Desk.task config d answer given s) := by
  have pushed : Routed config (d.pushRequest answer (Runner.taskRequest config s given)
      (some given.taskId)) :=
    routed.pushRequest (.inl ⟨rfl, by rw [taskRequest_slotId]; rfl⟩)
  unfold Desk.task Desk.phase
  cases phase : d.slotManager s with
  | idle =>
    simp only
    split
    · exact pushed.setPhase _ (fun _ => .inr elsewhere) (by simp [Phase.deferredContinue])
        (by simp [Phase.stale])
    · exact pushed.deferTask named phase
  | stopping owner evictId latched =>
    refine routed.setPhase _ (by simp [phase]) ?_ fun other owned => routed.stale s other ?_
    · intro other held
      exact Option.some.inj held ▸ named
    · rw [phase]
      exact owned
  | evicting | free | running => exact routed.note _

theorem routed_stopAck : Routed config (stopAck config d answer s) := by
  unfold stopAck Desk.phase
  cases phase : d.slotManager s with
  | stopping owner evictId latched =>
    have idle : ∀ latched, Routed config (setPhase (closeLatched d latched) s .idle) := by
      intro latched
      exact (routed.closeLatched latched).setPhase _ (fun _ => .inl rfl)
        (by simp [Phase.deferredContinue]) (by simp [Phase.stale])
    cases evictId with
    | some evictId => exact routed_evict (idle latched) rfl
    | none =>
      cases latched with
      | none => exact idle none
      | some latched =>
        refine routed_task (idle none) (routed.latched s latched (by rw [phase]; rfl)) ?_
        -- the pending task's slot is IDLE, this one was not
        intro pending held named
        obtain ⟨s', named', waits⟩ := routed.pendingTask pending held
        rw [named] at named'
        rw [← Option.some.inj named', phase] at waits
        contradiction
  | free | idle | running | evicting => exact routed

theorem routed_evictAck : Routed config (evictAck d s) := by
  unfold evictAck Desk.phase
  cases phase : d.slotManager s with
  | evicting =>
    exact routed.setPhase _ (by simp [phase]) (by simp [Phase.deferredContinue])
      (by simp [Phase.stale])
  | free | idle | running | stopping => exact routed

theorem routed_allocateAck {requestId : UInt32} {slotId : Option (Fin n)} :
    Routed config (allocateAck d requestId slotId) := by
  cases slotId with
  | none => exact routed.note _
  | some s =>
    exact (routed.setPhase _ (fun _ => .inl rfl) (by simp [Phase.deferredContinue])
      (by simp [Phase.stale])).note _

theorem routed_submitError : Routed config (submitError d s) := by
  unfold submitError Desk.phase
  cases phase : d.slotManager s with
  | running =>
    exact (routed.setPhase _ (fun _ => .inl rfl) (by simp [Phase.deferredContinue])
      (by simp [Phase.stale])).note _
  | free | idle | stopping | evicting => exact routed

theorem routed_output {output : OutputMessage n} {accepts rejects : UInt32} :
    Routed config (Desk.output config d output accepts rejects) := by
  unfold Desk.output Desk.phase
  cases phase : d.slotManager output.slotId with
  | running =>
    have idle : Routed config (setPhase d output.slotId .idle) :=
      routed.setPhase _ (fun _ => .inl rfl) (by simp [Phase.deferredContinue])
        (by simp [Phase.stale])
    simp only
    split
    · exact idle.note _
    · split
      · exact idle.note _
      · exact routed.note _
  | free | idle => exact routed.note _
  | stopping | evicting => exact routed

theorem routed_cancel {cancelled : UInt32} : Routed config (cancel d answer cancelled) := by
  unfold cancel
  split
  · exact routed.dropPendingTask
  · split
    · exact routed
    · rename_i s found
      have running := slotRunning_some found
      have pushed : Routed config (d.pushRequest answer (makeStopRequest cancelled s) none) :=
        routed.pushRequest (.inr (.inr ⟨.inl rfl, rfl⟩))
      simp only
      split
      · -- the ABORT token is logged before the stale id is looked at
        have noted := pushed.note (.token ⟨cancelled, 0, flagAbort, 0, 0⟩)
        refine noted.setPhase (.stopping cancelled none none) ?_ (by simp [Phase.deferredContinue])
          fun other owned => closings_note _ ?_
        · simp [running]
        · rw [← Option.some.inj owned]
          exact closes_of_closing (by decide)
      · exact pushed.of_same rfl rfl rfl (fun _ held => held) (List.prefix_refl _)

theorem routed_response : Routed config (Desk.response config d answer response) := by
  unfold Desk.response
  split
  · exact routed_allocateAck routed
  · exact routed_evictAck routed
  · exact routed_stopAck routed
  · exact routed_submitError routed
  · split
    · exact routed
    · exact routed.note _
  · exact routed

end

end Desk

end InferenceServer.Blaze
