import InferenceServer.Blaze.Ledger
import InferenceServer.Blaze.Effects

/-! The ledger of memory requests. A memory request on the desk is the pending one
or latched on a slot that awaits its STOP ack; the log says which were accepted.
As for tasks, every handler keeps the sum of the two up to what it loses. -/
namespace InferenceServer.Blaze

open Machine

/-- The request to the scheduler that a memory request stands for. -/
def ManageMemoryTask.asRequest (config : BlazeConfig) (request : ManageMemoryTask n) :
    Option (ISRequest n) :=
  match request.action, request.slotId with
  | .allocate, _ => some (makeAllocateRequest config request.taskId request.slotIdToCopyFrom)
  | .deallocate, some s => some (makeEvictRequest request.taskId s)
  | .deallocate, none | .move, _ => none

/-- The ALLOCATE, STOP or EVICT request the scheduler has taken. -/
def Effect.accepts : Effect n → Option (ISRequest n)
  | .push request none true => some request
  | _ => none

/-- The EVICT latched on a slot. -/
def Phase.latchedEvict (s : Fin n) (phase : Phase) : Option (ISRequest n) :=
  phase.deferredEvict.map (makeEvictRequest · s)

/-- How often the scheduler has taken a request. -/
abbrev acceptances (log : List (Effect n)) (request : ISRequest n) : Nat :=
  tally Effect.accepts log request

namespace Desk

variable (config : BlazeConfig)

/-- The request the pending memory request stands for. -/
def waiting (d : Desk n) : Option (ISRequest n) :=
  d.pendingRequests.pendingMemoryTask.bind (ManageMemoryTask.asRequest config)

/-- The places of the desk that hold a memory request, and how often it was accepted. -/
def requestAccount (d : Desk n) (request : ISRequest n) : Nat :=
  hits request (waiting config d) +
    (∑ s, hits request ((d.slotManager s).latchedEvict s)) + acceptances d.log request

/-- An effect that gives the scheduler no memory request. -/
def givesNone (effect : Effect n) : Bool := effect.accepts.isNone

section Small

variable {config} {d d' : Desk n} {answer : SchedulerAnswer} {request : ISRequest n}

theorem requestAccount_of_same (slots : d'.slotManager = d.slotManager)
    (memory : d'.pendingRequests.pendingMemoryTask = d.pendingRequests.pendingMemoryTask)
    (adds : Adds givesNone d d') :
    requestAccount config d' request = requestAccount config d request := by
  obtain ⟨more, log, given⟩ := adds
  have none_taken : acceptances more request = 0 := by
    by_contra taken
    obtain ⟨effect, member, accepts⟩ := tally_pos.mp (Nat.pos_of_ne_zero taken)
    have quiet := given effect member
    simp [givesNone, accepts] at quiet
  have same : waiting config d' = waiting config d := by rw [waiting, waiting, memory]
  simp [requestAccount, same, slots, log, none_taken]

theorem requestAccount_note {effect : Effect n} (given : givesNone effect) :
    requestAccount config (d.note effect) request = requestAccount config d request :=
  requestAccount_of_same rfl rfl ⟨[effect], rfl, by simpa using given⟩

theorem requestAccount_setPhase (config : BlazeConfig) (d : Desk n) (s : Fin n) (phase : Phase)
    (request : ISRequest n) : requestAccount config (setPhase d s phase) request +
        hits request ((d.slotManager s).latchedEvict s) =
      requestAccount config d request + hits request (phase.latchedEvict s) := by
  have total := sum_update d.slotManager (fun j phase => hits request (phase.latchedEvict j)) s phase
  simp only [requestAccount, waiting, setPhase]
  omega

/-- A slot that neither had nor gets a latched EVICT. -/
theorem requestAccount_setPhase_same {s : Fin n} {phase : Phase}
    (had : (d.slotManager s).deferredEvict = phase.deferredEvict) :
    requestAccount config (setPhase d s phase) request = requestAccount config d request := by
  have moved := requestAccount_setPhase config d s phase request
  rw [Phase.latchedEvict, had] at moved
  exact Nat.add_right_cancel moved

theorem requestAccount_deferMemoryTask (config : BlazeConfig) (d : Desk n)
    (deferred : ManageMemoryTask n) (request : ISRequest n) :
    requestAccount config (d.deferMemoryTask deferred) request + hits request (waiting config d) =
      requestAccount config d request + hits request (deferred.asRequest config) := by
  simp [requestAccount, waiting, Runner.deferMemoryTask]
  omega

theorem requestAccount_takePendingMemoryTask (config : BlazeConfig) (d : Desk n)
    (request : ISRequest n) :
    requestAccount config d.takePendingMemoryTask request + hits request (waiting config d) =
      requestAccount config d request := by
  simp [requestAccount, waiting, Runner.takePendingMemoryTask]
  omega

theorem requestAccount_pushRequest (config : BlazeConfig) (d : Desk n) (answer : SchedulerAnswer)
    (pushed request : ISRequest n) :
    requestAccount config (d.pushRequest answer pushed none) request =
      requestAccount config d request +
        hits request (if answer.accepts then some pushed else none) := by
  have filed : (Effect.push pushed none answer.accepts).accepts =
      if answer.accepts then some pushed else none := by
    cases answer.accepts <;> rfl
  simp [requestAccount, acceptances, waiting, Runner.pushRequest, filed]
  omega

end Small

/-- The pending memory request gives way to a refused one. -/
def refusalLoss (d : Desk n) (answer : SchedulerAnswer) : Option (ISRequest n) :=
  if answer.accepts then none else waiting config d

theorem requestAccount_evictHeld (d : Desk n) (answer : SchedulerAnswer)
    {evicted : ManageMemoryTask n} {s : Fin n}
    (named : evicted.asRequest config = some (makeEvictRequest evicted.taskId s))
    (owner : Option UInt32) (unlatched : (d.slotManager s).deferredEvict = none)
    (request : ISRequest n) :
    requestAccount config (evictHeld config d answer evicted s owner) request +
        hits request (refusalLoss config d answer) =
      requestAccount config d request + hits request (evicted.asRequest config) := by
  have pushed := requestAccount_pushRequest config d answer (makeEvictRequest evicted.taskId s) request
  unfold evictHeld refusalLoss
  by_cases accepts : answer.accepts
  · simp only [accepts, ↓reduceIte, hits_none, Nat.add_zero] at pushed ⊢
    rw [requestAccount_setPhase_same (by
      cases owner <;> simp only [Runner.note_slotManager, Runner.evictPendingTask_slotManager,
        Runner.pushRequest_slotManager, unlatched] <;> rfl), named, ← pushed]
    have dropped : requestAccount config
        ((d.pushRequest answer (makeEvictRequest evicted.taskId s) none).evictPendingTask config s)
        request = requestAccount config
        (d.pushRequest answer (makeEvictRequest evicted.taskId s) none) request := by
      refine requestAccount_of_same (Runner.evictPendingTask_slotManager ..)
        (evictPendingTask_pending ..).1 ?_
      unfold Runner.evictPendingTask
      repeat' split
      · exact .refl _ rfl
      · exact (Adds.refl _ rfl).note _ rfl
      · exact .refl _ rfl
    cases owner with
    | none => exact dropped
    | some task => exact (requestAccount_note rfl).trans dropped
  · simp only [accepts, Bool.false_eq_true, ↓reduceIte, hits_none, Nat.add_zero] at pushed ⊢
    have deferred := requestAccount_deferMemoryTask config
      (d.pushRequest answer (makeEvictRequest evicted.taskId s) none) evicted request
    rw [pushed] at deferred
    exact deferred

/-- The memory request an eviction loses: the one it takes the place of, or itself
when the slot has no use for it. -/
def evictLoss (d : Desk n) (answer : SchedulerAnswer) (evicted : ManageMemoryTask n)
    (s : Fin n) : Option (ISRequest n) :=
  match phase d s with
  | .idle | .running _ => refusalLoss config d answer
  | .stopping _ evict _ => evict.map (makeEvictRequest · s)
  | .evicting .. | .free => evicted.asRequest config

theorem requestAccount_evict (d : Desk n) (answer : SchedulerAnswer)
    {evicted : ManageMemoryTask n} {s : Fin n}
    (named : evicted.asRequest config = some (makeEvictRequest evicted.taskId s))
    (request : ISRequest n) : requestAccount config (evict config d answer evicted s) request +
        hits request (evictLoss config d answer evicted s) =
      requestAccount config d request + hits request (evicted.asRequest config) := by
  unfold evict evictLoss Desk.phase
  cases phase : d.slotManager s with
  | idle =>
    exact requestAccount_evictHeld config d answer named _ (by rw [phase]; rfl) request
  | running owner =>
    exact requestAccount_evictHeld config d answer named _ (by rw [phase]; rfl) request
  | stopping owner evict latched =>
    have moved := requestAccount_setPhase config
      (closeLatched d latched) s (.stopping owner (some evicted.taskId) none) request
    have closed : requestAccount config (closeLatched d latched) request =
        requestAccount config d request := by
      cases latched with
      | none => rfl
      | some task => exact requestAccount_note rfl
    rw [closed, closeLatched_slotManager, phase] at moved
    rw [named]
    exact moved
  | evicting | free => exact congrArg (· + _) (requestAccount_note rfl)

/-- The memory request its handler loses. -/
def memoryLoss (d : Desk n) (answer : SchedulerAnswer) (given : ManageMemoryTask n) :
    Option (ISRequest n) :=
  match given.action, given.slotId with
  | .allocate, _ => refusalLoss config d answer
  | .deallocate, some s => evictLoss config d answer given s
  | .deallocate, none | .move, _ => none

theorem requestAccount_memory (d : Desk n) (answer : SchedulerAnswer)
    (given : ManageMemoryTask n) (request : ISRequest n) :
    requestAccount config (memory config d answer given) request +
        hits request (memoryLoss config d answer given) =
      requestAccount config d request + hits request (given.asRequest config) := by
  obtain ⟨taskId, action, slotId, slotIdToCopyFrom⟩ := given
  cases action with
  | allocate =>
    have pushed := requestAccount_pushRequest config d answer
      (makeAllocateRequest config taskId slotIdToCopyFrom) request
    simp only [memory, memoryLoss, Runner.handleAllocateRequest, refusalLoss,
      ManageMemoryTask.asRequest]
    by_cases accepts : answer.accepts
    · simpa [accepts] using pushed
    · have deferred := requestAccount_deferMemoryTask config
        (d.pushRequest answer (makeAllocateRequest config taskId slotIdToCopyFrom) none)
        { taskId, action := .allocate, slotId, slotIdToCopyFrom } request
      simp only [accepts, Bool.false_eq_true, ↓reduceIte, hits_none, Nat.add_zero] at pushed ⊢
      rw [pushed] at deferred
      exact deferred
  | deallocate =>
    cases slotId with
    | none => rfl
    | some s => exact requestAccount_evict config d answer rfl request
  | move => exact congrArg (· + _) (requestAccount_note rfl)

/-- A task's own requests are not memory requests. -/
theorem requestAccount_task (d : Desk n) (answer : SchedulerAnswer) (given : Sequence)
    (s : Fin n) (request : ISRequest n) :
    requestAccount config (Desk.task config d answer given s) request =
      requestAccount config d request := by
  have pushed : requestAccount config
      (d.pushRequest answer (Runner.taskRequest config s given) (some given.taskId)) request =
        requestAccount config d request :=
    requestAccount_of_same rfl rfl ⟨[_], rfl, by simp [givesNone, Effect.accepts]⟩
  unfold Desk.task Desk.phase
  cases phase : d.slotManager s with
  | idle =>
    simp only
    split
    · rw [requestAccount_setPhase_same (by simp [phase, Phase.deferredEvict])]
      exact pushed
    · exact pushed
  | stopping => exact requestAccount_setPhase_same (by rw [phase]; rfl)
  | evicting | free | running => exact requestAccount_note rfl

/-- The memory request a STOP ack loses when the latched EVICT is refused. -/
def stopAckMemoryLoss (d : Desk n) (answer : SchedulerAnswer) (s : Fin n) :
    Option (ISRequest n) :=
  match phase d s with
  | .stopping _ (some _) _ => refusalLoss config d answer
  | _ => none

theorem requestAccount_stopAck (d : Desk n) (answer : SchedulerAnswer) (s : Fin n)
    (request : ISRequest n) : requestAccount config (stopAck config d answer s) request +
        hits request (stopAckMemoryLoss config d answer s) = requestAccount config d request := by
  unfold stopAck stopAckMemoryLoss Desk.phase
  cases phase : d.slotManager s with
  | stopping owner evictId latched =>
    cases evictId with
    | some evictId =>
      have moved := requestAccount_setPhase config
        (closeLatched d latched) s .idle request
      have closed : requestAccount config (closeLatched d latched) request =
          requestAccount config d request := by
        cases latched with
        | none => rfl
        | some task => exact requestAccount_note rfl
      have named : ManageMemoryTask.asRequest config
          { taskId := evictId, action := .deallocate, slotId := some s } =
            some (makeEvictRequest evictId s) := rfl
      have evicted := requestAccount_evict config (setPhase (closeLatched d latched) s .idle) answer
        named request
      have kept : waiting config (setPhase (closeLatched d latched) s .idle) = waiting config d := by
        cases latched <;> rfl
      have idle : Desk.phase (setPhase (closeLatched d latched) s .idle) s = .idle :=
        Function.update_self ..
      simp only [evictLoss, idle, refusalLoss, kept] at evicted
      simp only [closeLatched_slotManager, phase, closed] at moved
      simp only [refusalLoss]
      have same : hits request (Phase.latchedEvict s (.stopping owner (some evictId) latched)) =
          hits request (ManageMemoryTask.asRequest config
            { taskId := evictId, action := .deallocate, slotId := some s }) := rfl
      have none_latched : hits request (Phase.latchedEvict s .idle) = 0 := rfl
      omega
    | none =>
      have moved : requestAccount config (setPhase d s .idle) request =
          requestAccount config d request :=
        requestAccount_setPhase_same (by rw [phase]; rfl)
      cases latched with
      | none => exact moved
      | some latched => exact (requestAccount_task config _ answer latched s request).trans moved
  | free | idle | running | evicting => rfl

/-- The memory request a response loses. -/
def responseMemoryLoss (d : Desk n) (answer : SchedulerAnswer) (response : SchedulerResponse n) :
    Option (ISRequest n) :=
  match response.requestType, response.slotId with
  | .stop, some s => stopAckMemoryLoss config d answer s
  | _, _ => none

theorem requestAccount_response (d : Desk n) (answer : SchedulerAnswer)
    {response : SchedulerResponse n}
    (free : response.requestType = .allocate → ∀ s, response.slotId = some s →
      d.slotManager s = .free) (request : ISRequest n) :
    requestAccount config (Desk.response config d answer response) request +
        hits request (responseMemoryLoss config d answer response) =
      requestAccount config d request := by
  unfold Desk.response responseMemoryLoss
  cases type : response.requestType with
  | allocate =>
    unfold allocateAck
    cases slot : response.slotId with
    | none => exact requestAccount_note rfl
    | some s =>
      exact (requestAccount_note rfl).trans
        (requestAccount_setPhase_same (by rw [free type s slot]; rfl))
  | «continue» =>
    simp only
    split
    · rfl
    · exact requestAccount_note rfl
  | stop =>
    cases slot : response.slotId with
    | none => rfl
    | some s => exact requestAccount_stopAck config d answer s request
  | submit =>
    cases slot : response.slotId with
    | none => rfl
    | some s =>
      simp only [hits_none, Nat.add_zero]
      unfold submitError Desk.phase
      cases phase : d.slotManager s with
      | running =>
        exact (requestAccount_note rfl).trans (requestAccount_setPhase_same (by rw [phase]; rfl))
      | free | idle | stopping | evicting => rfl
  | evict =>
    cases slot : response.slotId with
    | none => rfl
    | some s =>
      simp only [hits_none, Nat.add_zero]
      unfold evictAck Desk.phase
      cases phase : d.slotManager s with
      | evicting => exact requestAccount_setPhase_same (by rw [phase]; rfl)
      | free | idle | running | stopping => rfl

theorem requestAccount_output (d : Desk n) (output : OutputMessage n)
    (accepts rejects : UInt32) (request : ISRequest n) :
    requestAccount config (Desk.output config d output accepts rejects) request =
      requestAccount config d request := by
  unfold Desk.output Desk.phase
  cases phase : d.slotManager output.slotId with
  | running owner =>
    have idled : requestAccount config (setPhase d output.slotId .idle) request =
        requestAccount config d request := requestAccount_setPhase_same (by rw [phase]; rfl)
    simp only
    split
    · exact (requestAccount_note rfl).trans idled
    · split
      · exact (requestAccount_note rfl).trans idled
      · exact requestAccount_note rfl
  | free | idle => exact requestAccount_note rfl
  | stopping | evicting => rfl

/-- A cancel gives the scheduler a STOP at most. -/
theorem requestAccount_cancel (d : Desk n) (answer : SchedulerAnswer) (cancelled : UInt32)
    {request : ISRequest n} (memory : request.type ≠ .stop) :
    requestAccount config (cancel d answer cancelled) request =
      requestAccount config d request := by
  unfold cancel
  split
  · exact requestAccount_of_same rfl rfl (.refl _ rfl)
  · cases found : slotRunning d cancelled with
    | none => rfl
    | some s =>
      have running := slotRunning_some found
      have other : some (makeStopRequest cancelled s) ≠ some request := by
        intro same
        exact memory (Option.some.inj same ▸ rfl)
      have pushed := requestAccount_pushRequest config d answer
        (makeStopRequest cancelled s) request
      have none_given : hits request
          (if answer.accepts then some (makeStopRequest cancelled s) else none) = 0 := by
        split
        · exact if_neg other
        · rfl
      rw [none_given, Nat.add_zero] at pushed
      simp only
      split
      · refine (requestAccount_note rfl).trans ((requestAccount_setPhase_same ?_).trans pushed)
        rw [Runner.pushRequest_slotManager, running]
        rfl
      · exact pushed

end Desk

end InferenceServer.Blaze
