import InferenceServer.Blaze.Desk

/-! The ledger of a desk. A task on the desk is in one of three places: the
pending task, latched on a stopping slot, or running. Every handler either keeps
it in a place or logs the effect that closes its stream, so the sum of the two
counts only goes down by what the handler loses. -/
namespace InferenceServer.Blaze

open Machine

/-- The task a phase holds with its stream open. -/
def Phase.holds : Phase → Option UInt32
  | .running task => some task
  | .stopping _ _ latched => latched.map Sequence.taskId
  | _ => none

/-- The task a slot has run and given up. -/
def Phase.stale : Phase → Option UInt32
  | .stopping task .. => some task
  | .evicting _ owner => owner
  | _ => none

/-- The task whose stream an effect closes: a last or abort token was pushed for
it, or its running slot was evicted. -/
def Effect.closes : Effect n → Option UInt32
  | .token pushed => if pushed.isFinal || pushed.isAbort then some pushed.taskId else none
  | .evictedRunning taskId => some taskId
  | _ => none

/-- How often a log closes a task's stream. -/
abbrev closings (log : List (Effect n)) (task : UInt32) : Nat := tally Effect.closes log task

namespace Desk

/-- The places of the desk that hold a task. -/
def copies (d : Desk n) (task : UInt32) : Nat :=
  hits task (d.pendingRequests.pendingTask.map Sequence.taskId) +
    ∑ s, hits task (d.slotManager s).holds

/-- The places that hold a task and the times its stream was closed. -/
def account (d : Desk n) (task : UInt32) : Nat := copies d task + closings d.log task

section

variable (d : Desk n)
include d

theorem account_note (effect : Effect n) (task : UInt32) :
    account (d.note effect) task = account d task + hits task effect.closes := by
  simp only [account, Runner.note, tally_append, tally_single]
  exact (Nat.add_assoc ..).symm

/-- A log with an effect that closes a task's stream. -/
theorem closings_note {effect : Effect n} (closes : effect.closes = some taskId) :
    0 < closings (d.note effect).log taskId := by
  simp [Runner.note, tally_single, closes, hits]

theorem account_setPhase (s : Fin n) (phase : Phase) (task : UInt32) :
    account (setPhase d s phase) task + hits task (d.slotManager s).holds =
      account d task + hits task phase.holds := by
  have total := sum_update d.slotManager (fun _ phase => hits task phase.holds) s phase
  simp only [account, copies, setPhase]
  omega

theorem account_deferTask (deferred : Sequence) (task : UInt32) :
    account (d.deferTask deferred) task +
        hits task (d.pendingRequests.pendingTask.map Sequence.taskId) =
      account d task + hits task (some deferred.taskId) := by
  simp [account, copies, Runner.deferTask]
  omega

theorem account_dropPendingTask (task : UInt32) : account d.dropPendingTask task +
        hits task (d.pendingRequests.pendingTask.map Sequence.taskId) = account d task := by
  simp [account, copies, Runner.dropPendingTask]
  omega

@[simp] theorem account_pushRequest (answer : SchedulerAnswer) (request : ISRequest n)
    (owner : Option UInt32) (task : UInt32) :
    account (d.pushRequest answer request owner) task = account d task := by
  simp [account, copies, Runner.pushRequest, tally_single, Effect.closes]

@[simp] theorem account_deferMemoryTask (request : ManageMemoryTask n) (task : UInt32) :
    account (d.deferMemoryTask request) task = account d task := rfl

@[simp] theorem account_deferCancel (taskId task : UInt32) :
    account (d.deferCancel taskId) task = account d task := rfl

end

/-- A token with these flags closes a stream. -/
def closing (flags : UInt32) : Bool := flags &&& flagFinal != 0 || flags &&& flagAbort != 0

theorem closes_of_closing {flags : UInt32} (last : closing flags = true) :
    (Effect.token ⟨taskId, tokenId, flags, accepts, rejects⟩ : Effect n).closes = some taskId :=
  if_pos last

theorem account_pushToken (d : Desk n) {flags : UInt32} (taskId tokenId accepts rejects : UInt32)
    (last : closing flags = true) (task : UInt32) :
    account (d.pushToken taskId tokenId flags accepts rejects) task =
      account d task + hits task (some taskId) := by
  rw [Runner.pushToken, account_note]
  exact congrArg (account d task + hits task ·) (closes_of_closing last)

theorem account_pushToken_open (d : Desk n) (taskId tokenId accepts rejects task : UInt32) :
    account (d.pushToken taskId tokenId 0 accepts rejects) task = account d task := by
  rw [Runner.pushToken, account_note]
  have stays : ¬closing 0 = true := by decide
  exact congrArg (account d task + hits task ·) (if_neg stays)

theorem account_closeDropped (d : Desk n) (dropped : Sequence) (task : UInt32) :
    account (d.closeDropped dropped) task = account d task + hits task (some dropped.taskId) := by
  exact account_pushToken d _ _ _ _ (by decide) task

theorem account_closeLatched (d : Desk n) (latched : Option Sequence) (task : UInt32) :
    account (closeLatched d latched) task =
      account d task + hits task (latched.map Sequence.taskId) := by
  cases latched with
  | none => rfl
  | some dropped => exact account_closeDropped d dropped task

/-- A task with no copy is held nowhere. -/
theorem copies_zero {d : Desk n} (none_held : copies d taskId = 0) :
    d.pendingRequests.pendingTask.map Sequence.taskId ≠ some taskId ∧
      ∀ s, (d.slotManager s).holds ≠ some taskId := by
  unfold copies at none_held
  refine ⟨fun pending => ?_, fun s held => ?_⟩
  · have one : hits taskId (d.pendingRequests.pendingTask.map Sequence.taskId) = 1 := if_pos pending
    omega
  · have one : hits taskId (d.slotManager s).holds = 1 := if_pos held
    have part := share_add_rest d.slotManager (fun phase => hits taskId phase.holds) s
    omega

/-- A task with one copy that a slot holds is held nowhere else. -/
theorem copies_once {d : Desk n} (once : copies d taskId ≤ 1)
    (held : (d.slotManager s).holds = some taskId) :
    d.pendingRequests.pendingTask.map Sequence.taskId ≠ some taskId ∧
      ∀ s', s' ≠ s → (d.slotManager s').holds ≠ some taskId := by
  unfold copies at once
  have one : hits taskId (d.slotManager s).holds = 1 := if_pos held
  have part := share_add_rest d.slotManager (fun phase => hits taskId phase.holds) s
  refine ⟨fun pending => ?_, fun s' differs other => ?_⟩
  · have two : hits taskId (d.pendingRequests.pendingTask.map Sequence.taskId) = 1 := if_pos pending
    omega
  · have two : hits taskId (d.slotManager s').holds = 1 := if_pos other
    have rest := Finset.single_le_sum (f := fun j => hits taskId (d.slotManager j).holds)
      (fun j _ => Nat.zero_le _) (Finset.mem_erase.mpr ⟨differs, Finset.mem_univ s'⟩)
    omega

variable (config : BlazeConfig) (d : Desk n) (answer : SchedulerAnswer) (s : Fin n)

/-- Dropping the pending task of an evicted slot closes its stream. -/
@[simp] theorem account_evictPendingTask (task : UInt32) :
    account (d.evictPendingTask config s) task = account d task := by
  unfold Runner.evictPendingTask
  split
  · rfl
  · rename_i pending occupied
    split
    · have dropped := account_dropPendingTask d task
      rw [occupied] at dropped
      rw [account_closeDropped]
      exact dropped
    · rfl

section

variable (request : ManageMemoryTask n)
include request

/-- An eviction loses no task. -/
theorem account_evictHeld {s : Fin n} {owner : Option UInt32}
    (held : (d.slotManager s).holds = owner) (task : UInt32) :
    account (evictHeld config d answer request s owner) task = account d task := by
  unfold evictHeld
  simp only
  split
  · cases owner with
    | none =>
      have moved := account_setPhase ((d.pushRequest answer
        (makeEvictRequest request.taskId s) none).evictPendingTask config s) s
        (.evicting request.taskId none) task
      simp only [Runner.evictPendingTask_slotManager, Runner.pushRequest_slotManager, held,
        hits_none, account_evictPendingTask, account_pushRequest] at moved
      exact moved
    | some running =>
      have moved := account_setPhase (((d.pushRequest answer
        (makeEvictRequest request.taskId s) none).evictPendingTask config s).note
        (.evictedRunning running)) s (.evicting request.taskId (some running)) task
      simp only [Runner.note_slotManager, Runner.evictPendingTask_slotManager,
        Runner.pushRequest_slotManager, held, account_note, account_evictPendingTask,
        account_pushRequest] at moved
      exact Nat.add_right_cancel moved
  · simp

theorem account_evict (s : Fin n) (task : UInt32) :
    account (evict config d answer request s) task = account d task := by
  unfold evict Desk.phase
  cases phase : d.slotManager s with
  | idle => exact account_evictHeld config d answer request (by rw [phase]; rfl) task
  | running owner => exact account_evictHeld config d answer request (by rw [phase]; rfl) task
  | stopping owner evictId latched =>
    have moved := account_setPhase (closeLatched d latched) s
      (.stopping owner (some request.taskId) none) task
    have closed := account_closeLatched d latched task
    cases latched <;> simp_all [Phase.holds, closeLatched]
  | evicting | free => simp [account_note, Effect.closes]

theorem account_memory (task : UInt32) :
    account (memory config d answer request) task = account d task := by
  unfold memory
  split
  · unfold Runner.handleAllocateRequest
    simp only
    split <;> simp
  · exact account_evict config d answer request _ task
  · rfl
  · simp [account_note, Effect.closes]

end

/-- The task a task handler loses: one it overwrites, or the task itself when its
slot takes no task. -/
def taskLoss (given : Sequence) (s : Fin n) : Option UInt32 :=
  match phase d s with
  | .idle => if answer.accepts then none else d.pendingRequests.pendingTask.map Sequence.taskId
  | .stopping _ _ latched => latched.map Sequence.taskId
  | .evicting .. => none
  | .free | .running _ => some given.taskId

theorem account_task (given : Sequence) (s : Fin n) (task : UInt32) :
    account (Desk.task config d answer given s) task + hits task (taskLoss d answer given s) =
      account d task + hits task (some given.taskId) := by
  unfold Desk.task taskLoss Desk.phase
  cases phase : d.slotManager s with
  | idle =>
    by_cases accepts : answer.accepts
    · have moved := account_setPhase (d.pushRequest answer (Runner.taskRequest config s given)
        (some given.taskId)) s (.running given.taskId) task
      simpa [accepts, phase, Phase.holds] using moved
    · have moved := account_deferTask (d.pushRequest answer (Runner.taskRequest config s given)
        (some given.taskId)) given task
      simpa [accepts] using moved
  | stopping owner evictId latched =>
    have moved := account_setPhase d s (.stopping owner evictId (some given)) task
    simpa [phase, Phase.holds] using moved
  | evicting => exact account_closeDropped d given task
  | free | running => simp [account_note, Effect.closes]

/-- The task a STOP ack loses: the pending one, when the latched task is refused
and takes its place. -/
def stopAckLoss : Option UInt32 :=
  match phase d s with
  | .stopping _ none (some _) =>
    if answer.accepts then none else d.pendingRequests.pendingTask.map Sequence.taskId
  | _ => none

theorem account_stopAck (task : UInt32) :
    account (stopAck config d answer s) task + hits task (stopAckLoss d answer s) =
      account d task := by
  unfold stopAck stopAckLoss Desk.phase
  cases phase : d.slotManager s with
  | stopping owner evictId latched =>
    cases evictId with
    | some evictId =>
      have moved := account_setPhase (closeLatched d latched) s .idle task
      have closed := account_closeLatched d latched task
      have evicted := account_evict config (setPhase (closeLatched d latched) s .idle) answer
        { taskId := evictId, action := .deallocate, slotId := some s } s task
      simp only [closeLatched_slotManager, phase, Phase.holds, hits_none] at moved ⊢
      omega
    | none =>
      have moved := account_setPhase d s .idle task
      cases latched with
      | none => simpa [phase, Phase.holds] using moved
      | some latched =>
        have started := account_task config (setPhase d s .idle) answer latched s task
        simp only [taskLoss, Desk.phase, setPhase_slotManager, Function.update_self] at started
        simp only [phase, Phase.holds, hits_none, Option.map_some] at moved ⊢
        have kept : (setPhase d s .idle).pendingRequests = d.pendingRequests := rfl
        rw [kept] at started
        omega
  | free | idle | running | evicting => rfl

theorem account_evictAck (task : UInt32) : account (evictAck d s) task = account d task := by
  unfold evictAck Desk.phase
  cases phase : d.slotManager s with
  | evicting =>
    have moved := account_setPhase d s .free task
    simpa [phase, Phase.holds] using moved
  | free | idle | running | stopping => rfl

theorem account_allocateAck (requestId : UInt32) {slotId : Option (Fin n)}
    (free : ∀ s, slotId = some s → d.slotManager s = .free) (task : UInt32) :
    account (allocateAck d requestId slotId) task = account d task := by
  cases slotId with
  | none => simp [allocateAck, account_note, Effect.closes]
  | some s =>
    have moved := account_setPhase d s .idle task
    simpa [allocateAck, account_note, Effect.closes, free s rfl, Phase.holds] using moved

theorem account_submitError (task : UInt32) : account (submitError d s) task = account d task := by
  unfold submitError Desk.phase
  cases phase : d.slotManager s with
  | running owner =>
    have moved := account_setPhase d s .idle task
    simp only [phase, Phase.holds, hits_none] at moved
    simp only
    rw [account_pushToken _ _ _ _ _ (by decide)]
    exact moved
  | free | idle | stopping | evicting => rfl

theorem account_output (output : OutputMessage n) (accepts rejects task : UInt32) :
    account (Desk.output config d output accepts rejects) task = account d task := by
  unfold Desk.output Desk.phase
  cases phase : d.slotManager output.slotId with
  | running owner =>
    have moved := account_setPhase d output.slotId .idle task
    simp only [phase, Phase.holds, hits_none] at moved
    simp only
    split
    · rw [account_pushToken _ _ _ _ _ (by cases config.kind <;> decide)]
      exact moved
    · split
      · rw [account_pushToken _ _ _ _ _ (by decide)]
        exact moved
      · exact account_pushToken_open d owner output.tokenId accepts rejects task
  | free | idle | stopping | evicting => simp [account_note, Effect.closes]

/-- The task a cancel takes off the desk without a token. -/
def cancelLoss (cancelled : UInt32) : Option UInt32 :=
  if d.pendingRequests.pendingTask.map Sequence.taskId = some cancelled then some cancelled
  else none

theorem account_cancel (cancelled task : UInt32) :
    account (cancel d answer cancelled) task + hits task (cancelLoss d cancelled) =
      account d task := by
  unfold cancel cancelLoss
  split
  · rename_i queued
    have dropped := account_dropPendingTask d task
    rwa [queued] at dropped
  · cases found : slotRunning d cancelled with
    | none => rfl
    | some s =>
      have running := slotRunning_some found
      by_cases accepts : answer.accepts
      · have moved := account_setPhase (d.pushRequest answer (makeStopRequest cancelled s) none) s
          (.stopping cancelled none none) task
        simp only [Runner.pushRequest_slotManager, running, Phase.holds, account_pushRequest,
          Option.map_none, hits_none] at moved
        simp only [accepts, ↓reduceIte, hits_none]
        rw [account_pushToken _ _ _ _ _ (by decide)]
        exact moved
      · simp [accepts]

/-- The task a response loses. -/
def responseLoss (response : SchedulerResponse n) : Option UInt32 :=
  match response.requestType, response.slotId with
  | .stop, some s => stopAckLoss d answer s
  | _, _ => none

theorem account_response {response : SchedulerResponse n}
    (free : response.requestType = .allocate → ∀ s, response.slotId = some s →
      d.slotManager s = .free) (task : UInt32) :
    account (Desk.response config d answer response) task +
      hits task (responseLoss d answer response) = account d task := by
  unfold Desk.response responseLoss
  cases type : response.requestType with
  | allocate => exact account_allocateAck d response.requestId (free type) task
  | «continue» =>
    simp only
    split
    · rfl
    · simp [account_note, Effect.closes]
  | submit | evict | stop =>
    cases slot : response.slotId with
    | none => rfl
    | some s =>
      first
        | exact account_stopAck config d answer s task
        | exact account_submitError d s task
        | exact account_evictAck d s task

end Desk

end InferenceServer.Blaze
