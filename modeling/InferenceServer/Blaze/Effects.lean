import InferenceServer.Blaze.Desk

/-! What the handlers add to the log. No handler fails an assertion about bindings;
a request is pushed for a task only when the task is handled, and an output is
found on a slot that is not running only by the output handler. -/
namespace InferenceServer.Blaze

/-- An effect that every handler may have. -/
def Effect.quiet : Effect n → Bool
  | .push _ (some _) _ => false
  | .assertion failed => failed ≠ .alreadyBound ∧ failed ≠ .notBound ∧ failed ≠ .outputNotRunning
  | _ => true

/-- An effect of handling a task. -/
def Effect.quietFor (taskId : UInt32) : Effect n → Bool
  | .push _ (some owner) _ => owner = taskId
  | effect => effect.quiet

namespace Desk

variable {config : BlazeConfig} {d d' d'' : Desk n} {answer : SchedulerAnswer} {s : Fin n}
variable {kind : Effect n → Bool}

/-- The second desk's log is the first one's with effects of a kind added. -/
def Adds (kind : Effect n → Bool) (d d' : Desk n) : Prop :=
  ∃ more, d'.log = d.log ++ more ∧ ∀ effect ∈ more, kind effect

theorem Adds.refl (kind : Effect n → Bool) (same : d'.log = d.log) : Adds kind d d' :=
  ⟨[], by simp [same], by simp⟩

theorem Adds.trans (first : Adds kind d d') (second : Adds kind d' d'') : Adds kind d d'' := by
  obtain ⟨more, log, kinds⟩ := first
  obtain ⟨more', log', kinds'⟩ := second
  refine ⟨more ++ more', by rw [log', log, List.append_assoc], fun effect member => ?_⟩
  rcases List.mem_append.mp member with here | later
  · exact kinds effect here
  · exact kinds' effect later

theorem Adds.mono {wider : Effect n → Bool} (adds : Adds kind d d')
    (widens : ∀ effect, kind effect → wider effect) : Adds wider d d' := by
  obtain ⟨more, log, kinds⟩ := adds
  exact ⟨more, log, fun effect member => widens effect (kinds effect member)⟩

theorem Adds.grows (adds : Adds kind d d') : d.log <+: d'.log := by
  obtain ⟨more, log, -⟩ := adds
  exact ⟨more, log.symm⟩

/-- An effect in the later log is an earlier one or one of those added. -/
theorem Adds.mem (adds : Adds kind d d') (member : effect ∈ d'.log) :
    effect ∈ d.log ∨ kind effect := by
  obtain ⟨more, log, kinds⟩ := adds
  rw [log, List.mem_append] at member
  exact member.imp id (kinds effect)

theorem Adds.note (adds : Adds kind d d') (effect : Effect n) (new : kind effect) :
    Adds kind d (d'.note effect) :=
  adds.trans ⟨[effect], rfl, by simpa using new⟩

theorem adds_closeLatched (d : Desk n) (latched : Option Sequence) :
    Adds Effect.quiet d (closeLatched d latched) := by
  cases latched with
  | none => exact .refl _ rfl
  | some task => exact (Adds.refl _ rfl).note _ rfl

theorem adds_evictPendingTask (config : BlazeConfig) (d : Desk n) (s : Fin n) :
    Adds Effect.quiet d (d.evictPendingTask config s) := by
  unfold Runner.evictPendingTask
  split
  · exact .refl _ rfl
  · split
    · exact (Adds.refl _ rfl).note _ rfl
    · exact .refl _ rfl

theorem adds_pushRequest (d : Desk n) (answer : SchedulerAnswer) (request : ISRequest n) :
    Adds Effect.quiet d (d.pushRequest answer request none) :=
  ⟨[_], rfl, by simp [Effect.quiet]⟩

theorem adds_evictHeld (d : Desk n) (request : ManageMemoryTask n) (owner : Option UInt32) :
    Adds Effect.quiet d (evictHeld config d answer request s owner) := by
  have pushed := adds_pushRequest d answer (makeEvictRequest request.taskId s)
  unfold evictHeld
  simp only
  split
  · have dropped := pushed.trans (adds_evictPendingTask config _ s)
    cases owner with
    | none => exact dropped
    | some task => exact dropped.note _ rfl
  · exact pushed

theorem adds_evict (d : Desk n) (request : ManageMemoryTask n) :
    Adds Effect.quiet d (evict config d answer request s) := by
  unfold evict
  split
  · exact adds_evictHeld d request _
  · exact adds_evictHeld d request _
  · exact adds_closeLatched d _
  · exact (Adds.refl _ rfl).note _ rfl
  · exact (Adds.refl _ rfl).note _ rfl

theorem adds_memory (d : Desk n) (request : ManageMemoryTask n) :
    Adds Effect.quiet d (memory config d answer request) := by
  unfold memory
  split
  · have pushed := adds_pushRequest d answer
      (makeAllocateRequest config request.taskId request.slotIdToCopyFrom)
    unfold Runner.handleAllocateRequest
    simp only
    split <;> exact pushed
  · exact adds_evict d request
  · exact .refl _ rfl
  · exact (Adds.refl _ rfl).note _ rfl

theorem adds_task (d : Desk n) (given : Sequence) :
    Adds (Effect.quietFor given.taskId) d (Desk.task config d answer given s) := by
  have pushed : Adds (Effect.quietFor given.taskId) d
      (d.pushRequest answer (Runner.taskRequest config s given) (some given.taskId)) :=
    ⟨[_], rfl, by simp [Effect.quietFor]⟩
  unfold Desk.task
  split
  · simp only
    split <;> exact pushed
  · exact .refl _ rfl
  · exact (Adds.refl _ rfl).note _ rfl
  · exact (Adds.refl _ rfl).note _ rfl
  · exact (Adds.refl _ rfl).note _ rfl

/-- A STOP ack pushes a request for the task latched on its slot only. -/
theorem adds_stopAck (config : BlazeConfig) (answer : SchedulerAnswer) (d : Desk n) (s : Fin n) :
    Adds Effect.quiet d (stopAck config d answer s) ∨
      ∃ latched, (d.slotManager s).deferredContinue = some latched ∧
        Adds (Effect.quietFor latched.taskId) d (stopAck config d answer s) := by
  unfold stopAck Desk.phase
  cases phase : d.slotManager s with
  | stopping owner evictId latched =>
    cases evictId with
    | some evictId =>
      have closed : Adds Effect.quiet d (setPhase (closeLatched d latched) s .idle) :=
        adds_closeLatched d latched
      exact .inl (closed.trans (adds_evict _ _))
    | none =>
      cases latched with
      | none => exact .inl (.refl _ rfl)
      | some latched =>
        have idle : Adds (Effect.quietFor latched.taskId) d (setPhase d s .idle) := .refl _ rfl
        exact .inr ⟨latched, rfl, idle.trans (adds_task _ latched)⟩
  | free | idle | running | evicting => exact .inl (.refl _ rfl)

theorem adds_response (config : BlazeConfig) (answer : SchedulerAnswer) (d : Desk n)
    (response : SchedulerResponse n) :
    Adds Effect.quiet d (Desk.response config d answer response) ∨
      ∃ s latched, (d.slotManager s).deferredContinue = some latched ∧
        Adds (Effect.quietFor latched.taskId) d (Desk.response config d answer response) := by
  unfold Desk.response
  split
  · unfold allocateAck
    split <;> exact .inl ((Adds.refl _ rfl).note _ rfl)
  · unfold evictAck
    split <;> exact .inl (.refl _ rfl)
  · rename_i s type slot
    rcases adds_stopAck config answer d s with quiet | ⟨latched, held, adds⟩
    · exact .inl quiet
    · exact .inr ⟨s, latched, held, adds⟩
  · unfold submitError
    split
    · exact .inl ((Adds.refl _ rfl).note _ rfl)
    · exact .inl (.refl _ rfl)
  · split
    · exact .inl (.refl _ rfl)
    · exact .inl ((Adds.refl _ rfl).note _ rfl)
  · exact .inl (.refl _ rfl)

theorem adds_cancel (d : Desk n) (answer : SchedulerAnswer) (cancelled : UInt32) :
    Adds Effect.quiet d (cancel d answer cancelled) := by
  unfold cancel
  split
  · exact .refl _ rfl
  · split
    · exact .refl _ rfl
    · rename_i s found
      have pushed := adds_pushRequest d answer (makeStopRequest cancelled s)
      simp only
      split
      · exact pushed.note _ rfl
      · exact pushed

/-- An output adds one token for the task its slot is running, nothing on a slot
that awaits an ack, and a failed assertion otherwise. -/
theorem adds_output (config : BlazeConfig) (d : Desk n) (output : OutputMessage n)
    (accepts rejects : UInt32) :
    match d.slotManager output.slotId with
    | .running task => ∃ token : SharedToken, token.taskId = task ∧
        (Desk.output config d output accepts rejects).log = d.log ++ [.token token]
    | .stopping .. | .evicting .. =>
        (Desk.output config d output accepts rejects).log = d.log
    | .free | .idle => (Desk.output config d output accepts rejects).log =
        d.log ++ [.assertion .outputNotRunning] := by
  unfold Desk.output Desk.phase
  cases d.slotManager output.slotId with
  | running task =>
    simp only
    split
    · exact ⟨_, rfl, rfl⟩
    · split
      · exact ⟨_, rfl, rfl⟩
      · exact ⟨_, rfl, rfl⟩
  | free | idle | stopping | evicting => rfl

/-! ## What the handlers leave pending -/

@[simp] theorem closeLatched_pending (d : Desk n) (latched : Option Sequence) :
    (closeLatched d latched).pendingRequests = d.pendingRequests := by
  cases latched <;> rfl

theorem evictPendingTask_pending (config : BlazeConfig) (d : Desk n) (s : Fin n) :
    (d.evictPendingTask config s).pendingRequests.pendingMemoryTask =
        d.pendingRequests.pendingMemoryTask ∧
      (d.evictPendingTask config s).pendingRequests.pendingCancelTaskId =
        d.pendingRequests.pendingCancelTaskId := by
  unfold Runner.evictPendingTask
  repeat' split
  all_goals exact ⟨rfl, rfl⟩

theorem pendingCancel_evictHeld (d : Desk n) (request : ManageMemoryTask n)
    (owner : Option UInt32) :
    (evictHeld config d answer request s owner).pendingRequests.pendingCancelTaskId =
      d.pendingRequests.pendingCancelTaskId := by
  unfold evictHeld
  simp only
  split
  · have dropped := (evictPendingTask_pending config
      (d.pushRequest answer (makeEvictRequest request.taskId s) none) s).2
    cases owner <;> exact dropped
  · rfl

theorem pendingCancel_evict (d : Desk n) (request : ManageMemoryTask n) :
    (evict config d answer request s).pendingRequests.pendingCancelTaskId =
      d.pendingRequests.pendingCancelTaskId := by
  unfold evict
  split
  · exact pendingCancel_evictHeld d request _
  · exact pendingCancel_evictHeld d request _
  · simp [setPhase]
  · rfl
  · rfl

theorem pendingCancel_memory (d : Desk n) (request : ManageMemoryTask n) :
    (memory config d answer request).pendingRequests.pendingCancelTaskId =
      d.pendingRequests.pendingCancelTaskId := by
  unfold memory
  split
  · unfold Runner.handleAllocateRequest
    simp only
    split <;> rfl
  · exact pendingCancel_evict d request
  · rfl
  · rfl

theorem pendingCancel_task (d : Desk n) (given : Sequence) :
    (Desk.task config d answer given s).pendingRequests.pendingCancelTaskId =
      d.pendingRequests.pendingCancelTaskId := by
  unfold Desk.task
  split
  · simp only
    split <;> rfl
  · rfl
  · rfl
  · rfl
  · rfl

theorem pendingCancel_response (d : Desk n) (response : SchedulerResponse n) :
    (Desk.response config d answer response).pendingRequests.pendingCancelTaskId =
      d.pendingRequests.pendingCancelTaskId := by
  unfold Desk.response
  split
  · unfold allocateAck
    split <;> rfl
  · unfold evictAck
    split <;> rfl
  · unfold stopAck
    split
    · rw [pendingCancel_evict]
      simp [setPhase]
    · exact pendingCancel_task _ _
    · rfl
    · rfl
  · unfold submitError
    split <;> rfl
  · split <;> rfl
  · rfl

theorem pendingCancel_output (d : Desk n) (output : OutputMessage n) (accepts rejects : UInt32) :
    (Desk.output config d output accepts rejects).pendingRequests.pendingCancelTaskId =
      d.pendingRequests.pendingCancelTaskId := by
  unfold Desk.output
  split
  · split
    · rfl
    · split <;> rfl
  all_goals rfl

/-- A cancel is deferred when its STOP is refused, and only itself. -/
theorem pendingCancel_cancel (d : Desk n) (cancelled : UInt32) :
    (cancel d answer cancelled).pendingRequests.pendingCancelTaskId =
        d.pendingRequests.pendingCancelTaskId ∨
      (cancel d answer cancelled).pendingRequests.pendingCancelTaskId = some cancelled := by
  unfold cancel
  split
  · exact .inl rfl
  · split
    · exact .inl rfl
    · simp only
      split
      · exact .inl rfl
      · exact .inr rfl

end Desk

end InferenceServer.Blaze
