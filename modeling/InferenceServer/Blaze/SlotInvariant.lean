import Mathlib.Algebra.BigOperators.Group.Finset.Piecewise
import InferenceServer.Blaze.Turns

/-! The slot state machine. In every state a runner can reach, the slot contexts,
the map of running tasks and the running count say the same, no handler asks for
an illegal transition and no task is bound twice or unbound in vain. Only the
freshness of task ids and ALLOCATE acks of FREE slots are assumed. -/
namespace InferenceServer.Blaze.World

open Machine

variable {config : BlazeConfig} {w w' : World n}

/-- The invariant of the slot manager and its slots. -/
structure SlotInvariant (w : World n) : Prop where
  /-- the map holds exactly the tasks of running slots -/
  mapped : ∀ taskId s, w.runner.slotManager.taskToSlot taskId = some s ↔ w.RunningOn s taskId
  pendingAck : ∀ s, (w.runner.slotManager.slots s).pendingAckRequestId.isSome ↔
    w.slotState s = .awaitingStopAck ∨ w.slotState s = .awaitingEvictAck
  deferredEvict : ∀ s, (w.runner.slotManager.slots s).deferredEvict.isSome →
    w.slotState s = .awaitingStopAck
  deferredContinue : ∀ s, (w.runner.slotManager.slots s).deferredContinue.isSome →
    w.slotState s = .awaitingStopAck
  counted : w.runner.slotManager.runningCount =
    (Finset.univ.filter fun s => w.slotState s = .running).card
  /-- no transition was refused: the run loop has not been left -/
  legal : w.crashed = none
  bindings : ∀ effect ∈ w.runner.log,
    effect ≠ .assertion .alreadyBound ∧ effect ≠ .assertion .notBound

/-- Not a failed assertion about bindings. -/
private def bindsWell (effect : Effect n) : Bool :=
  effect ≠ .assertion .alreadyBound ∧ effect ≠ .assertion .notBound

private theorem bindsWell_of_quiet (effect : Effect n) (quiet : effect.quiet) :
    bindsWell effect := by
  cases effect with
  | assertion failed => cases failed <;> simp_all [Effect.quiet, bindsWell]
  | token | push | allocateReply | evictedRunning => rfl

private theorem bindsWell_of_quietFor (taskId : UInt32) (effect : Effect n)
    (quiet : effect.quietFor taskId) : bindsWell effect := by
  cases effect with
  | push => rfl
  | assertion => exact bindsWell_of_quiet _ quiet
  | token | allocateReply | evictedRunning => rfl

/-- No turn fails an assertion about bindings. -/
theorem Turn.binds_well {label : Label n} (turn : Turn config w label w') :
    Desk.Adds bindsWell w.desk w'.desk :=
  turn.adds bindsWell_of_quiet (fun _ task _ => bindsWell_of_quietFor task.taskId)
    (fun task _ => bindsWell_of_quietFor task.taskId) (fun _ => rfl)
    fun _ _ _ _ _ => rfl

/-- A sound state has the slot invariant, up to the log. -/
theorem Sound.slotInvariant (sound : Sound config w)
    (bindings : ∀ effect ∈ w.runner.log, bindsWell effect) : SlotInvariant w where
  mapped := by
    intro taskId s
    rw [sound.stores.tasks]
    obtain ⟨state, task, -, -, -⟩ := sound.stores.slots s
    unfold RunningOn
    rw [state, task]
    cases phase : w.runner.desk.slotManager s <;> simp [Phase.state, Phase.taskId]
  pendingAck := by
    intro s
    obtain ⟨state, -, ack, -, -⟩ := sound.stores.slots s
    unfold slotState
    rw [state, ack]
    cases w.runner.desk.slotManager s <;> simp [Phase.state, Phase.ackId]
  deferredEvict := by
    intro s
    obtain ⟨state, -, -, evict, -⟩ := sound.stores.slots s
    unfold slotState
    rw [state, evict]
    cases w.runner.desk.slotManager s <;> simp [Phase.state, Phase.deferredEvict]
  deferredContinue := by
    intro s
    obtain ⟨state, -, -, -, latched⟩ := sound.stores.slots s
    unfold slotState
    rw [state, latched]
    cases w.runner.desk.slotManager s <;> simp [Phase.state, Phase.deferredContinue]
  counted := by
    rw [sound.stores.running, Finset.card_filter]
    refine Finset.sum_congr rfl fun s _ => ?_
    unfold slotState
    rw [(sound.stores.slots s).state]
    rfl
  legal := sound.alive
  bindings := fun effect member => by simpa [bindsWell] using bindings effect member

/-- The slot state machine of both runners: its invariant holds in every reachable
state, so no handler asks for an illegal transition. -/
theorem slot_invariant_reached
    (reached : Reaches (step config) (fun _ _ => True) (initial n) w) : SlotInvariant w := by
  have clean := reached.invariant
    (fun w => Sound config w ∧ ∀ effect ∈ w.runner.log, bindsWell effect)
    ⟨initial_sound config n, by simp [initial, Runner.initial]⟩
    fun before label after ⟨sound, clean⟩ _ stepped =>
      ⟨sound.step stepped, fun effect member =>
        ((sound.turn stepped).binds_well.mem member).elim (clean effect) id⟩
  exact clean.1.slotInvariant clean.2

/-- A task runs, is cancelled and its STOP is acked. -/
def stopped : List (Label 2) :=
  allocateBoth ++ [.submit { taskId := 1, kvCacheSlot := 0 }] ++ ticks 7 ++ [.cancel 1] ++
    ticks 8 ++ [.respond 0 none] ++ ticks 2

theorem stopped_runs : (runWithin (step decodeConfig) (fun _ _ => True) (initial 2)
    stopped).isSome = true := by decide

theorem slot_invariant_stopped : SlotInvariant ((runWithin (step decodeConfig) (fun _ _ => True)
    (initial 2) stopped).get stopped_runs) :=
  slot_invariant_reached (reaches_get stopped_runs)

/-- The acks that the scheduler owes a slot are the one that the slot waits for. -/
theorem acks_awaited (reached : Reaches (step config) allowed (initial n) w) (s : Fin n) :
    w.runner.scheduler.acks s =
      match w.slotState s with
      | .awaitingStopAck => (w.runner.slotManager.slots s).pendingAckRequestId.toList.map (.stop, ·)
      | .awaitingEvictAck =>
        (w.runner.slotManager.slots s).pendingAckRequestId.toList.map (.evict, ·)
      | _ => [] := by
  have sound := reached_sound reached
  obtain ⟨state, -, ack, -, -⟩ := sound.stores.slots s
  refine (sound.coupled s).trans ?_
  unfold slotState
  rw [state, ack]
  show (w.runner.desk.slotManager s).awaits.toList = _
  cases w.runner.desk.slotManager s <;> rfl

theorem acks_awaited_stopped : ((runWithin (step decodeConfig) (fun _ _ => True) (initial 2)
    stopped).get stopped_runs).runner.scheduler.acks 0 = [] :=
  (acks_awaited (reaches_get stopped_runs) 0).trans (by decide)

end InferenceServer.Blaze.World
