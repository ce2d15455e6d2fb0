import InferenceServer.Machine.Tally
import InferenceServer.Blaze.SlotManager

/-! What a slot is doing, as one value. A slot context spreads this over a state
and four optional fields, and the slot manager repeats it in a map and a count;
here only the combinations a runner means can be built. `Shows` says that a slot
manager stores given phases, and every operation keeps it. -/
namespace InferenceServer.Blaze

open Machine

/-- A stopping slot latches at most one eviction and one task; an evicting slot
still carries the id of the task it was running. -/
inductive Phase
  | free
  | idle
  | running (task : UInt32)
  | stopping (task : UInt32) (evict : Option UInt32) (latched : Option Sequence)
  | evicting (ack : UInt32) (owner : Option UInt32)
  deriving DecidableEq

namespace Phase

def state : Phase → SlotState
  | .free => .free
  | .idle => .idle
  | .running _ => .running
  | .stopping .. => .awaitingStopAck
  | .evicting .. => .awaitingEvictAck

def taskId : Phase → Option UInt32
  | .free | .idle => none
  | .running task | .stopping task .. => some task
  | .evicting _ owner => owner

def ackId : Phase → Option UInt32
  | .free | .idle | .running _ => none
  | .stopping task .. => some task
  | .evicting ackId _ => some ackId

def deferredEvict : Phase → Option UInt32
  | .stopping _ evict _ => evict
  | _ => none

def deferredContinue : Phase → Option Sequence
  | .stopping _ _ latched => latched
  | _ => none

/-- A slot context in a phase: its control fields are the phase's own. -/
structure Describes (phase : Phase) (slotId : Fin n) (slot : SlotContext n) : Prop where
  state : slot.state = phase.state
  taskId : slot.taskId = phase.taskId
  ack : slot.pendingAckRequestId = phase.ackId
  evict : slot.deferredEvict = phase.deferredEvict.map (makeEvictRequest · slotId)
  latched : slot.deferredContinue = phase.deferredContinue

/-- One for a running slot. -/
def runningShare (phase : Phase) : Nat := if phase.state = .running then 1 else 0

theorem state_running_iff {phase : Phase} :
    phase.state = .running ↔ ∃ task, phase = .running task := by
  cases phase <;> simp [state]

end Phase

/-- The phase a slot context is in, read off its control fields. -/
def SlotContext.phase (slot : SlotContext n) : Phase :=
  match slot.state with
  | .free => .free
  | .idle => .idle
  | .running => .running (slot.taskId.getD 0)
  | .awaitingStopAck => .stopping (slot.taskId.getD 0)
      (slot.deferredEvict.map ISRequest.requestId) slot.deferredContinue
  | .awaitingEvictAck => .evicting (slot.pendingAckRequestId.getD 0) slot.taskId

theorem Phase.Describes.phase_eq {phase : Phase} {slotId : Fin n} {slot : SlotContext n}
    (described : phase.Describes slotId slot) : slot.phase = phase := by
  obtain ⟨state, taskId, ack, evict, latched⟩ := described
  cases phase <;> simp only [Phase.state, Phase.taskId, Phase.ackId, Phase.deferredEvict,
    Phase.deferredContinue] at state taskId ack evict latched <;>
    simp [SlotContext.phase, state, taskId, ack, evict, latched, makeEvictRequest,
      Function.comp_def]

namespace SlotManager

/-- The manager stores these phases: contexts, the map of running tasks and the
count of running slots all agree with them. -/
structure Shows (m : SlotManager n) (phases : Fin n → Phase) : Prop where
  slots : ∀ s, (phases s).Describes s (m.slots s)
  tasks : ∀ task s, m.taskToSlot task = some s ↔ phases s = .running task
  running : m.runningCount = ∑ s, (phases s).runningShare

theorem initial_shows (n : Nat) : (initial n).Shows fun _ => .free where
  slots := fun s => ⟨rfl, rfl, rfl, rfl, rfl⟩
  tasks := by simp [initial]
  running := by simp [initial, Phase.runningShare, Phase.state]

variable {m : SlotManager n} {phases : Fin n → Phase} {s : Fin n}

section

variable (shows : m.Shows phases)
include shows

theorem Shows.phase_eq : (fun s => (m.slots s).phase) = phases :=
  funext fun s => (shows.slots s).phase_eq

/-- A task runs on one slot at most. -/
theorem Shows.running_unique (first : phases s = .running task) (second : phases s' = .running task)
    : s = s' := by
  have left := (shows.tasks task s).mpr first
  have right := (shows.tasks task s').mpr second
  exact Option.some.inj (left.symm.trans right)

/-- A task that runs nowhere is not in the map. -/
theorem Shows.not_bound (unbound : ∀ s, phases s ≠ .running task) : m.taskToSlot task = none := by
  cases bound : m.taskToSlot task with
  | none => rfl
  | some s => exact absurd ((shows.tasks task s).mp bound) (unbound s)

/-- Replacing one slot's context by one of a new phase, with the map and the
count adjusted to it. -/
theorem Shows.replace {phase : Phase} {slot : SlotContext n} {tasks : UInt32 → Option (Fin n)}
    {running : Nat} (described : phase.Describes s slot)
    (mapped : ∀ task s', tasks task = some s' ↔ Function.update phases s phase s' = .running task)
    (counted : running + (phases s).runningShare = m.runningCount + phase.runningShare) :
    Shows ⟨Function.update m.slots s slot, tasks, running⟩ (Function.update phases s phase) where
  slots := by
    intro s'
    by_cases same : s' = s
    · subst same
      simpa using described
    · simpa [Function.update_of_ne same] using shows.slots s'
  tasks := mapped
  running := by
    have total := sum_update phases (fun _ => Phase.runningShare) s phase
    have before := shows.running
    simp only at counted ⊢
    omega

/-- A phase change between phases that are not running leaves the map alone. -/
theorem Shows.tasks_kept {phase : Phase} (before : phases s ≠ .running task)
    (after : phase ≠ .running task) (s' : Fin n) :
    m.taskToSlot task = some s' ↔ Function.update phases s phase s' = .running task := by
  rw [shows.tasks]
  by_cases same : s' = s
  · subst same
    simp [before, after]
  · rw [Function.update_of_ne same]

/-- The running share of a slot is counted in the manager. -/
theorem Shows.share_le (s : Fin n) : (phases s).runningShare ≤ m.runningCount := by
  have total := share_add_rest phases Phase.runningShare s
  have counted := shows.running
  omega

/-- `setSlotState` counts running slots correctly on a slot with the phase's state. -/
theorem Shows.countAfter_eq (phase : Phase) (s : Fin n) :
    m.countAfter (m.slots s).state phase.state + (phases s).runningShare =
      m.runningCount + phase.runningShare := by
  have positive := shows.share_le s
  have state := (shows.slots s).state
  rw [state]
  unfold countAfter
  simp only [Phase.runningShare] at positive ⊢
  split_ifs at positive ⊢ <;> omega

/-- Erasing a task that runs nowhere else leaves the map right when its slot
stops running it. -/
theorem Shows.tasks_erased {phase : Phase} (owner : Option UInt32)
    (notRunning : phase.state ≠ .running)
    (erased : ∀ task, phases s = .running task → owner = some task)
    (gone : ∀ task, owner = some task → ∀ s', s' ≠ s → phases s' ≠ .running task) (task : UInt32)
    (s' : Fin n) : (m.eraseTask owner).taskToSlot task = some s' ↔
      Function.update phases s phase s' = .running task := by
  have after : phase ≠ .running task := fun same => notRunning (by rw [same]; rfl)
  by_cases same : s' = s
  · subst same
    simp only [Function.update_self, after, iff_false]
    intro bound
    cases owner with
    | none => simpa using erased task ((shows.tasks task s').mp bound)
    | some other =>
      simp only [eraseTask, Function.update_apply] at bound
      split at bound
      · contradiction
      · rename_i differs
        have := erased task ((shows.tasks task s').mp bound)
        simp_all
  · rw [Function.update_of_ne same, ← shows.tasks]
    cases owner with
    | none => rfl
    | some other =>
      simp only [eraseTask, Function.update_apply]
      split
      · rename_i equal
        subst equal
        have elsewhere := gone task rfl s' same
        rw [ne_eq, ← shows.tasks] at elsewhere
        simp [elsewhere]
      · rfl

/-- Changing the fields a phase does not speak of. -/
theorem Shows.modify_control {change : SlotContext n → SlotContext n}
    (kept : (phases s).Describes s (change (m.slots s))) : (m.modify s change).Shows phases := by
  have replaced : (m.modify s change).Shows (Function.update phases s (phases s)) :=
    shows.replace kept (by simpa only [Function.update_eq_self] using shows.tasks) rfl
  rwa [Function.update_eq_self] at replaced

/-- A change of slot that neither starts nor ends a run. -/
theorem Shows.modify_phase {phase : Phase} {change : SlotContext n → SlotContext n}
    (before : (phases s).state ≠ .running) (after : phase.state ≠ .running)
    (described : phase.Describes s (change (m.slots s))) :
    (m.modify s change).Shows (Function.update phases s phase) := by
  refine shows.replace described (fun task s' => shows.tasks_kept ?_ ?_ s') ?_
  · exact fun running => before (by rw [running]; rfl)
  · exact fun running => after (by rw [running]; rfl)
  · simp [Phase.runningShare, before, after]

/-- An IDLE slot starts to run a task that is bound nowhere. -/
theorem Shows.start (idle : phases s = .idle) (unbound : ∀ s', phases s' ≠ .running task)
    (slot : SlotContext n)
    (described : (Phase.running task).Describes s { slot with state := .running })
    (state : slot.state = .idle) :
    ∃ m', setSlotState ⟨Function.update m.slots s slot,
        Function.update m.taskToSlot task (some s), m.runningCount⟩ s .running = .ok m' ∧
      m'.Shows (Function.update phases s (.running task)) := by
  refine ⟨_, setSlotState_ok _ _ _ (by simp [state, SlotState.legal]), ?_⟩
  simp only [Function.update_self, Function.update_idem]
  refine shows.replace described ?_ ?_
  · intro other s'
    simp only [Function.update_apply]
    by_cases sameTask : other = task <;> by_cases sameSlot : s' = s
    · simp [sameTask, sameSlot]
    · simp [sameTask, sameSlot, unbound s', Ne.symm sameSlot]
    · subst sameSlot
      have before := shows.tasks other s'
      simp_all [Ne.symm sameTask]
    · simp [sameTask, sameSlot, shows.tasks]
  · simp [countAfter, state, idle, Phase.runningShare, Phase.state]

/-- A running slot ends its run. -/
theorem Shows.finish (running : phases s = .running task) :
    ∃ m', m.setSlotAsIdle s = .ok m' ∧ m'.Shows (Function.update phases s .idle) := by
  obtain ⟨state, taskId, ack, evict, latched⟩ := shows.slots s
  rw [running] at state taskId ack evict latched
  refine ⟨_, setSlotAsIdle_ok (.inr (by rw [state]; rfl)), ?_⟩
  refine shows.replace ⟨rfl, rfl, rfl, evict, latched⟩ ?_ (shows.countAfter_eq .idle s)
  rw [taskId]
  refine shows.tasks_erased _ (by simp [Phase.state]) ?_ ?_
  · intro other bound
    rw [running] at bound
    simpa [Phase.taskId] using bound
  · intro other owner s' differs bound
    have same : task = other := by simpa [Phase.taskId] using owner
    exact differs (shows.running_unique bound (same ▸ running))

/-- A stopping slot becomes IDLE and is shown so once its latched requests are
taken off it. -/
theorem Shows.release (stopping : phases s = .stopping task evict latched)
    (gone : ∀ s', phases s' ≠ .running task) :
    ∃ m', m.setSlotAsIdle s = .ok m' ∧ m'.slots s = idleContext (m.slots s) ∧
      ∀ change, Phase.idle.Describes s (change (idleContext (m.slots s))) →
        (m'.modify s change).Shows (Function.update phases s .idle) := by
  obtain ⟨state, taskId, -, -, -⟩ := shows.slots s
  rw [stopping] at state taskId
  refine ⟨_, setSlotAsIdle_ok (.inr (by rw [state]; rfl)), by simp, fun change described => ?_⟩
  simp only [modify, Function.update_self, Function.update_idem, taskId]
  refine shows.replace described ?_ (shows.countAfter_eq .idle s)
  refine shows.tasks_erased _ (by simp [Phase.state]) ?_ ?_
  · simp [stopping]
  · intro other owner s' _
    exact Option.some.inj owner ▸ gone s'

/-- An evicted slot is FREE again. -/
theorem Shows.clear (evicting : phases s = .evicting ackId owner)
    (gone : ∀ task, owner = some task → ∀ s', phases s' ≠ .running task) :
    ∃ m', m.clearSlotContext s = .ok m' ∧ m'.Shows (Function.update phases s .free) := by
  obtain ⟨state, taskId, -, -, -⟩ := shows.slots s
  rw [evicting] at state taskId
  refine ⟨_, clearSlotContext_ok (.inr (by rw [state]; rfl)), ?_⟩
  refine shows.replace ⟨rfl, rfl, rfl, rfl, rfl⟩ ?_ (shows.countAfter_eq .free s)
  rw [taskId]
  refine shows.tasks_erased _ (by simp [Phase.state]) (by simp [evicting]) ?_
  exact fun task owned s' _ => gone task owned s'

/-- A transition between states other than RUNNING. -/
theorem Shows.transition (phase : Phase) (slot : SlotContext n)
    (before : (phases s).state ≠ .running) (after : phase.state ≠ .running)
    (state : slot.state = (phases s).state) (permitted : (phases s).state.legal phase.state)
    (described : phase.Describes s { slot with state := phase.state }) :
    ∃ m', setSlotState ⟨Function.update m.slots s slot, m.taskToSlot, m.runningCount⟩ s
        phase.state = .ok m' ∧ m'.Shows (Function.update phases s phase) := by
  refine ⟨_, setSlotState_ok _ _ _ (.inr (by simpa [state] using permitted)), ?_⟩
  simp only [Function.update_self, Function.update_idem]
  refine shows.replace described (fun task s' => shows.tasks_kept ?_ ?_ s') ?_
  · exact fun running => before (by rw [running]; rfl)
  · exact fun running => after (by rw [running]; rfl)
  · simp [countAfter, state, before, after, Phase.runningShare]

/-- A running slot leaves RUNNING and its task is unbound, in either order. -/
theorem Shows.leave (phase : Phase) (slot : SlotContext n) (running : phases s = .running task)
    (after : phase.state ≠ .running) (described : phase.Describes s slot) :
    Shows ⟨Function.update m.slots s slot, Function.update m.taskToSlot task none,
      m.countAfter (m.slots s).state phase.state⟩ (Function.update phases s phase) := by
  refine shows.replace described ?_ (shows.countAfter_eq phase s)
  refine shows.tasks_erased (some task) after ?_ ?_
  · intro other bound
    rw [running] at bound
    simpa using bound
  · intro other owner s' differs bound
    exact differs (shows.running_unique bound (Option.some.inj owner ▸ running))

end

end SlotManager

end InferenceServer.Blaze
