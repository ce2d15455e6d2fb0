import InferenceServer.Tts.TtsViews

/-! Every task that was popped is in one place until it has its one terminal message, and every
slot is in the state that its requests and its teardown say. -/
namespace InferenceServer.Tts

/-- Where a task is. -/
inductive Place
  | unseen
  | encoding
  | allocating
  | slot (slotId : Nat)
  | finished
  deriving DecidableEq

/-- The slot runs the task, or waits for the scheduler to stop it. -/
def SlotContext.Runs (context : SlotContext) (taskId : Nat) : Prop :=
  (context.state = .running ∨ context.state = .awaitingStopAck) ∧ context.taskId = taskId

/-- The slot is given up. -/
def SlotContext.Ending (context : SlotContext) : Prop :=
  context.state = .awaitingTerminalDelivery ∨ context.state = .awaitingEvictAck

/-- What the place of a task says about it. -/
def TaskFits (view : TaskView) (taskId : Nat) : Place → Prop
  | .unseen => view.popped = 0 ∧ view.voice = none ∧ view.allocation = none ∧
      view.conditioning = false ∧ view.terminals = 0
  | .encoding => view.popped = 1 ∧ (∃ task, view.voice = some task ∧ task.taskId = taskId) ∧
      view.allocation = none ∧ view.terminals = 0 ∧ 0 < view.encodes
  | .allocating => view.popped = 1 ∧ view.voice = none ∧
      (∃ task, view.allocation = some task ∧ task.taskId = taskId) ∧ view.terminals = 0 ∧
      0 < view.allocates
  | .slot _ => view.popped = 1 ∧ view.voice = none ∧ view.allocation = none ∧ view.terminals = 0
  | .finished => view.popped = 1 ∧ view.voice = none ∧ view.allocation = none ∧
      view.conditioning = false ∧ view.terminals = 1

/-- What the state of a slot of the runner says about it. -/
def StateFits (slotId : Nat) (view : SlotView) : Prop :=
  match view.context.state with
  | .free => view.stops = [] ∧ view.teardowns = 0 ∧ view.run = none
  | .running => view.granted = true ∧ view.stops = [] ∧ view.evicts = [] ∧ view.teardowns = 0 ∧
      view.run = some ⟨view.context.taskId, view.context.completionPending,
        view.context.audioLastReceived⟩ ∧
      ¬ (view.context.completionPending = true ∧ view.context.audioLastReceived = true)
  | .awaitingStopAck => view.granted = true ∧
      view.stops = [⟨.stop, view.context.taskId, view.context.taskId, slotId⟩] ∧
      view.evicts = [] ∧ view.teardowns = 0
  | .awaitingTerminalDelivery => view.granted = true ∧ view.stops = [] ∧ view.evicts = [] ∧
      view.teardowns = 1
  | .awaitingEvictAck => view.granted = true ∧ view.stops = [] ∧ view.evicts.length = 1 ∧
      view.teardowns = 0

structure SlotFits (has : Prop) (slotId : Nat) (view : SlotView) : Prop where
  evicts : view.evicts.length ≤ 1
  granted : view.evicts ≠ [] → view.granted = true
  inside : has → StateFits slotId view
  outside : ¬ has → view.context = {} ∧ view.stops = [] ∧ view.teardowns = 0 ∧ view.run = none

namespace TtsRunner

/-- The tasks of the queue are new and distinct. -/
structure Queued (runner : TtsRunner) : Prop where
  new : ∀ task ∈ runner.taskQueue, task.done = false →
    task.taskId ∈ runner.queued ∧ task.taskId ∉ runner.popped
  distinct : ((runner.taskQueue.filter (·.done = false)).map Task.taskId).Nodup
  known : ∀ taskId ∈ runner.popped, taskId ∈ runner.queued

structure Sound (place : Nat → Place) (runner : TtsRunner) : Prop where
  tasks : ∀ taskId, TaskFits (runner.taskView taskId) taskId (place taskId)
  slots : ∀ slotId, SlotFits (runner.HasSlot slotId) slotId (runner.slotView slotId)
  linked : ∀ slotId taskId, place taskId = .slot slotId ↔
    runner.HasSlot slotId ∧ (runner.slots slotId).Runs taskId
  ended : ∀ slotId, runner.HasSlot slotId → (runner.slots slotId).Ending →
    place (runner.slots slotId).taskId = .finished
  runs : ∀ slotId run, runner.runs slotId = some run →
    place run.taskId = .slot slotId ∨ place run.taskId = .finished
  single : ∀ slotId other run run', runner.runs slotId = some run →
    runner.runs other = some run' → run.taskId = run'.taskId → slotId = other

variable {runner next : TtsRunner} {place : Nat → Place} {taskId slotId : Nat} {target : Place}

theorem hasSlot_iff (config : next.config = runner.config) (slotId : Nat) :
    next.HasSlot slotId ↔ runner.HasSlot slotId := by
  unfold HasSlot slotCount
  rw [config]

theorem context_of_view {other : Nat} (same : next.slotView other = runner.slotView other) :
    next.slots other = runner.slots other := congrArg SlotView.context same

theorem run_of_view {other : Nat} (same : next.slotView other = runner.slotView other) :
    next.runs other = runner.runs other := congrArg SlotView.run same

/-- A task that has ended is not moved to another place. -/
theorem finished_update {other : Nat} (stays : place taskId = .finished → target = .finished)
    (finished : place other = .finished) :
    Function.update place taskId target other = .finished := by
  by_cases same : other = taskId
  · subst same
    rw [Function.update_self]
    exact stays finished
  · rw [Function.update_of_ne same]
    exact finished

section

variable (sound : runner.Sound place)
include sound

/-- A task and a slot change, and the slot runs no other task before or after. -/
theorem Sound.moved (config : next.config = runner.config)
    (tasks : ∀ other, other ≠ taskId → next.taskView other = runner.taskView other)
    (slots : ∀ other, other ≠ slotId → next.slotView other = runner.slotView other)
    (task : TaskFits (next.taskView taskId) taskId target)
    (slot : SlotFits (runner.HasSlot slotId) slotId (next.slotView slotId))
    (source : ∀ other, place taskId = .slot other → other = slotId)
    (before : ∀ other, runner.HasSlot slotId → (runner.slots slotId).Runs other → other = taskId)
    (after : ∀ other, runner.HasSlot slotId → (next.slots slotId).Runs other → other = taskId)
    (link : ∀ other, target = .slot other ↔ other = slotId ∧ runner.HasSlot slotId ∧
      (next.slots slotId).Runs taskId) (ended : runner.HasSlot slotId → (next.slots slotId).Ending →
      Function.update place taskId target (next.slots slotId).taskId = .finished)
    (stays : place taskId = .finished → target = .finished)
    (kept : ∀ run, next.runs slotId = some run → run.taskId = taskId →
      target = .slot slotId ∨ target = .finished) (runs : ∀ run, next.runs slotId = some run →
      (∃ old, runner.runs slotId = some old ∧ old.taskId = run.taskId) ∨
      run.taskId = taskId ∧ place taskId ≠ .finished ∧ ∀ other, place taskId ≠ .slot other) :
    next.Sound (Function.update place taskId target) := by
  have elsewhere : ∀ other run, other ≠ slotId → next.runs other = some run →
      runner.runs other = some run := by
    intro other run apart found
    rwa [run_of_view (slots other apart)] at found
  refine ⟨fun other => ?_, fun other => ?_, fun other who => ?_, fun other has ending => ?_,
    fun other run found => ?_, ?_⟩
  · by_cases same : other = taskId
    · rw [same, Function.update_self]
      exact task
    · rw [Function.update_of_ne same, tasks other same]
      exact sound.tasks other
  · rw [hasSlot_iff config]
    by_cases same : other = slotId
    · rw [same]
      exact slot
    · rw [slots other same]
      exact sound.slots other
  · rw [hasSlot_iff config]
    by_cases mine : who = taskId
    · subst mine
      rw [Function.update_self, link]
      constructor
      · rintro ⟨rfl, has, now⟩
        exact ⟨has, now⟩
      · rintro ⟨has, now⟩
        by_cases same : other = slotId
        · subst same
          exact ⟨rfl, has, now⟩
        · rw [context_of_view (slots other same)] at now
          exact absurd (source other ((sound.linked other who).mpr ⟨has, now⟩)) same
    · rw [Function.update_of_ne mine, sound.linked]
      by_cases same : other = slotId
      · subst same
        constructor
        · rintro ⟨has, then_⟩
          exact absurd (before who has then_) mine
        · rintro ⟨has, now⟩
          exact absurd (after who has now) mine
      · rw [context_of_view (slots other same)]
  · by_cases same : other = slotId
    · subst same
      exact ended ((hasSlot_iff config _).mp has) ending
    · rw [context_of_view (slots other same)] at ending ⊢
      exact finished_update stays (sound.ended other ((hasSlot_iff config _).mp has) ending)
  · by_cases mine : run.taskId = taskId
    · rw [mine, Function.update_self]
      by_cases same : other = slotId
      · subst same
        exact kept run found mine
      · have old := elsewhere other run same found
        rcases sound.runs other run old with there | finished
        · rw [mine] at there
          exact absurd (source other there) same
        · rw [mine] at finished
          exact .inr (stays finished)
    · rw [Function.update_of_ne mine]
      by_cases same : other = slotId
      · subst same
        rcases runs run found with ⟨old, there, names⟩ | ⟨mine', _⟩
        · rw [← names]
          exact sound.runs other old there
        · exact absurd mine' mine
      · exact sound.runs other run (elsewhere other run same found)
  · have one : ∀ other run run', other ≠ slotId → next.runs slotId = some run →
        next.runs other = some run' → run.taskId ≠ run'.taskId := by
      intro other run run' apart here there names
      have there := elsewhere other run' apart there
      rcases runs run here with ⟨old, found, same⟩ | ⟨mine, unfinished, nowhere⟩
      · exact apart (sound.single _ _ _ _ there found (names.symm.trans same.symm))
      · rcases sound.runs other run' there with placed | finished
        · exact nowhere other (by rw [← mine, names]; exact placed)
        · exact unfinished (by rw [← mine, names]; exact finished)
    intro first second run run' left right names
    by_cases here : first = slotId
    · by_cases there : second = slotId
      · rw [here, there]
      · exact absurd names (one second run run' there (here ▸ left) right)
    · by_cases there : second = slotId
      · exact absurd names.symm (one first run' run here (there ▸ right) left)
      · exact sound.single _ _ _ _ (elsewhere _ _ here left) (elsewhere _ _ there right) names

/-- A task changes that runs in no slot. -/
theorem Sound.movedTask (config : next.config = runner.config)
    (tasks : ∀ other, other ≠ taskId → next.taskView other = runner.taskView other)
    (slots : ∀ other, next.slotView other = runner.slotView other)
    (task : TaskFits (next.taskView taskId) taskId target)
    (source : ∀ other, place taskId ≠ .slot other) (goal : ∀ other, target ≠ .slot other)
    (stays : place taskId = .finished → target = .finished) :
    next.Sound (Function.update place taskId target) := by
  refine ⟨fun other => ?_, fun other => ?_, fun other who => ?_, fun other has ending => ?_,
    fun other run found => ?_, fun first second run run' left right => ?_⟩
  · by_cases same : other = taskId
    · rw [same, Function.update_self]
      exact task
    · rw [Function.update_of_ne same, tasks other same]
      exact sound.tasks other
  · rw [hasSlot_iff config, slots other]
    exact sound.slots other
  · rw [hasSlot_iff config, context_of_view (slots other), ← sound.linked]
    by_cases mine : who = taskId
    · rw [mine, Function.update_self]
      exact ⟨fun there => absurd there (goal other), fun there => absurd there (source other)⟩
    · rw [Function.update_of_ne mine]
  · rw [context_of_view (slots other)] at ending ⊢
    exact finished_update stays (sound.ended other ((hasSlot_iff config _).mp has) ending)
  · rw [run_of_view (slots other)] at found
    by_cases mine : run.taskId = taskId
    · rw [mine, Function.update_self]
      rcases sound.runs other run found with there | finished
      · exact absurd (mine ▸ there) (source other)
      · exact .inr (stays (mine ▸ finished))
    · rw [Function.update_of_ne mine]
      exact sound.runs other run found
  · rw [run_of_view (slots first)] at left
    rw [run_of_view (slots second)] at right
    exact sound.single _ _ _ _ left right

/-- A slot changes that runs what it ran. -/
theorem Sound.movedSlot (config : next.config = runner.config)
    (tasks : ∀ other, next.taskView other = runner.taskView other)
    (slots : ∀ other, other ≠ slotId → next.slotView other = runner.slotView other)
    (slot : SlotFits (runner.HasSlot slotId) slotId (next.slotView slotId))
    (link : ∀ other, runner.HasSlot slotId →
      ((next.slots slotId).Runs other ↔ (runner.slots slotId).Runs other))
    (ended : (next.slots slotId).Ending → (runner.slots slotId).Ending ∧
      (next.slots slotId).taskId = (runner.slots slotId).taskId)
    (runs : ∀ run, next.runs slotId = some run →
      ∃ old, runner.runs slotId = some old ∧ old.taskId = run.taskId) : next.Sound place := by
  have earlier : ∀ other run, next.runs other = some run →
      ∃ old, runner.runs other = some old ∧ old.taskId = run.taskId := by
    intro other run found
    by_cases same : other = slotId
    · subst same
      exact runs run found
    · exact ⟨run, run_of_view (slots other same) ▸ found, rfl⟩
  refine ⟨fun other => ?_, fun other => ?_, fun other who => ?_, fun other has ending => ?_,
    fun other run found => ?_, fun first second run run' left right names => ?_⟩
  · rw [tasks other]
    exact sound.tasks other
  · rw [hasSlot_iff config]
    by_cases same : other = slotId
    · rw [same]
      exact slot
    · rw [slots other same]
      exact sound.slots other
  · rw [hasSlot_iff config, sound.linked]
    by_cases same : other = slotId
    · subst same
      exact and_congr_right fun has => (link who has).symm
    · rw [context_of_view (slots other same)]
  · by_cases same : other = slotId
    · subst same
      obtain ⟨before, names⟩ := ended ending
      rw [names]
      exact sound.ended other ((hasSlot_iff config _).mp has) before
    · rw [context_of_view (slots other same)] at ending ⊢
      exact sound.ended other ((hasSlot_iff config _).mp has) ending
  · obtain ⟨old, there, same⟩ := earlier other run found
    rw [← same]
    exact sound.runs other old there
  · obtain ⟨old, there, same⟩ := earlier first run left
    obtain ⟨old', there', same'⟩ := earlier second run' right
    exact sound.single _ _ _ _ there there' (same.trans (names.trans same'.symm))

/-- Nothing of it changes. -/
theorem Sound.same (config : next.config = runner.config)
    (tasks : ∀ other, next.taskView other = runner.taskView other)
    (slots : ∀ other, next.slotView other = runner.slotView other) : next.Sound place :=
  @Sound.movedSlot runner next place 0 sound config tasks (fun other _ => slots other)
    (slots 0 ▸ sound.slots 0) (fun other _ => by rw [context_of_view (slots 0)])
    (fun ending => by rw [context_of_view (slots 0)] at ending ⊢; exact ⟨ending, rfl⟩)
    (fun run found => ⟨run, run_of_view (slots 0) ▸ found, rfl⟩)

end

end TtsRunner
end InferenceServer.Tts
