import InferenceServer.Tts.TtsSound

/-! What every handler keeps. -/
namespace InferenceServer.Tts.TtsRunner

variable {runner mid next : TtsRunner} {place : Nat → Place} {taskId slotId : Nat}
  {answers : Answers} {reason : FinishReason} {error : String}
variable {task : Task} {speechIds : List Nat}

/-- Every task and slot is where it should be. -/
def Consistent (runner : TtsRunner) : Prop := ∃ place, runner.Sound place

/-- A task that was popped and has no terminal message is nowhere; all else is as it was. -/
structure Taken (runner : TtsRunner) (place : Nat → Place) (taskId : Nat) (mid : TtsRunner) :
    Prop where
  sound : runner.Sound place
  config : mid.config = runner.config
  tasks : ∀ other, other ≠ taskId → mid.taskView other = runner.taskView other
  slots : ∀ other, mid.slotView other = runner.slotView other
  popped : (mid.taskView taskId).popped = 1
  voice : (mid.taskView taskId).voice = none
  allocation : (mid.taskView taskId).allocation = none
  terminals : (mid.taskView taskId).terminals = 0
  source : ∀ other, place taskId ≠ .slot other
  live : place taskId ≠ .finished

theorem config_requestEvict : (runner.requestEvict slotId answers).config = runner.config := by
  unfold requestEvict
  repeat' split
  all_goals rfl

theorem config_sendFinish {slot : Option Nat} :
    (runner.sendFinish answers taskId reason error slot).config = runner.config := by
  have finished : (runner.finishing taskId slot).config = runner.config := by
    unfold finishing
    dsimp only
    repeat' split
    all_goals rfl
  unfold sendFinish
  dsimp only
  split
  · unfold handleTerminalDelivered
    split
    · exact config_requestEvict.trans finished
    · exact finished
  · exact finished

/-- A task that ends where it is nowhere has its terminal message. -/
theorem Taken.finish (taken : Taken runner place taskId mid) :
    (mid.sendFinish answers taskId reason error none).Sound
      (Function.update place taskId .finished) := by
  refine taken.sound.movedTask (config_sendFinish.trans taken.config) ?_ ?_ ?_ taken.source nofun
    fun _ => rfl
  · intro other apart
    rw [taskView_sendFinish, if_neg apart]
    exact taken.tasks other apart
  · intro other
    rw [slotView_sendFinish_none]
    exact taken.slots other
  · rw [taskView_sendFinish, if_pos rfl]
    exact ⟨taken.popped, taken.voice, taken.allocation, rfl, by rw [taken.terminals]⟩

theorem Taken.allocate (taken : Taken runner place task.taskId mid) :
    (mid.allocateTask task answers).Consistent := by
  unfold allocateTask
  split
  · exact ⟨_, taken.finish⟩
  · split
    · have sound := taken.sound
      refine ⟨Function.update place task.taskId .allocating, sound.movedTask taken.config ?_ ?_ ?_
        taken.source nofun fun there => absurd there taken.live⟩
      · intro other apart
        rw [← taken.tasks other apart]
        have names : (⟨.allocate, other, other, invalidSlot⟩ : SchedulerRequest) ≠
            ⟨.allocate, task.taskId, task.taskId, invalidSlot⟩ :=
          fun same => apart (congrArg SchedulerRequest.taskId same)
        ext <;> simp [taskView, accept, TtsRunner.terminals, apart, names.symm]
      · intro other
        rw [← taken.slots other]
        ext <;> simp [slotView, accept, requests, teardowns]
      · refine ⟨taken.popped, taken.voice, ⟨task, Function.update_self .., rfl⟩, taken.terminals, ?_⟩
        simp [taskView, accept]
    · exact ⟨_, taken.finish⟩

/-- The timings of the task and the cache are no matter. -/
theorem Taken.congr {later : TtsRunner} (taken : Taken runner place taskId mid)
    (config : later.config = mid.config)
    (tasks : ∀ other, other ≠ taskId → later.taskView other = mid.taskView other)
    (task : later.taskView taskId = { mid.taskView taskId with
      conditioning := (later.taskView taskId).conditioning })
    (slots : ∀ other, later.slotView other = mid.slotView other) :
    Taken runner place taskId later where
  sound := taken.sound
  config := config.trans taken.config
  tasks := fun other apart => (tasks other apart).trans (taken.tasks other apart)
  slots := fun other => (slots other).trans (taken.slots other)
  popped := by
    rw [task]
    exact taken.popped
  voice := by
    rw [task]
    exact taken.voice
  allocation := by
    rw [task]
    exact taken.allocation
  terminals := by
    rw [task]
    exact taken.terminals
  source := taken.source
  live := taken.live

theorem Taken.compile (taken : Taken runner place task.taskId mid) :
    (mid.compileTask task speechIds answers).Consistent := by
  unfold compileTask
  split
  · rename_i promptTokens _
    refine @Taken.allocate runner _ place _ { task with promptTokens }
      (taken.congr rfl ?_ ?_ fun _ => rfl)
    · intro other apart
      ext <;> simp [taskView, TtsRunner.terminals, apart]
    · rfl
  · exact ⟨_, taken.finish⟩

theorem Taken.getVoiceSample {samples : List Int} (taken : Taken runner place taskId mid) :
    Taken runner place taskId (mid.getVoiceSample samples speechIds) :=
  taken.congr rfl (fun _ _ => rfl) rfl fun _ => rfl

theorem Taken.addVoiceSample {samples : List Int} (taken : Taken runner place taskId mid) :
    Taken runner place taskId (mid.addVoiceSample samples speechIds) := by
  unfold TtsRunner.addVoiceSample
  split
  · exact taken
  · split
    · exact taken.getVoiceSample
    · exact taken.congr rfl (fun _ _ => rfl) rfl fun _ => rfl

theorem Taken.handleTask (taken : Taken runner place task.taskId mid) :
    (mid.handleTask task answers).Consistent := by
  unfold TtsRunner.handleTask
  split
  · exact taken.allocate
  · split
    · exact taken.getVoiceSample.compile
    · split
      · have voice : mid.pendingVoiceEncodes task.taskId = none := taken.voice
        refine ⟨Function.update place task.taskId .encoding, taken.sound.movedTask taken.config ?_
          ?_ ?_ taken.source nofun fun there => absurd there taken.live⟩
        · intro other apart
          rw [← taken.tasks other apart]
          rw [voice]
          ext <;> simp [taskView, TtsRunner.terminals, apart, apart.symm]
        · exact taken.slots
        · rw [voice]
          refine ⟨taken.popped, ⟨task, Function.update_self .., rfl⟩, taken.allocation,
            taken.terminals, ?_⟩
          simp [taskView]
      · exact ⟨_, taken.finish⟩

/-- A task that waits for its voice sample. -/
theorem Sound.encoding_of (sound : runner.Sound place)
    (waits : runner.pendingVoiceEncodes taskId = some task) :
    place taskId = .encoding ∧ task.taskId = taskId ∧ runner.pendingAllocations taskId = none := by
  have fits := sound.tasks taskId
  have voice : (runner.taskView taskId).voice = some task := waits
  cases here : place taskId with
  | encoding =>
    rw [here] at fits
    obtain ⟨_, ⟨other, found, names⟩, allocation, _⟩ := fits
    cases voice.symm.trans found
    exact ⟨rfl, names, allocation⟩
  | unseen | allocating | slot | finished =>
    rw [here] at fits
    exact absurd (voice.symm.trans fits.2.1) nofun

/-- A task that waits for a slot. -/
theorem Sound.allocating_of (sound : runner.Sound place)
    (waits : runner.pendingAllocations taskId = some task) :
    place taskId = .allocating ∧ task.taskId = taskId := by
  have fits := sound.tasks taskId
  have allocation : (runner.taskView taskId).allocation = some task := waits
  cases here : place taskId with
  | allocating =>
    rw [here] at fits
    obtain ⟨_, _, ⟨other, found, names⟩, _⟩ := fits
    cases allocation.symm.trans found
    exact ⟨rfl, names⟩
  | unseen | encoding | slot | finished =>
    rw [here] at fits
    exact absurd (allocation.symm.trans fits.2.2.1) nofun

theorem taskView_voice {task : Option Task} {other : Nat} (apart : other ≠ taskId) :
    { runner with
      pendingVoiceEncodes := Function.update runner.pendingVoiceEncodes taskId task
    }.taskView other = runner.taskView other := by
  ext <;> simp [taskView, TtsRunner.terminals, apart]

theorem taskView_allocation {task : Option Task} {other : Nat} (apart : other ≠ taskId) :
    { runner with
      pendingAllocations := Function.update runner.pendingAllocations taskId task
    }.taskView other = runner.taskView other := by
  ext <;> simp [taskView, TtsRunner.terminals, apart]

section

variable (sound : runner.Sound place)
include sound

/-- A task that waits for its voice sample is taken out. -/
theorem Sound.takeVoice (waits : runner.pendingVoiceEncodes taskId = some task) :
    Taken runner place taskId { runner with
      pendingVoiceEncodes := Function.update runner.pendingVoiceEncodes taskId none } := by
  obtain ⟨here, _, allocation⟩ := sound.encoding_of waits
  have fits := sound.tasks taskId
  rw [here] at fits
  exact {
    sound := sound
    config := rfl
    tasks := fun _ apart => taskView_voice apart
    slots := fun _ => rfl
    popped := fits.1
    voice := Function.update_self ..
    allocation := allocation
    terminals := fits.2.2.2.1
    source := by rw [here]; nofun
    live := by rw [here]; nofun }

/-- A task that waits for a slot is taken out. -/
theorem Sound.takeAllocation (waits : runner.pendingAllocations taskId = some task) :
    Taken runner place taskId { runner with
      pendingAllocations := Function.update runner.pendingAllocations taskId none } := by
  obtain ⟨here, _⟩ := sound.allocating_of waits
  have fits := sound.tasks taskId
  rw [here] at fits
  exact {
    sound := sound
    config := rfl
    tasks := fun _ apart => taskView_allocation apart
    slots := fun _ => rfl
    popped := fits.1
    voice := fits.2.1
    allocation := Function.update_self ..
    terminals := fits.2.2.2.1
    source := by rw [here]; nofun
    live := by rw [here]; nofun }

theorem Sound.handleVoiceEncodeResult {result : VoiceEncodeResult} :
    ({ runner with encoding := runner.encoding.erase result.requestId }.handleVoiceEncodeResult
      result answers).Consistent := by
  have counted : ∀ other, other ≠ result.requestId ∨ runner.pendingVoiceEncodes other = none →
      { runner with encoding := runner.encoding.erase result.requestId }.taskView other =
        runner.taskView other := by
    intro other apart
    ext1
    all_goals try rfl
    change Option.elim _ _ _ = Option.elim _ _ _
    dsimp only
    cases waits : runner.pendingVoiceEncodes other with
    | none => rfl
    | some task => exact List.count_erase_of_ne (apart.resolve_right (by rw [waits]; nofun))
  unfold TtsRunner.handleVoiceEncodeResult
  dsimp only
  split
  · rename_i waits
    refine ⟨place, sound.same rfl (fun other => counted other ?_) fun _ => rfl⟩
    by_cases same : other = result.requestId
    · rw [same]
      exact .inr waits
    · exact .inl same
  · rename_i task waits
    obtain ⟨_, names, _⟩ := sound.encoding_of waits
    have taken := sound.takeVoice waits
    have erased : Taken runner place result.requestId { runner with
        encoding := runner.encoding.erase result.requestId
        pendingVoiceEncodes := Function.update runner.pendingVoiceEncodes result.requestId none
      } := by
      refine taken.congr rfl (fun other apart => ?_) ?_ fun _ => rfl
      · exact (taskView_voice apart).trans ((counted other (.inl apart)).trans
          (taskView_voice apart).symm)
      · ext1
        all_goals try rfl
        simp [taskView]
    rw [← names] at erased ⊢
    split
    · exact erased.addVoiceSample.compile
    · exact ⟨_, erased.finish⟩
    · exact ⟨_, erased.finish⟩

end

theorem sendFinish_voice :
    { runner.sendFinish answers taskId reason error none with
      pendingVoiceEncodes := Function.update (runner.sendFinish answers taskId reason error
        none).pendingVoiceEncodes taskId none } =
    { runner with
      pendingVoiceEncodes := Function.update runner.pendingVoiceEncodes taskId none
    }.sendFinish answers taskId reason error none := by
  unfold sendFinish
  dsimp only
  split <;> rfl

theorem sendFinish_allocation :
    { runner.sendFinish answers taskId reason error none with
      pendingAllocations := Function.update (runner.sendFinish answers taskId reason error
        none).pendingAllocations taskId none } =
    { runner with
      pendingAllocations := Function.update runner.pendingAllocations taskId none
    }.sendFinish answers taskId reason error none := by
  unfold sendFinish
  dsimp only
  split <;> rfl

theorem Sound.requestStop (sound : runner.Sound place) :
    (runner.requestStop slotId answers).Sound place := by
  unfold TtsRunner.requestStop
  split
  · rename_i both
    obtain ⟨has, running⟩ := both
    split
    · have fits := (sound.slots slotId).inside has
      have state : (runner.slotView slotId).context.state = .running := running
      unfold StateFits at fits
      rw [state] at fits
      obtain ⟨granted, stops, evicts, teardowns, _⟩ := fits
      have view := @slotView_accept runner slotId ⟨.stop, (runner.slots slotId).taskId,
        (runner.slots slotId).taskId, slotId⟩
      rw [if_pos ⟨rfl, rfl⟩, if_neg (by rintro ⟨⟨⟩, _⟩), stops, evicts] at view
      refine @Sound.movedSlot runner _ place slotId sound rfl ?_ ?_ ?_ ?_ ?_
        fun run found => ⟨run, found, rfl⟩
      · intro other
        rw [setState, taskView_setSlot, taskView_accept (by rintro ⟨⟩)]
      · intro other apart
        rw [setState, slotView_setSlot_other apart, slotView_accept_other fun _ => apart.symm]
      · rw [setState, slotView_setSlot, view]
        exact ⟨Nat.zero_le 1, fun some => absurd rfl some,
          fun _ => ⟨granted, rfl, rfl, teardowns⟩, fun no => absurd has no⟩
      · intro other _
        simp [setState, setSlot, SlotContext.Runs, running, accept]
      · simp [setState, setSlot, SlotContext.Ending]
    · split
      · exact sound
      · exact sound.same rfl (fun _ => rfl) fun _ => rfl
  · exact sound

theorem Sound.handleControl (sound : runner.Sound place) :
    (runner.handleControl taskId answers).Consistent := by
  unfold TtsRunner.handleControl
  split
  · rename_i waits
    obtain ⟨task, waits⟩ := Option.isSome_iff_exists.mp waits
    dsimp only
    rw [sendFinish_voice]
    exact ⟨_, (sound.takeVoice waits).finish⟩
  · split
    · exact ⟨_, sound.requestStop⟩
    · split
      · rename_i task waits
        obtain ⟨_, names⟩ := sound.allocating_of waits
        dsimp only
        rw [names, sendFinish_allocation]
        exact ⟨_, (sound.takeAllocation waits).finish⟩
      · exact ⟨_, sound⟩

/-- A slot stands by for a task that ends in it; all else is as it was. -/
structure Leaving (runner : TtsRunner) (place : Nat → Place) (taskId slotId : Nat)
    (mid : TtsRunner) : Prop where
  sound : runner.Sound place
  config : mid.config = runner.config
  tasks : ∀ other, other ≠ taskId → mid.taskView other = runner.taskView other
  slots : ∀ other, other ≠ slotId → mid.slotView other = runner.slotView other
  popped : (mid.taskView taskId).popped = 1
  voice : (mid.taskView taskId).voice = none
  allocation : (mid.taskView taskId).allocation = none
  terminals : (mid.taskView taskId).terminals = 0
  has : runner.HasSlot slotId
  granted : (mid.slotView slotId).granted = true
  stops : (mid.slotView slotId).stops = []
  evicts : (mid.slotView slotId).evicts = []
  teardowns : (mid.slotView slotId).teardowns = 0
  runs : ∀ run, (mid.slotView slotId).run = some run →
    ∃ old, runner.runs slotId = some old ∧ old.taskId = run.taskId
  source : ∀ other, place taskId = .slot other → other = slotId
  before : ∀ other, (runner.slots slotId).Runs other → other = taskId
  live : place taskId ≠ .finished
  names : (mid.slots slotId).taskId = taskId

/-- A task that ends in its slot has its terminal message, and the slot is torn down. -/
theorem Leaving.finish (leaving : Leaving runner place taskId slotId mid) :
    (mid.sendFinish answers taskId reason error (some slotId)).Sound
      (Function.update place taskId .finished) := by
  have has := (hasSlot_iff leaving.config slotId).mpr leaving.has
  have view := @slotView_sendFinish mid taskId slotId answers reason error has leaving.teardowns
  have run : (mid.sendFinish answers taskId reason error (some slotId)).runs slotId =
      (mid.slotView slotId).run := by
    rcases view with view | view <;> exact congrArg SlotView.run view
  have stands : ∀ other, ¬ ((mid.sendFinish answers taskId reason error
      (some slotId)).slots slotId).Runs other := by
    intro other runs
    rcases view with view | view
    all_goals
      have context := congrArg SlotView.context view
      change (mid.sendFinish _ _ _ _ _).slots slotId = _ at context
      rw [context] at runs
      rcases runs.1 with running | stopping
      · cases running
      · cases stopping
  refine leaving.sound.moved (config_sendFinish.trans leaving.config) ?_ ?_ ?_ ?_ leaving.source
    (fun other _ => leaving.before other) (fun other _ runs => absurd runs (stands other))
    (fun other => ⟨nofun, fun both => absurd both.2.2 (stands taskId)⟩) (fun _ _ => ?_)
    (fun _ => rfl)
    (fun _ _ _ => .inr rfl) (fun other found => .inl (leaving.runs other (run ▸ found)))
  · intro other apart
    rw [taskView_sendFinish, if_neg apart]
    exact leaving.tasks other apart
  · intro other apart
    rw [slotView_sendFinish_other apart]
    exact leaving.slots other apart
  · rw [taskView_sendFinish, if_pos rfl]
    exact ⟨leaving.popped, leaving.voice, leaving.allocation, rfl, by rw [leaving.terminals]⟩
  · rcases view with view | view
    · rw [view]
      refine ⟨?_, fun some => absurd leaving.evicts some, fun _ => ?_,
        fun no => absurd leaving.has no⟩
      · change (mid.slotView slotId).evicts.length ≤ 1
        rw [leaving.evicts]
        exact Nat.zero_le 1
      · exact ⟨leaving.granted, leaving.stops, leaving.evicts, rfl⟩
    · rw [view]
      refine ⟨?_, fun _ => leaving.granted, fun _ => ?_, fun no => absurd leaving.has no⟩
      · change ((mid.slotView slotId).evicts ++ _).length ≤ 1
        rw [leaving.evicts]
        exact Nat.le_refl 1
      · refine ⟨leaving.granted, leaving.stops, ?_, leaving.teardowns⟩
        change ((mid.slotView slotId).evicts ++ _).length = 1
        rw [leaving.evicts]
        rfl
  · have names : ((mid.sendFinish answers taskId reason error (some slotId)).slots slotId).taskId =
        taskId := by
      rcases view with view | view
      all_goals exact (congrArg (fun view => view.context.taskId) view).trans leaving.names
    rw [names]
    exact Function.update_self ..

/-- What the task of a slot that runs it says. -/
theorem Sound.task_of_runs (sound : runner.Sound place) (has : runner.HasSlot slotId)
    (runs : (runner.slots slotId).Runs taskId) :
    place taskId = .slot slotId ∧ (runner.taskView taskId).popped = 1 ∧
      (runner.taskView taskId).voice = none ∧ (runner.taskView taskId).allocation = none ∧
      (runner.taskView taskId).terminals = 0 := by
  have here := (sound.linked slotId taskId).mpr ⟨has, runs⟩
  have fits := sound.tasks taskId
  rw [here] at fits
  exact ⟨here, fits⟩

/-- A slot whose state is not `FREE` is one of the runner's. -/
theorem Sound.has_of_state (sound : runner.Sound place)
    (busy : (runner.slots slotId).state ≠ .free) : runner.HasSlot slotId := by
  by_contra no
  have context := ((sound.slots slotId).outside no).1
  exact busy (congrArg SlotContext.state context)

end InferenceServer.Tts.TtsRunner
