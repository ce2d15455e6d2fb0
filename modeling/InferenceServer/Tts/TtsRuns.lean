import InferenceServer.Tts.TtsAcks

/-! What the outputs, the deliveries and the teardowns keep, and with that every step. -/
namespace InferenceServer.Tts.TtsRunner

open Machine

variable {runner mid next : TtsRunner} {place : Nat → Place} {taskId slotId : Nat}
  {answers : Answers}
variable {context : SlotContext} {run : Run} {output : AudioOutput}

/-- Only the slots that a phase has still to evict matter. -/
theorem Sound.phase {phase : Phase} (sound : runner.Sound place)
    (same : phase.evicting = runner.phase.evicting) : { runner with phase }.Sound place := by
  refine sound.same rfl (fun _ => rfl) fun other => ?_
  ext <;> simp [slotView, requests, TtsRunner.teardowns, same]

/-- A slot that runs a task. -/
theorem Sound.running_of (sound : runner.Sound place) (passes : runner.Passes slotId) :
    (runner.slots slotId).Runs (runner.slots slotId).taskId ∧
    (runner.slotView slotId).granted = true ∧ (runner.slotView slotId).stops = [] ∧
    (runner.slotView slotId).evicts = [] ∧ (runner.slotView slotId).teardowns = 0 ∧
    runner.runs slotId = some ⟨(runner.slots slotId).taskId,
      (runner.slots slotId).completionPending, (runner.slots slotId).audioLastReceived⟩ ∧
    ¬ ((runner.slots slotId).completionPending = true ∧
      (runner.slots slotId).audioLastReceived = true) := by
  have inside := (sound.slots slotId).inside passes.1
  have state : (runner.slotView slotId).context.state = .running := passes.2
  unfold StateFits at inside
  rw [state] at inside
  exact ⟨⟨.inl passes.2, rfl⟩, inside⟩

/-- A run goes on in its slot, with other flags. -/
theorem Sound.goesOn (sound : runner.Sound place) (passes : runner.Passes slotId)
    (config : mid.config = runner.config)
    (tasks : ∀ other, mid.taskView other = runner.taskView other)
    (slots : ∀ other, other ≠ slotId → mid.slotView other = runner.slotView other)
    (view : mid.slotView slotId = { runner.slotView slotId with context, run := some run })
    (state : context.state = .running) (same : context.taskId = (runner.slots slotId).taskId)
    (flags : run = ⟨context.taskId, context.completionPending, context.audioLastReceived⟩)
    (unfinished : ¬ (context.completionPending = true ∧ context.audioLastReceived = true)) :
    mid.Sound place := by
  obtain ⟨runs, granted, stops, evicts, teardowns, old, _⟩ := sound.running_of passes
  have now : mid.slots slotId = context := congrArg SlotView.context view
  refine @Sound.movedSlot runner mid place slotId sound config tasks slots ?_ (fun other _ => ?_)
    (fun ending => ?_) fun run' found => ?_
  · rw [view]
    refine ⟨Nat.le_trans (Nat.le_of_eq (congrArg List.length evicts)) (Nat.zero_le 1),
      fun some => absurd evicts some, fun _ => ?_, fun no => absurd passes.1 no⟩
    unfold StateFits
    dsimp only
    rw [state]
    exact ⟨granted, stops, evicts, teardowns, congrArg some flags, unfinished⟩
  · rw [now]
    simp only [SlotContext.Runs, state, passes.2, same]
  · rw [now, SlotContext.Ending, state] at ending
    rcases ending with running | running <;> cases running
  · have there : mid.runs slotId = some run := congrArg SlotView.run view
    rw [there] at found
    cases found
    exact ⟨_, old, by rw [flags, same]⟩

/-- A run that is complete ends its task. -/
theorem Sound.completes (sound : runner.Sound place) (passes : runner.Passes slotId)
    (config : mid.config = runner.config)
    (tasks : ∀ other, mid.taskView other = runner.taskView other)
    (slots : ∀ other, other ≠ slotId → mid.slotView other = runner.slotView other)
    (view : mid.slotView slotId = { runner.slotView slotId with context, run := some run })
    (state : context.state = .running) (same : context.taskId = (runner.slots slotId).taskId)
    (flags : run.taskId = context.taskId)
    (complete : context.completionPending = true ∧ context.audioLastReceived = true) :
    (mid.maybeFinalizeCompletedSlot slotId answers).Consistent := by
  obtain ⟨runs, granted, stops, evicts, teardowns, old, _⟩ := sound.running_of passes
  have now : mid.slots slotId = context := congrArg SlotView.context view
  rw [← same] at runs old
  obtain ⟨here, popped, voice, allocation, terminals⟩ := sound.task_of_runs passes.1 runs
  unfold maybeFinalizeCompletedSlot
  dsimp only
  rw [now, if_pos ⟨(hasSlot_iff config _).mpr passes.1, complete.1, complete.2, state⟩]
  have cleared := @slotView_setSlot mid slotId
    { context with completionPending := false, audioLastReceived := false }
  rw [view] at cleared
  refine ⟨_, @Leaving.finish runner _ place _ _ answers _ _ ?_⟩
  exact {
    sound := sound
    config := config
    tasks := fun other _ => tasks other
    slots := fun other apart => (slotView_setSlot_other apart).trans (slots other apart)
    popped := (congrArg TaskView.popped (tasks _)).trans popped
    voice := (congrArg TaskView.voice (tasks _)).trans voice
    allocation := (congrArg TaskView.allocation (tasks _)).trans allocation
    terminals := (congrArg TaskView.terminals (tasks _)).trans terminals
    has := passes.1
    granted := (congrArg SlotView.granted cleared).trans granted
    stops := (congrArg SlotView.stops cleared).trans stops
    evicts := (congrArg SlotView.evicts cleared).trans evicts
    teardowns := (congrArg SlotView.teardowns cleared).trans teardowns
    runs := by
      intro run' found
      rw [cleared] at found
      cases found
      exact ⟨_, old, flags.symm⟩
    source := by
      intro other there
      rw [here] at there
      cases there
      rfl
    before := fun other then_ => then_.2.symm.trans same.symm
    live := by
      rw [here]
      nofun
    names := congrArg (fun view => view.context.taskId) cleared }

/-- The finalizer finds nothing to do for a slot that is not complete. -/
theorem finalize_of_incomplete (incomplete : ¬ ((mid.slots slotId).completionPending = true ∧
      (mid.slots slotId).audioLastReceived = true ∧ (mid.slots slotId).state = .running)) :
    mid.maybeFinalizeCompletedSlot slotId answers = mid := by
  unfold maybeFinalizeCompletedSlot
  exact if_neg fun all => incomplete ⟨all.2.1, all.2.2.1, all.2.2.2⟩

theorem Sound.finalize (sound : runner.Sound place) :
    runner.maybeFinalizeCompletedSlot slotId answers = runner := by
  by_cases passes : runner.Passes slotId
  · have unfinished := (sound.running_of passes).2.2.2.2.2.2
    exact finalize_of_incomplete fun all => unfinished ⟨all.1, all.2.1⟩
  · unfold maybeFinalizeCompletedSlot
    exact if_neg fun all => passes ⟨all.1, all.2.2.2⟩

/-- The run of a slot that is not running matters to nobody. -/
theorem Sound.outputElsewhere {old : Run} (sound : runner.Sound place)
    (passes : ¬ runner.Passes slotId) (found : runner.runs slotId = some old)
    (same : run.taskId = old.taskId) :
    { runner with runs := Function.update runner.runs slotId (some run) }.Sound place := by
  have fits := sound.slots slotId
  have has : runner.HasSlot slotId := by
    by_contra no
    exact absurd ((fits.outside no).2.2.2.symm.trans found) nofun
  have inside := fits.inside has
  have view : { runner with
      runs := Function.update runner.runs slotId (some run) }.slotView slotId =
      { runner.slotView slotId with run := some run } := by
    ext <;> simp [slotView, requests, TtsRunner.teardowns]
  refine @Sound.movedSlot runner _ place slotId sound rfl (fun _ => rfl) (fun other apart => ?_) ?_
    (fun _ _ => Iff.rfl) (fun ending => ⟨ending, rfl⟩) fun run' there => ?_
  · ext <;> simp [slotView, requests, TtsRunner.teardowns, apart]
  · rw [view]
    refine ⟨fits.evicts, fits.granted, fun _ => ?_, fun no => absurd has no⟩
    unfold StateFits at inside ⊢
    dsimp only
    cases state : (runner.slotView slotId).context.state with
    | free =>
      rw [state] at inside
      exact absurd (inside.2.2.symm.trans found) nofun
    | running => exact absurd ⟨has, state⟩ passes
    | awaitingStopAck | awaitingTerminalDelivery | awaitingEvictAck =>
      rw [state] at inside
      exact inside
  · dsimp only at there
    rw [Function.update_self] at there
    cases there
    exact ⟨old, found, same.symm⟩

/-- A run goes on with new flags, or ends its task. -/
theorem Sound.flagged (sound : runner.Sound place) (passes : runner.Passes slotId)
    (state : context.state = .running) (same : context.taskId = (runner.slots slotId).taskId)
    (flags : run = ⟨context.taskId, context.completionPending, context.audioLastReceived⟩) :
    (({ runner with runs := Function.update runner.runs slotId (some run) }.setSlot slotId
      context).maybeFinalizeCompletedSlot slotId answers).Consistent := by
  have view : ({ runner with runs := Function.update runner.runs slotId (some run) }.setSlot slotId
      context).slotView slotId = { runner.slotView slotId with context, run := some run } := by
    rw [slotView_setSlot]
    ext <;> simp [slotView, requests, TtsRunner.teardowns]
  have slots : ∀ other, other ≠ slotId → ({ runner with
      runs := Function.update runner.runs slotId (some run) }.setSlot slotId
        context).slotView other = runner.slotView other := by
    intro other apart
    rw [slotView_setSlot_other apart]
    ext <;> simp [slotView, requests, TtsRunner.teardowns, apart]
  by_cases complete : context.completionPending = true ∧ context.audioLastReceived = true
  · exact sound.completes passes rfl (fun _ => rfl) slots view state same (by rw [flags]) complete
  · rw [finalize_of_incomplete]
    · exact ⟨place, sound.goesOn passes rfl (fun _ => rfl) slots view state same flags complete⟩
    · rw [show TtsRunner.slots _ slotId = context from Function.update_self ..]
      exact fun all => complete ⟨all.1, all.2.1⟩

theorem Sound.tokenOutput {output : TokenOutput} (sound : runner.Sound place)
    (found : runner.runs output.slotId = some run) (unfinal : run.final = false) :
    ({ runner with
      runs := Function.update runner.runs output.slotId
        (some { run with final := output.final }) }.handleTokenOutput output answers).Consistent := by
  unfold handleTokenOutput
  by_cases passes : runner.Passes output.slotId
  · have now := (sound.running_of passes).2.2.2.2.2.1
    cases found.symm.trans now
    cases final : output.final with
    | true =>
      rw [if_pos ⟨passes, rfl⟩]
      exact sound.flagged passes passes.2 rfl rfl
    | false =>
      rw [if_neg fun both => Bool.false_ne_true both.2]
      dsimp only at unfinal
      rw [← unfinal, Function.update_eq_self_iff.mpr now.symm]
      exact ⟨place, sound⟩
  · rw [if_neg fun both => passes both.1]
    exact ⟨place, sound.outputElsewhere passes found rfl⟩

/-- A slot that waits for its stop is told that its audio is over. -/
theorem Sound.lastWhileStopping (sound : runner.Sound place)
    (stopping : (runner.slots slotId).state = .awaitingStopAck) :
    (runner.setSlot slotId { runner.slots slotId with audioLastReceived := true }).Sound place := by
  have fits := sound.slots slotId
  have has := @Sound.has_of_state _ _ slotId sound (by rw [stopping]; nofun)
  have inside := fits.inside has
  have state : (runner.slotView slotId).context.state = .awaitingStopAck := stopping
  refine @Sound.movedSlot runner _ place slotId sound rfl (fun _ => rfl)
    (fun other apart => slotView_setSlot_other apart) ?_ (fun other _ => ?_) (fun ending => ?_)
    fun run found => ⟨run, found, rfl⟩
  · rw [slotView_setSlot]
    refine ⟨fits.evicts, fits.granted, fun _ => ?_, fun no => absurd has no⟩
    unfold StateFits at inside ⊢
    dsimp only
    rw [state] at inside
    rw [stopping]
    exact inside
  · simp [setSlot, SlotContext.Runs]
  · simp [setSlot, SlotContext.Ending, stopping] at ending

/-- A chunk is sent, or its run is to be stopped; either way the outputs are no matter. -/
theorem pushAudio_cases : (output.samplesBf16 = [] ∧ runner.pushAudio output answers = runner) ∨
    (output.samplesBf16 ≠ [] ∧ answers.chunk = true ∧
      runner.pushAudio output answers = runner.send output.message) ∨
    output.samplesBf16 ≠ [] ∧ answers.chunk = false ∧
      runner.pushAudio output answers = runner.requestStop output.slotId answers := by
  unfold pushAudio
  split
  · exact .inl ⟨‹_›, rfl⟩
  · split
    · exact .inr (.inl ⟨‹_›, ‹_›, rfl⟩)
    · exact .inr (.inr ⟨‹_›, Bool.eq_false_iff.mpr ‹_›, rfl⟩)

theorem Sound.pushAudio (sound : runner.Sound place) :
    (runner.pushAudio output answers).Sound place := by
  rcases @pushAudio_cases runner answers output with ⟨_, pushed⟩ | ⟨_, _, pushed⟩ | ⟨_, _, pushed⟩
  · rw [pushed]
    exact sound
  · rw [pushed]
    refine sound.same rfl (fun other => ?_) fun _ => rfl
    rw [taskView_send]
    simp [AudioOutput.message, Message.finishes]
  · rw [pushed]
    exact sound.requestStop

theorem pushAudio_outputs {runs : Nat → Option Run} :
    { runner with runs }.pushAudio output answers =
      { runner.pushAudio output answers with runs } := by
  unfold TtsRunner.pushAudio requestStop
  dsimp only
  repeat' split
  all_goals first | rfl | contradiction

theorem runs_pushAudio : (runner.pushAudio output answers).runs = runner.runs := by
  unfold TtsRunner.pushAudio requestStop
  repeat' split
  all_goals rfl

/-- A slot that no longer runs after the push of its chunk waits for its stop. -/
theorem state_of_pushAudio (passes : runner.Passes output.slotId)
    (stopped : ¬ (runner.pushAudio output answers).Passes output.slotId) :
    ((runner.pushAudio output answers).slots output.slotId).state = .awaitingStopAck := by
  unfold TtsRunner.pushAudio requestStop at stopped ⊢
  by_cases empty : output.samplesBf16 = []
  · rw [if_pos empty] at stopped
    exact absurd passes stopped
  · rw [if_neg empty] at stopped ⊢
    split at stopped
    · exact absurd passes stopped
    · rename_i refused
      rw [if_neg refused]
      split at stopped
      · rename_i here
        rw [if_pos here]
        split at stopped
        · rename_i taken
          rw [if_pos taken]
          rw [setState, setSlot]
          dsimp only
          rw [Function.update_self]
        · split at stopped
          · exact absurd passes stopped
          · exact absurd passes stopped
      · exact absurd passes stopped

theorem Sound.audioOutput (sound : runner.Sound place)
    (found : runner.runs output.slotId = some run) (unlast : run.last = false) :
    ({ runner with
      runs := Function.update runner.runs output.slotId
        (some { run with last := output.last }) }.handleAudioOutput output answers).Consistent := by
  unfold handleAudioOutput
  split
  · rename_i passes
    have passes : runner.Passes output.slotId := passes
    dsimp only
    rw [pushAudio_outputs]
    have pushed := @Sound.pushAudio _ _ answers output sound
    have runs := @runs_pushAudio runner answers output
    cases last : output.last with
    | false =>
      have now : runner.runs output.slotId = some { run with last := false } := by
        rw [found, ← unlast]
      rw [if_neg Bool.false_ne_true, Function.update_eq_self_iff.mpr now.symm, ← runs]
      exact ⟨place, pushed⟩
    | true =>
      rw [if_pos rfl, ← runs]
      by_cases still : (runner.pushAudio output answers).Passes output.slotId
      · have now := (pushed.running_of still).2.2.2.2.2.1
        rw [runs] at now
        cases found.symm.trans now
        exact pushed.flagged still still.2 rfl rfl
      · have stopping := state_of_pushAudio passes still
        rw [finalize_of_incomplete]
        · rw [runs]
          have kept := @Sound.outputElsewhere _ _ _ { run with last := true } run pushed still
            (runs.symm ▸ found) rfl
          rw [runs] at kept
          exact ⟨place, kept.lastWhileStopping stopping⟩
        · rw [show TtsRunner.slots _ output.slotId = _ from Function.update_self ..]
          exact fun all => absurd (stopping.symm.trans all.2.2) nofun
  · rename_i passes
    exact ⟨place, sound.outputElsewhere passes found rfl⟩

end InferenceServer.Tts.TtsRunner
