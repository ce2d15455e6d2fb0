import InferenceServer.Tts.TtsHandlers

/-! What the handlers of the scheduler's responses keep. -/
namespace InferenceServer.Tts.TtsRunner

variable {runner mid next : TtsRunner} {place : Nat → Place} {taskId slotId : Nat}
  {answers : Answers} {reason : FinishReason} {error : String}
variable {response : SchedulerResponse}

theorem config_answered : (runner.answered response).config = runner.config := by
  unfold answered
  dsimp only
  repeat' split
  all_goals rfl

/-- The response leaves a task view as it is when the task waits for no slot. -/
theorem taskView_answered_of_type (type : response.type ≠ .allocate) {other : Nat} :
    (runner.answered response).taskView other = runner.taskView other := by
  have absent : ∀ request, request ∈ [response.request] →
      request ≠ (⟨.allocate, other, other, invalidSlot⟩ : SchedulerRequest) := by
    intro request member same
    rw [List.mem_singleton.mp member] at same
    exact type (congrArg SchedulerRequest.type same)
  have counted : { runner with
      outstanding := runner.outstanding.erase response.request }.taskView other =
      runner.taskView other := by
    ext1
    all_goals try rfl
    change Option.elim _ _ _ = Option.elim _ _ _
    dsimp only
    cases runner.pendingAllocations other with
    | none => rfl
    | some task => exact List.count_erase_of_ne (absent _ (List.mem_singleton_self _)).symm
  rw [← counted]
  unfold answered
  dsimp only
  repeat' split
  all_goals rfl

section

variable (sound : runner.Sound place)
include sound

theorem Sound.handleStopAck (type : response.type = .stop)
    (may : response.request ∈ runner.outstanding) :
    ((runner.answered response).handleStopAck response answers).Consistent := by
  have names : response.request =
      ⟨.stop, response.requestId, response.taskId, response.slotId⟩ := by
    simp [SchedulerResponse.request, type]
  have member : response.request ∈ (runner.slotView response.slotId).stops := by
    refine List.mem_filter.mpr ⟨may, decide_eq_true ?_⟩
    rw [names]
    exact ⟨rfl, rfl⟩
  have fits := sound.slots response.slotId
  have has : runner.HasSlot response.slotId := by
    by_contra no
    rw [(fits.outside no).2.1] at member
    cases member
  have inside := fits.inside has
  have view := @slotView_answered runner response
  rw [type] at view
  dsimp only at view
  unfold StateFits at inside
  split at inside
  case h_3 state =>
    obtain ⟨granted, stops, evicts, teardowns⟩ := inside
    rw [stops, names] at member
    have same := List.mem_singleton.mp member
    have taskId : response.taskId = (runner.slots response.slotId).taskId :=
      congrArg SchedulerRequest.taskId same
    have runs : (runner.slots response.slotId).Runs response.taskId :=
      ⟨.inr state, taskId.symm⟩
    obtain ⟨here, popped, voice, allocation, terminals⟩ := sound.task_of_runs has runs
    have tasks := fun other => @taskView_answered_of_type runner response (by rw [type]; rintro ⟨⟩) other
    refine ⟨_, @Leaving.finish runner _ place _ _ answers _ _ ?_⟩
    exact {
      sound := sound
      config := config_answered
      tasks := fun other _ => tasks other
      slots := fun other apart => slotView_answered_other apart
      popped := (tasks _).symm ▸ popped
      voice := (tasks _).symm ▸ voice
      allocation := (tasks _).symm ▸ allocation
      terminals := (tasks _).symm ▸ terminals
      has := has
      granted := view ▸ granted
      stops := by
        rw [view]
        change (runner.slotView response.slotId).stops.erase response.request = []
        rw [stops, names, ← same, List.erase_cons_head]
      evicts := view ▸ evicts
      teardowns := view ▸ teardowns
      runs := by
        rw [view]
        rintro _ ⟨⟩
      source := by
        intro other there
        rw [here] at there
        cases there
        rfl
      before := fun other then_ => then_.2.symm.trans taskId.symm
      live := by
        rw [here]
        rintro ⟨⟩
      names := (congrArg (fun view => view.context.taskId) view).trans taskId.symm }
  case h_1 =>
    rw [inside.1] at member
    cases member
  all_goals
    rw [inside.2.1] at member
    cases member

theorem Sound.handleSubmitAck (type : response.type = .submit) (orderly : runner.Orderly response) :
    ((runner.answered response).handleSubmitAck response answers).Consistent := by
  have tasks := fun other => @taskView_answered_of_type runner response (by rw [type]; nofun) other
  have view := @slotView_answered runner response
  rw [type] at view
  dsimp only at view
  have context : (runner.answered response).slots response.slotId =
      runner.slots response.slotId := by
    have same := congrArg SlotView.context view
    change (runner.answered response).slots response.slotId = _ at same
    rw [same]
    split <;> rfl
  unfold TtsRunner.handleSubmitAck
  split
  · rename_i fine
    rw [if_neg fun both => both.1 fine] at view
    refine ⟨place, sound.same config_answered tasks fun other => ?_⟩
    by_cases same : other = response.slotId
    · rw [same, view]
    · exact slotView_answered_other same
  · rename_i failed
    have orderly := orderly.1 type failed
    have has : runner.HasSlot response.slotId := by
      refine sound.has_of_state fun free => ?_
      rw [free] at orderly
      rcases orderly with other | other | other
      · cases other
      · cases other
      · cases other.1
    have fits := sound.slots response.slotId
    have inside := fits.inside has
    split
    · rename_i teardown
      rw [context] at teardown
      refine ⟨place, @Sound.movedSlot runner _ place response.slotId sound config_answered tasks
        (fun other apart => slotView_answered_other apart) ?_
        (fun other _ => by rw [context])
        (fun ending => by rw [context] at ending ⊢; exact ⟨ending, rfl⟩) fun run found => ?_⟩
      · rw [view]
        split
        · refine ⟨fits.evicts, fits.granted, fun _ => ?_, fun no => absurd has no⟩
          unfold StateFits at inside ⊢
          rcases teardown.2 with stopping | evicting
          · have state : (runner.slotView response.slotId).context.state = .awaitingStopAck :=
              stopping
            rw [state] at inside
            dsimp only
            rw [state]
            exact inside
          · have state : (runner.slotView response.slotId).context.state = .awaitingEvictAck :=
              evicting
            rw [state] at inside
            dsimp only
            rw [state]
            exact inside
        · exact fits
      · have there := congrArg SlotView.run view
        change (runner.answered response).runs response.slotId = _ at there
        rw [there] at found
        split at found
        · cases found
        · exact ⟨run, found, rfl⟩
    · rename_i staying
      have running : (runner.slots response.slotId).state = .running ∧
          (runner.slots response.slotId).taskId = response.taskId := by
        rcases orderly with stopping | evicting | running
        · exact absurd ⟨(hasSlot_iff config_answered _).mpr has, .inl (context ▸ stopping)⟩ staying
        · exact absurd ⟨(hasSlot_iff config_answered _).mpr has, .inr (context ▸ evicting)⟩ staying
        · exact running
      have runs : (runner.slots response.slotId).Runs response.taskId :=
        ⟨.inl running.1, running.2⟩
      obtain ⟨here, popped, voice, allocation, terminals⟩ := sound.task_of_runs has runs
      have state : (runner.slotView response.slotId).context.state = .running := running.1
      unfold StateFits at inside
      rw [state] at inside
      obtain ⟨granted, stops, evicts, teardowns, _⟩ := inside
      refine ⟨_, @Leaving.finish runner _ place _ _ answers _ _ ?_⟩
      exact {
        sound := sound
        config := config_answered
        tasks := fun other _ => tasks other
        slots := fun other apart => slotView_answered_other apart
        popped := (tasks _).symm ▸ popped
        voice := (tasks _).symm ▸ voice
        allocation := (tasks _).symm ▸ allocation
        terminals := (tasks _).symm ▸ terminals
        has := has
        granted := by
          rw [view]
          split <;> exact granted
        stops := by
          rw [view]
          split <;> exact stops
        evicts := by
          rw [view]
          split <;> exact evicts
        teardowns := by
          rw [view]
          split <;> exact teardowns
        runs := by
          intro run found
          rw [view] at found
          split at found
          · cases found
          · exact ⟨run, found, rfl⟩
        source := by
          intro other there
          rw [here] at there
          cases there
          rfl
        before := fun other then_ => then_.2.symm.trans running.2
        live := by
          rw [here]
          nofun
        names := (congrArg SlotContext.taskId context).trans running.2 }

theorem Sound.handleEvictAck (type : response.type = .evict)
    (may : response.request ∈ runner.outstanding) :
    ((runner.answered response).cleanupSlot response.slotId).Sound place := by
  have names : response.request =
      ⟨.evict, response.requestId, response.taskId, response.slotId⟩ := by
    simp [SchedulerResponse.request, type]
  have member : response.request ∈ (runner.slotView response.slotId).evicts := by
    refine List.mem_filter.mpr ⟨may, decide_eq_true ?_⟩
    rw [names]
    exact ⟨rfl, rfl⟩
  have fits := sound.slots response.slotId
  have evicts : (runner.slotView response.slotId).evicts.erase response.request = [] := by
    have length := List.length_erase_of_mem member
    have few := fits.evicts
    exact List.length_eq_zero_iff.mp (by omega)
  have view := @slotView_answered runner response
  rw [type] at view
  dsimp only at view
  rw [evicts] at view
  have tasks := fun other => @taskView_answered_of_type runner response (by rw [type]; rintro ⟨⟩) other
  have gone : (runner.answered response).runs response.slotId = none := congrArg SlotView.run view
  have context : (runner.answered response).slots response.slotId =
    runner.slots response.slotId := congrArg SlotView.context view
  unfold cleanupSlot
  split
  · rename_i has
    have has := (hasSlot_iff config_answered _).mp has
    have inside := fits.inside has
    -- Only a slot that is free, or that waits for this response, has an eviction to be answered.
    have idle : ∀ other, ¬ (runner.slots response.slotId).Runs other := by
      intro other runs
      unfold StateFits at inside
      rcases runs.1 with running | stopping
      · have state : (runner.slotView response.slotId).context.state = .running := running
        rw [state] at inside
        rw [inside.2.2.1] at member
        cases member
      · have state : (runner.slotView response.slotId).context.state = .awaitingStopAck := stopping
        rw [state] at inside
        rw [inside.2.2.1] at member
        cases member
    have quiet : (runner.slotView response.slotId).stops = [] ∧
        (runner.slotView response.slotId).teardowns = 0 := by
      unfold StateFits at inside
      split at inside
      · exact ⟨inside.1, inside.2.1⟩
      · exact ⟨inside.2.1, inside.2.2.2.1⟩
      · rw [inside.2.2.1] at member
        cases member
      · rw [inside.2.2.1] at member
        cases member
      · exact ⟨inside.2.1, inside.2.2.2⟩
    refine @Sound.movedSlot runner _ place response.slotId sound config_answered
      (fun other => (taskView_setSlot).trans (tasks other)) (fun other apart => ?_) ?_
      (fun other _ => ?_) (fun ending => ?_) fun run found => ?_
    · exact (slotView_setSlot_other apart).trans (slotView_answered_other apart)
    · rw [slotView_setSlot, view]
      exact ⟨Nat.zero_le 1, fun some => absurd rfl some, fun _ => ⟨quiet.1, quiet.2, rfl⟩,
        fun no => absurd has no⟩
    · refine iff_of_false (fun runs => ?_) (idle other)
      rw [setSlot] at runs
      dsimp only at runs
      rw [Function.update_self] at runs
      rcases runs.1 with free | free <;> cases free
    · rw [setSlot] at ending
      dsimp only at ending
      rw [Function.update_self] at ending
      rcases ending with free | free <;> cases free
    · change (runner.answered response).runs response.slotId = some run at found
      rw [gone] at found
      cases found
  · rename_i no
    have no := fun has => no ((hasSlot_iff config_answered _).mpr has)
    have outside := fits.outside no
    refine @Sound.movedSlot runner _ place response.slotId sound config_answered tasks
      (fun other apart => slotView_answered_other apart) ?_ (fun other has => absurd has no)
      (fun ending => by rw [context] at ending ⊢; exact ⟨ending, rfl⟩) fun run found => ?_
    · rw [view]
      exact ⟨Nat.zero_le 1, fun some => absurd rfl some, fun has => absurd has no,
        fun _ => ⟨outside.1, outside.2.1, outside.2.2.1, rfl⟩⟩
    · rw [gone] at found
      cases found

/-- A slot that is not granted is free, and nobody evicts it. -/
theorem Sound.ungranted (free : runner.granted slotId = false) :
    (runner.slotView slotId).evicts = [] ∧ (runner.slotView slotId).stops = [] ∧
      (runner.slotView slotId).teardowns = 0 ∧ (runner.slotView slotId).run = none ∧
      (runner.slots slotId).state = .free := by
  have fits := sound.slots slotId
  have free : (runner.slotView slotId).granted = false := free
  have evicts : (runner.slotView slotId).evicts = [] := by
    by_contra some
    rw [fits.granted some] at free
    cases free
  refine ⟨evicts, ?_⟩
  by_cases has : runner.HasSlot slotId
  · have inside := fits.inside has
    unfold StateFits at inside
    split at inside
    case h_1 state => exact ⟨inside.1, inside.2.1, inside.2.2, state⟩
    all_goals
      rw [inside.1] at free
      cases free
  · obtain ⟨context, stops, teardowns, run⟩ := fits.outside has
    exact ⟨stops, teardowns, run, congrArg SlotContext.state context⟩

/-- A slot that is granted to nobody is evicted again, or forgotten. -/
theorem Sound.grantEnded (type : response.type = .allocate) (may : runner.MayAnswer response)
    (orderly : runner.Orderly response)
    (ended : runner.pendingAllocations response.requestId = none) :
    ((runner.answered response).handleAllocateAck response answers).Sound place := by
  have tasks : ∀ other, (runner.answered response).taskView other = runner.taskView other := by
    intro other
    refine taskView_answered ?_
    by_cases same : other = response.requestId
    · rw [same]
      exact .inr ended
    · exact .inl same
  have view := @slotView_answered runner response
  rw [type] at view
  dsimp only at view
  have none_ : (runner.answered response).pendingAllocations response.requestId = none :=
    (congrArg TaskView.allocation (tasks response.requestId)).trans ended
  unfold TtsRunner.handleAllocateAck
  rw [none_]
  dsimp only
  by_cases grants : response.Grants
  · obtain ⟨evicts, stops, teardowns, run, state⟩ := sound.ungranted (may.2 grants)
    rw [if_pos grants] at view
    have fits := sound.slots response.slotId
    have inside := fits.inside
    have outside := fits.outside
    have granted : SlotFits (runner.HasSlot response.slotId) response.slotId
        { runner.slotView response.slotId with granted := true } := by
      refine ⟨fits.evicts, fun _ => rfl, fun has => ?_, outside⟩
      have inside := inside has
      unfold StateFits at inside ⊢
      have state : (runner.slotView response.slotId).context.state = .free := state
      dsimp only
      rw [state] at inside ⊢
      exact inside
    have gone : (runner.answered response).runs response.slotId = none :=
      (congrArg SlotView.run view).trans run
    have context : (runner.answered response).slots response.slotId =
      runner.slots response.slotId := congrArg SlotView.context view
    have answered : (runner.answered response).Sound place := by
      refine @Sound.movedSlot runner _ place response.slotId sound config_answered tasks
        (fun other apart => slotView_answered_other apart) (view ▸ granted)
        (fun other _ => by rw [context])
        (fun ending => by rw [context] at ending ⊢; exact ⟨ending, rfl⟩) fun run found => ?_
      rw [gone] at found
      cases found
    split
    · have added := @slotView_accept (runner.answered response) response.slotId
        ⟨.evict, response.requestId, response.taskId, response.slotId⟩
      rw [if_neg nofun, if_pos ⟨rfl, rfl⟩, view, List.append_nil] at added
      dsimp only at added
      rw [evicts] at added
      refine @Sound.movedSlot _ _ place response.slotId answered rfl
        (fun other => taskView_accept nofun)
        (fun other apart => slotView_accept_other fun _ => apart.symm) ?_ (fun other _ => Iff.rfl)
        (fun ending => ⟨ending, rfl⟩) fun run found => ⟨run, found, rfl⟩
      rw [added]
      refine ⟨Nat.le_refl 1, fun _ => rfl, fun has => ?_, fun no => ?_⟩
      · have inside := granted.inside ((hasSlot_iff config_answered _).mp has)
        unfold StateFits at inside ⊢
        have state : (runner.slotView response.slotId).context.state = .free := state
        dsimp only at inside ⊢
        rw [state] at inside ⊢
        exact inside
      · exact granted.outside fun has => no ((hasSlot_iff config_answered _).mpr has)
    · exact answered
  · rw [if_neg grants] at view
    have invalid : response.slotId = invalidSlot := by
      by_contra valid
      exact valid (orderly.2 type (fun fine => grants ⟨type, fine, valid⟩) ended)
    rw [if_neg fun both => both.1 invalid]
    refine sound.same config_answered tasks fun other => ?_
    by_cases same : other = response.slotId
    · rw [same, view]
    · exact slotView_answered_other same

/-- The task that an allocation is answered for is taken out. -/
theorem Sound.takeAnswered {task : Task}
    (waits : runner.pendingAllocations response.requestId = some task) :
    let mid := { runner.answered response with
      pendingAllocations := Function.update (runner.answered response).pendingAllocations
        response.requestId none }
    task.taskId = response.requestId ∧ place task.taskId = .allocating ∧
      (∀ other, other ≠ task.taskId → mid.taskView other = runner.taskView other) ∧
      (mid.taskView task.taskId).popped = 1 ∧ (mid.taskView task.taskId).voice = none ∧
      (mid.taskView task.taskId).allocation = none ∧
      (mid.taskView task.taskId).terminals = 0 := by
  obtain ⟨here, names⟩ := sound.allocating_of waits
  have fits := sound.tasks response.requestId
  rw [here] at fits
  have same : (runner.answered response).taskView response.requestId =
      { runner.taskView response.requestId with
        allocates := ((runner.answered response).taskView response.requestId).allocates } := by
    unfold answered
    dsimp only
    repeat' split
    all_goals rfl
  refine ⟨names, names ▸ here, fun other apart => ?_, ?_⟩
  · rw [names] at apart
    exact (taskView_allocation apart).trans (taskView_answered (.inl apart))
  · rw [names]
    exact ⟨(congrArg TaskView.popped same).trans fits.1, (congrArg TaskView.voice same).trans
      fits.2.1, Function.update_self .., (congrArg TaskView.terminals same).trans fits.2.2.2.1⟩

/-- A task is given a slot that is free. -/
theorem Sound.grant {task : Task} (has : runner.HasSlot slotId)
    (here : place task.taskId = .allocating)
    (tasks : ∀ other, other ≠ task.taskId → mid.taskView other = runner.taskView other)
    (popped : (mid.taskView task.taskId).popped = 1)
    (voice : (mid.taskView task.taskId).voice = none)
    (allocation : (mid.taskView task.taskId).allocation = none)
    (terminals : (mid.taskView task.taskId).terminals = 0)
    (slots : ∀ other, other ≠ slotId → mid.slotView other = runner.slotView other)
    (config : mid.config = runner.config)
    (view : mid.slotView slotId = { runner.slotView slotId with granted := true })
    (free : (runner.slotView slotId).evicts = [] ∧ (runner.slotView slotId).stops = [] ∧
      (runner.slotView slotId).teardowns = 0 ∧ (runner.slotView slotId).run = none ∧
      (runner.slots slotId).state = .free) :
    ((mid.setSlot slotId { state := .running, taskId := task.taskId }).submitTask task slotId
      answers).Consistent := by
  obtain ⟨evicts, stops, teardowns, run, state⟩ := free
  have based := @slotView_setSlot mid slotId { state := .running, taskId := task.taskId }
  rw [view] at based
  have idle : ∀ other, ¬ (runner.slots slotId).Runs other := by
    intro other runs
    rcases runs.1 with running | stopping
    · rw [state] at running
      cases running
    · rw [state] at stopping
      cases stopping
  have nowhere : ∀ other, place task.taskId ≠ .slot other := by
    rw [here]
    rintro _ ⟨⟩
  have live : place task.taskId ≠ .finished := by
    rw [here]
    rintro ⟨⟩
  unfold submitTask
  dsimp only
  split
  · have added := @slotView_accept_other
      (mid.setSlot slotId { state := .running, taskId := task.taskId }) slotId
      ⟨.submit, task.taskId, task.taskId, slotId⟩ (by rintro (type | type) <;> cases type)
    rw [based] at added
    have same : ((mid.setSlot slotId { state := .running, taskId := task.taskId }).accept
        ⟨.submit, task.taskId, task.taskId, slotId⟩).taskView task.taskId =
        mid.taskView task.taskId := taskView_accept (by rintro ⟨⟩)
    refine ⟨Function.update place task.taskId (.slot slotId), @Sound.moved runner _ place _ slotId _
      sound config (fun other apart => ?_) (fun other apart => ?_)
      ⟨?_, ?_, ?_, ?_⟩ ?_ (fun other there => absurd there (nowhere other))
      (fun other _ runs => absurd runs (idle other)) (fun other _ runs => ?_) (fun other => ?_)
      (fun _ ending => ?_) (fun there => absurd there live) (fun _ _ _ => .inl rfl) fun run' found => ?_⟩
    · exact (taskView_accept (by rintro ⟨⟩)).trans (tasks other apart)
    · rw [← slots other apart]
      ext1
      case run => exact Function.update_of_ne apart ..
      case context => exact Function.update_of_ne apart ..
      all_goals simp [slotView, accept, setSlot, requests, TtsRunner.teardowns]
    · exact (congrArg TaskView.popped same).trans popped
    · exact (congrArg TaskView.voice same).trans voice
    · exact (congrArg TaskView.allocation same).trans allocation
    · exact (congrArg TaskView.terminals same).trans terminals
    · have final : ∀ submitted, { (mid.setSlot slotId { state := .running, taskId := task.taskId }).accept
            ⟨.submit, task.taskId, task.taskId, slotId⟩ with
          runs := Function.update mid.runs slotId (some { taskId := task.taskId })
          submitted }.slotView slotId =
          { context := { state := .running, taskId := task.taskId }
            granted := true
            stops := []
            evicts := []
            teardowns := 0
            run := some { taskId := task.taskId } } := by
        intro submitted
        have context := congrArg SlotView.context added
        have granted := congrArg SlotView.granted added
        have noStops := (congrArg SlotView.stops added).trans stops
        have noEvicts := (congrArg SlotView.evicts added).trans evicts
        have noTeardowns := (congrArg SlotView.teardowns added).trans teardowns
        ext1
        · exact context
        · exact granted
        · exact noStops
        · exact noEvicts
        · exact noTeardowns
        · exact Function.update_self ..
      refine Eq.mpr (congrArg (SlotFits _ _) (final _)) ?_
      exact ⟨Nat.zero_le 1, fun some => absurd rfl some,
        fun _ => ⟨rfl, rfl, rfl, rfl, rfl, by rintro ⟨⟨⟩, _⟩⟩, fun no => absurd has no⟩
    · rw [show TtsRunner.slots _ slotId = _ from Function.update_self ..] at runs
      exact runs.2.symm
    · constructor
      · intro same
        cases same
        refine ⟨rfl, has, ?_⟩
        rw [show TtsRunner.slots _ slotId = _ from Function.update_self ..]
        exact ⟨.inl rfl, rfl⟩
      · rintro ⟨rfl, _⟩
        rfl
    · rw [show TtsRunner.slots _ slotId = _ from Function.update_self ..] at ending
      rcases ending with running | running <;> cases running
    · right
      rw [show TtsRunner.runs _ slotId = _ from Function.update_self ..] at found
      cases found
      exact ⟨rfl, live, nowhere⟩
  · refine ⟨_, @Leaving.finish runner _ place _ _ answers _ _ ?_⟩
    exact {
      sound := sound
      config := config
      tasks := tasks
      slots := fun other apart => (slotView_setSlot_other apart).trans (slots other apart)
      popped := popped
      voice := voice
      allocation := allocation
      terminals := terminals
      has := has
      granted := congrArg SlotView.granted based
      stops := (congrArg SlotView.stops based).trans stops
      evicts := (congrArg SlotView.evicts based).trans evicts
      teardowns := (congrArg SlotView.teardowns based).trans teardowns
      runs := by
        intro run' found
        rw [based] at found
        cases run.symm.trans found
      source := fun other there => absurd there (nowhere other)
      before := fun other runs => absurd runs (idle other)
      live := live
      names := congrArg (fun view => view.context.taskId) based }

theorem Sound.handleAllocateAck (type : response.type = .allocate) (may : runner.MayAnswer response)
    (orderly : runner.Orderly response) :
    ((runner.answered response).handleAllocateAck response answers).Consistent := by
  cases waits : runner.pendingAllocations response.requestId with
  | none => exact ⟨place, sound.grantEnded type may orderly waits⟩
  | some task =>
    obtain ⟨names, here, tasks, popped, voice, allocation, terminals⟩ := sound.takeAnswered waits
    have view := @slotView_answered runner response
    rw [type] at view
    dsimp only at view
    have found : (runner.answered response).pendingAllocations response.requestId =
        some task := by
      rw [← waits]
      unfold answered
      dsimp only
      repeat' split
      all_goals rfl
    unfold TtsRunner.handleAllocateAck
    rw [found]
    dsimp only
    have nowhere : ∀ other, place task.taskId ≠ .slot other := by
      rw [here]
      nofun
    have live : place task.taskId ≠ .finished := by
      rw [here]
      nofun
    split
    · rename_i failed
      rw [if_neg fun grants => failed.elim (fun error => error grants.2.1) grants.2.2] at view
      refine ⟨_, @Taken.finish runner _ place _ answers _ _ ?_⟩
      exact {
        sound := sound
        config := config_answered
        tasks := tasks
        slots := by
          intro other
          by_cases same : other = response.slotId
          · rw [same]
            exact view
          · exact slotView_answered_other same
        popped := popped
        voice := voice
        allocation := allocation
        terminals := terminals
        source := nowhere
        live := live }
    · rename_i fine
      have grants : response.Grants :=
        ⟨type, by_contra fun error => fine (.inl error), fun invalid => fine (.inr invalid)⟩
      obtain ⟨evicts, stops, teardowns, run, state⟩ := sound.ungranted (may.2 grants)
      rw [if_pos grants] at view
      have gone : (runner.answered response).runs response.slotId = none :=
        (congrArg SlotView.run view).trans run
      split
      · rename_i has
        have has := (hasSlot_iff config_answered _).mp has
        exact sound.grant has here tasks popped voice allocation terminals
          (fun other apart => slotView_answered_other apart) config_answered view
          ⟨evicts, stops, teardowns, run, state⟩
      · rename_i no
        have no : ¬ runner.HasSlot response.slotId :=
          fun has => no ((hasSlot_iff config_answered _).mpr has)
        have outside := (sound.slots response.slotId).outside no
        refine ⟨Function.update place task.taskId .finished, sound.moved
          (config_sendFinish.trans config_answered) (fun other apart => ?_)
          (fun other apart => ?_) ?_ ?_ (fun other there => absurd there (nowhere other))
          (fun other has => absurd has no) (fun other has => absurd has no)
          (fun other => ⟨nofun, fun both => absurd both.2.1 no⟩) (fun has => absurd has no)
          (fun there => absurd there live)
          (fun _ _ _ => .inr rfl) ?_⟩
        · rw [taskView_sendFinish, if_neg apart]
          exact tasks other apart
        · rw [slotView_sendFinish_none]
          exact slotView_answered_other apart
        · rw [taskView_sendFinish, if_pos rfl]
          exact ⟨popped, voice, allocation, rfl, by rw [terminals]⟩
        · rw [slotView_sendFinish_none]
          refine ⟨?_, fun _ => congrArg SlotView.granted view, fun has => absurd has no, fun _ => ?_⟩
          · exact Nat.le_trans (Nat.le_of_eq (congrArg (fun view => view.evicts.length) view))
              (sound.slots response.slotId).evicts
          · exact ⟨(congrArg SlotView.context view).trans outside.1,
              (congrArg SlotView.stops view).trans outside.2.1,
              (congrArg SlotView.teardowns view).trans outside.2.2.1, gone⟩
        · intro run' there
          have kept := congrArg SlotView.run (@slotView_sendFinish_none { runner.answered response with
            pendingAllocations := Function.update (runner.answered response).pendingAllocations
              response.requestId none } task.taskId response.slotId answers .error
            "TTS scheduler returned slot outside configured max users")
          rw [show TtsRunner.runs _ response.slotId = _ from kept] at there
          exact absurd (gone.symm.trans there) nofun

end

end InferenceServer.Tts.TtsRunner
