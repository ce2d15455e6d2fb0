import InferenceServer.Tts.TtsQuiet

/-! The steps that are quiet, and what the others do. -/
namespace InferenceServer.Tts

namespace TtsRunner

variable {runner mid next : TtsRunner} {place : Nat → Place} {taskId slotId : Nat}
  {answers : Answers} {response : SchedulerResponse} {completes : Nat → Prop} {label : Label}

theorem quiet_answered (ungranted : ¬ response.Grants) :
    Quiet completes runner (runner.answered response) := by
  have rest : (runner.answered response).sent = runner.sent ∧
      (runner.answered response).pendingTerminalMessages = runner.pendingTerminalMessages ∧
      (runner.answered response).slots = runner.slots ∧
      (runner.answered response).submitted = runner.submitted := by
    unfold answered
    dsimp only
    repeat' split
    all_goals exact ⟨rfl, rfl, rfl, rfl⟩
  obtain ⟨sent, pending, slots, submitted⟩ := rest
  have view := @slotView_answered runner response
  have here : (∀ run, (runner.answered response).runs response.slotId = some run →
        runner.runs response.slotId = some run) ∧
      ((runner.answered response).granted response.slotId = true →
        runner.granted response.slotId = true ∧
        (runner.answered response).requests .evict response.slotId =
          runner.requests .evict response.slotId) := by
    have runs : (runner.answered response).runs response.slotId = _ := congrArg SlotView.run view
    have granted : (runner.answered response).granted response.slotId = _ :=
      congrArg SlotView.granted view
    have evicts : (runner.answered response).requests .evict response.slotId = _ :=
      congrArg SlotView.evicts view
    rw [runs, granted, evicts]
    cases response.type with
    | allocate =>
      dsimp only
      rw [if_neg ungranted]
      exact ⟨fun _ => id, fun granted => ⟨granted, rfl⟩⟩
    | submit =>
      dsimp only
      split
      · exact ⟨nofun, fun granted => ⟨granted, rfl⟩⟩
      · exact ⟨fun _ => id, fun granted => ⟨granted, rfl⟩⟩
    | continue_ => exact ⟨fun _ => id, fun granted => ⟨granted, rfl⟩⟩
    | stop => exact ⟨nofun, fun granted => ⟨granted, rfl⟩⟩
    | evict => exact ⟨nofun, nofun⟩
  have quiet : Quiet completes runner { runner.answered response with
      runs := runner.runs
      granted := runner.granted
      outstanding := runner.outstanding } :=
    .same sent pending slots rfl submitted rfl fun _ => rfl
  exact { quiet with
    runs := by
      intro other run found
      by_cases same : other = response.slotId
      · subst same
        exact ⟨run, here.1 run found, rfl, id⟩
      · exact ⟨run, run_of_view (slotView_answered_other same) ▸ found, rfl, id⟩
    granted := by
      intro other now
      by_cases same : other = response.slotId
      · subst same
        exact (here.2 now).1
      · exact (congrArg SlotView.granted (slotView_answered_other same)).symm.trans now
    free := by
      intro other _ now
      rw [slots] at now
      exact now
    evicts := by
      intro other granted now
      by_cases same : other = response.slotId
      · subst same
        exact (here.2 granted).2.symm.trans now
      · exact (congrArg SlotView.evicts (slotView_answered_other same)).symm.trans now }

/-- An allocation that starts no run. -/
theorem quiet_handleAllocateAck (refused : answers.request = false ∨ ¬ runner.HasSlot
    response.slotId ∨ response.errorCode ≠ 0 ∨ response.slotId = invalidSlot ∨
    runner.pendingAllocations response.requestId = none) :
    Quiet completes runner (runner.handleAllocateAck response answers) := by
  unfold handleAllocateAck
  split
  · split
    · exact .waits ⟨[], (List.append_nil _).symm, nofun⟩ (fun _ done => .inl done) id (fun _ => .inl rfl) rfl rfl
        rfl ⟨_, rfl⟩
    · exact .refl
  · rename_i task waits
    have taken : Quiet completes runner { runner with
        pendingAllocations := Function.update runner.pendingAllocations response.requestId
          none } := .same rfl rfl rfl rfl rfl rfl fun _ => rfl
    dsimp only
    split
    · exact taken.then (quiet_ends nofun)
    · rename_i fine
      split
      · rename_i has
        have full : answers.request = false := by
          rcases refused with full | no | failed | invalid | gone
          · exact full
          · exact absurd has no
          · exact absurd (.inl failed) fine
          · exact absurd (.inr invalid) fine
          · exact absurd (gone.symm.trans waits) nofun
        unfold submitTask
        dsimp only
        rw [if_neg (by rw [full]; exact Bool.false_ne_true)]
        exact taken.then ((quiet_finishSlot has).mono fun _ done => absurd done.1 nofun)
      · exact taken.then (quiet_ends nofun)

theorem quiet_deliver {terminal : PendingTerminalMessage} {rest : List PendingTerminalMessage}
    (finishes : runner.PendingFinishes)
    (pending : runner.pendingTerminalMessages = terminal :: rest) :
    Quiet completes runner (({ runner with pendingTerminalMessages := rest }.send
      terminal.message).handleTerminalDelivered terminal answers) := by
  suffices sent : Quiet completes runner ({ runner with
      pendingTerminalMessages := rest }.send terminal.message) from
    sent.then quiet_handleTerminalDelivered
  refine .waits ?_ ?_ ?_ (fun _ => .inl rfl) rfl rfl rfl
    ⟨[], (List.append_nil _).symm⟩
  · obtain ⟨taskId, reason, error, message⟩ := finishes terminal (by rw [pending]; simp)
    exact ⟨[terminal.message], rfl, fun sent member =>
      ⟨taskId, reason, error, (List.mem_singleton.mp member).trans message⟩⟩
  · rintro other ⟨error, member⟩
    refine .inl ⟨error, ?_⟩
    simp only [send, List.append_assoc, List.singleton_append] at member
    rw [pending]
    exact member
  · intro _ later member
    refine finishes later ?_
    rw [pending]
    exact List.mem_cons_of_mem _ member

theorem quiet_next (stepped : runner.next = some next) : Quiet completes runner next := by
  unfold TtsRunner.next at stepped
  repeat' split at stepped
  all_goals
    cases stepped
    try exact .same rfl rfl rfl rfl rfl rfl fun _ => rfl

/-- The steps that put nothing out and start no run. -/
def IsQuiet : Label → Prop
  | .token _ _ | .audio _ _ => False
  | .response response _ => ¬ response.Grants
  | _ => True

theorem Sound.quiet_step (sound : runner.Sound place) (finishes : runner.PendingFinishes)
    (still : IsQuiet label) (stepped : runner.step label = some next) :
    Quiet completes runner next ∧
      next.produced = runner.produced ∧ next.refused = runner.refused := by
  have outputs : ∀ {view : OuterView}, next.outerView = view → view.produced = runner.produced →
      view.refused = runner.refused →
      next.produced = runner.produced ∧ next.refused = runner.refused :=
    fun same produced refused => ⟨(congrArg OuterView.produced same).trans produced,
      (congrArg OuterView.refused same).trans refused⟩
  cases does_of_step stepped with
  | token | audio => exact still.elim
  | putDone | putTask | putCancel | shutDown | begin | pressed | taskDone =>
    exact ⟨.same rfl rfl rfl rfl rfl rfl fun _ => rfl, rfl, rfl⟩
  | deliver pending =>
    exact ⟨quiet_deliver finishes pending, outputs outerView_handleTerminalDelivered rfl rfl⟩
  | @voiceResult result _ drained =>
    have before : Quiet completes runner { runner with
        phase := .voiceResults (drained + 1)
        encoding := runner.encoding.erase result.requestId } :=
      .same rfl rfl rfl rfl rfl rfl fun _ => rfl
    exact ⟨before.then quiet_handleVoiceEncodeResult,
      outputs outerView_handleVoiceEncodeResult rfl rfl⟩
  | @response response _ pressed drained =>
    have begun : Quiet completes runner { runner with phase := .responses pressed (drained + 1) } :=
      .same rfl rfl rfl rfl rfl rfl fun _ => rfl
    have before := begun.then (quiet_answered still)
    refine ⟨before.then ?_,
      outputs (outerView_handleSchedulerResponse.trans outerView_answered) rfl rfl⟩
    unfold handleSchedulerResponse
    cases type : response.type with
    | allocate =>
      refine quiet_handleAllocateAck (.inr (.inr ?_))
      by_contra fine
      simp only [not_or] at fine
      exact still ⟨type, by_contra fine.1, fine.2.1⟩
    | submit => exact quiet_handleSubmitAck
    | continue_ => exact .refl
    | stop => exact quiet_handleStopAck
    | evict =>
      refine quiet_cleanupSlot ?_
      have view := @slotView_answered
        { runner with phase := .responses pressed (drained + 1) } response
      rw [type] at view
      exact congrArg SlotView.granted view
  | @finalize _ _ rest phase =>
    have sound : { runner with phase := .finalizing rest }.Sound place :=
      sound.phase (by rw [phase]; rfl)
    rw [sound.finalize]
    exact ⟨.same rfl rfl rfl rfl rfl rfl fun _ => rfl, rfl, rfl⟩
  | @control _ pressed taskId rest =>
    have before : Quiet completes runner { runner with
        phase := .controls pressed rest
        drainedCancels := runner.drainedCancels ++ [taskId] } :=
      .same rfl rfl rfl rfl rfl rfl fun _ => rfl
    exact ⟨before.then quiet_handleControl, outputs outerView_handleControl rfl rfl⟩
  | @stop _ pressed _ rest =>
    have before : Quiet completes runner { runner with phase := .stops pressed rest } :=
      .same rfl rfl rfl rfl rfl rfl fun _ => rfl
    exact ⟨before.then quiet_requestStop, outputs outerView_requestStop rfl rfl⟩
  | @evict _ pressed _ rest =>
    have before : Quiet completes runner { runner with phase := .evicts pressed rest } :=
      .same rfl rfl rfl rfl rfl rfl fun _ => rfl
    exact ⟨before.then quiet_requestEvict, outputs outerView_requestEvict rfl rfl⟩
  | @task _ drained task rest =>
    have before : Quiet completes runner { runner with
        taskQueue := rest
        popped := runner.popped ++ [task.taskId]
        phase := .tasks (drained + 1) } :=
      .same rfl rfl rfl rfl rfl rfl fun _ => rfl
    exact ⟨before.then quiet_handleTask, outputs outerView_handleTask rfl rfl⟩
  | next drains =>
    refine ⟨quiet_next drains, ?_⟩
    unfold TtsRunner.next at drains
    repeat' split at drains
    all_goals
      cases drains
      try exact ⟨rfl, rfl⟩

/-- A slot that is granted to a task starts to run it. -/
structure Starts (runner : TtsRunner) (taskId slotId : Nat) (next : TtsRunner) : Prop where
  waits : ∃ task, runner.pendingAllocations taskId = some task ∧ task.taskId = taskId
  has : runner.HasSlot slotId
  sent : next.sent = runner.sent
  pending : next.pendingTerminalMessages = runner.pendingTerminalMessages
  slots : next.slots = Function.update runner.slots slotId { state := .running, taskId }
  runs : next.runs = Function.update runner.runs slotId (some { taskId })
  submitted : next.submitted.map TtsSubmit.taskId =
    runner.submitted.map TtsSubmit.taskId ++ [taskId]
  granted : next.granted = Function.update runner.granted slotId true
  evicts : ∀ other, next.requests .evict other = runner.requests .evict other
  produced : next.produced = runner.produced
  held : next.held taskId = (runner.pendingVoiceEncodes taskId, none)

theorem answered_of_grants (grants : response.Grants) : runner.answered response = { runner with
    outstanding := runner.outstanding.erase response.request
    granted := Function.update runner.granted response.slotId true } := by
  unfold answered
  dsimp only
  rw [grants.1]
  dsimp only
  rw [if_pos grants]

theorem evicts_of_grants (grants : response.Grants) {other : Nat} :
    (runner.answered response).requests .evict other = runner.requests .evict other := by
  rw [answered_of_grants grants]
  refine requests_erase_other fun both => ?_
  have type : response.type = .evict := both.1
  exact absurd (grants.1.symm.trans type) nofun

/-- A grant starts a run, or nothing but the grant itself is to be heard of it. -/
theorem Sound.starts (sound : runner.Sound place) (grants : response.Grants) :
    Quiet completes { runner with granted := Function.update runner.granted response.slotId true }
        ((runner.answered response).handleAllocateAck response answers) ∨
      answers.request = true ∧ runner.Starts response.requestId response.slotId
        ((runner.answered response).handleAllocateAck response answers) := by
  have taken := @answered_of_grants runner response grants
  have config := @config_answered runner response
  have evicts := fun other => @evicts_of_grants runner response grants other
  have before : Quiet completes
      { runner with granted := Function.update runner.granted response.slotId true }
      (runner.answered response) := by
    refine .same ?_ ?_ ?_ ?_ ?_ ?_ fun other => evicts other
    all_goals rw [taken]
  by_cases starts : answers.request = true ∧ runner.HasSlot response.slotId ∧
      runner.pendingAllocations response.requestId ≠ none
  · right
    obtain ⟨request, has, waits⟩ := starts
    obtain ⟨task, waits⟩ := Option.ne_none_iff_exists'.mp waits
    have names := (sound.allocating_of waits).2
    have found : (runner.answered response).pendingAllocations response.requestId = some task := by
      rw [taken]
      exact waits
    have fine : ¬ (response.errorCode ≠ 0 ∨ response.slotId = invalidSlot) := fun bad =>
      bad.elim (fun failed => failed grants.2.1) grants.2.2
    refine ⟨request, ?_⟩
    unfold TtsRunner.handleAllocateAck
    rw [found]
    dsimp only
    rw [if_neg fine]
    split
    · unfold submitTask
      dsimp only
      rw [if_pos request, taken, names]
      refine ⟨⟨task, waits, names⟩, has, rfl, rfl, rfl, rfl, ?_, rfl, fun other => ?_, rfl, ?_⟩
      · exact List.map_append
      · have still := evicts other
        rw [taken] at still
        rw [← still]
        simp [requests, accept, setSlot]
      · exact congrArg (runner.pendingVoiceEncodes response.requestId, ·)
          (Function.update_self ..)
    · rename_i no
      exact absurd ((hasSlot_iff config _).mpr has) no
  · left
    refine before.then (quiet_handleAllocateAck ?_)
    by_cases request : answers.request = true
    · by_cases has : runner.HasSlot response.slotId
      · have gone : runner.pendingAllocations response.requestId = none := by
          by_contra waits
          exact starts ⟨request, has, waits⟩
        refine .inr (.inr (.inr (.inr ?_)))
        rw [taken]
        exact gone
      · exact .inr (.inl fun there => has ((hasSlot_iff config _).mp there))
    · exact .inl (Bool.eq_false_iff.mpr request)

end TtsRunner
end InferenceServer.Tts
