import InferenceServer.Tts.TtsTerminals

/-! A slot that was granted is in use, or its eviction is under way. -/
namespace InferenceServer.Tts.TtsRunner

open Machine

variable {runner next : TtsRunner} {place : Nat → Place} {taskId slotId : Nat}
  {answers : Answers} {label : Label} {config : TtsConfig}

/-- A slot that the scheduler has granted and has no eviction of is not free. -/
def Held (runner : TtsRunner) (slotId : Nat) : Prop :=
  runner.granted slotId = true → runner.requests .evict slotId = [] →
    (runner.slots slotId).state ≠ .free

/-- The eviction of a slot that was granted too late is accepted, and the slot that a waiting task
is granted is one of the runner's. -/
def GrantsHold (runner : TtsRunner) : Label → Prop
  | .response response answers => response.Grants →
      (runner.pendingAllocations response.requestId = none → answers.evict = true) ∧
      (runner.pendingAllocations response.requestId ≠ none → runner.HasSlot response.slotId)
  | _ => True

instance (runner : TtsRunner) (label : Label) : Decidable (runner.GrantsHold label) :=
  match label with
  | .response _ _ => inferInstanceAs (Decidable (_ → _ ∧ _))
  | .putTask _ | .putCancel _ | .shutDown | .begin | .deliver _ | .pressed | .voiceResult _ _
  | .token _ _ | .audio _ _ | .finalize _ | .control _ | .stop _ | .evict _ | .task _ | .next =>
    .isTrue trivial

theorem Quiet.held {completes : Nat → Prop} (quiet : Quiet completes runner next)
    (held : runner.Held slotId) : next.Held slotId := fun granted evicts free =>
  held (quiet.granted slotId granted) (quiet.evicts slotId granted evicts)
    (quiet.free slotId granted free)

/-- What becomes of a slot that is granted. -/
theorem Held.of_grant {response : SchedulerResponse} (grants : response.Grants)
    (fits : runner.GrantsHold (.response response answers)) :
    ((runner.answered response).handleAllocateAck response answers).Held response.slotId := by
  obtain ⟨late, inTime⟩ := fits grants
  have taken := @answered_of_grants runner response grants
  have pending : (runner.answered response).pendingAllocations = runner.pendingAllocations := by
    rw [taken]
  unfold handleAllocateAck
  rw [pending]
  cases waits : runner.pendingAllocations response.requestId with
  | none =>
    dsimp only
    rw [if_pos ⟨grants.2.2, late waits⟩]
    intro _ none_
    rw [requests, accept, List.filter_append] at none_
    have absent := (List.append_eq_nil_iff.mp none_).2
    simp at absent
  | some task =>
    have has : (runner.answered response).HasSlot response.slotId :=
      (hasSlot_iff config_answered _).mpr (inTime (by rw [waits]; rintro ⟨⟩))
    have fine : ¬ (response.errorCode ≠ 0 ∨ response.slotId = invalidSlot) := fun bad =>
      bad.elim (fun failed => failed grants.2.1) grants.2.2
    dsimp only
    rw [if_neg fine]
    intro _ _
    split
    · unfold submitTask
      dsimp only
      split
      · rw [show TtsRunner.slots _ response.slotId = _ from Function.update_self ..]
        rintro ⟨⟩
      · refine (state_of_sendFinish ?_).2
        exact has
    · rename_i no
      exact absurd has no

/-- The flags of a slot are set, and the slot may be given up with them. -/
theorem Held.flags {context : SlotContext} {other : Nat} (held : runner.Held other)
    (state : context.state = (runner.slots slotId).state)
    (names : context.taskId = (runner.slots slotId).taskId) :
    ((runner.setSlot slotId context).maybeFinalizeCompletedSlot slotId answers).Held other :=
  quiet_maybeFinalizeCompletedSlot.held
    ((@quiet_flags _ _ (fun _ => True) _ state names).held held)

theorem Held.handleTokenOutput {output : TokenOutput} {other : Nat} (held : runner.Held other) :
    (runner.handleTokenOutput output answers).Held other := by
  unfold TtsRunner.handleTokenOutput
  split
  · exact held.flags rfl rfl
  · exact held

theorem Held.handleAudioOutput {output : AudioOutput} {other : Nat} (held : runner.Held other) :
    (runner.handleAudioOutput output answers).Held other := by
  have pushed : (runner.pushAudio output answers).Held other := by
    rcases @pushAudio_cases runner answers output with ⟨_, same⟩ | ⟨_, _, same⟩ | ⟨_, _, same⟩
    · rw [same]
      exact held
    · rw [same]
      exact held
    · rw [same]
      exact (@quiet_requestStop _ _ _ fun _ => True).held held
  unfold TtsRunner.handleAudioOutput
  split
  · dsimp only
    split
    · exact pushed.flags rfl rfl
    · exact pushed
  · exact held

theorem Held.step (sound : runner.Sound place) (finishes : runner.PendingFinishes)
    (fits : runner.GrantsHold label) (stepped : runner.step label = some next)
    (held : ∀ slotId, runner.Held slotId) (slotId : Nat) : next.Held slotId := by
  have still : IsQuiet label → next.Held slotId := fun still =>
    (@Sound.quiet_step _ _ _ (fun _ => True) _ sound finishes still stepped).1.held (held slotId)
  cases does_of_step stepped with
  | @response response answers pressed drained phase =>
    by_cases grants : response.Grants
    · have sound : { runner with phase := .responses pressed (drained + 1) }.Sound place :=
        sound.phase (by rw [phase]; rfl)
      unfold handleSchedulerResponse
      rw [grants.1]
      dsimp only
      by_cases here : slotId = response.slotId
      · rw [here]
        exact @Held.of_grant { runner with phase := .responses pressed (drained + 1) } _ _
          grants fits
      · rcases @Sound.starts _ _ answers _ (fun _ => True) sound grants with
          quiet | ⟨_, starts⟩
        · refine quiet.held ?_
          intro granted evicts
          refine held slotId ?_ evicts
          exact (Function.update_of_ne here ..).symm.trans granted
        · intro granted evicts
          rw [starts.granted, Function.update_of_ne here] at granted
          rw [starts.evicts] at evicts
          rw [starts.slots, Function.update_of_ne here]
          exact held slotId granted evicts
    · exact still grants
  | token => exact Held.handleTokenOutput (held slotId)
  | audio => exact Held.handleAudioOutput (held slotId)
  | putDone | putTask | putCancel | shutDown | begin | deliver | pressed | voiceResult | finalize
  | control | stop | evict | taskDone | task | next => exact still trivial

theorem PendingFinishes.handleTokenOutput {output : TokenOutput}
    (finishes : runner.PendingFinishes) : (runner.handleTokenOutput output answers).PendingFinishes := by
  unfold TtsRunner.handleTokenOutput
  split
  · exact quiet_maybeFinalizeCompletedSlot.pending finishes
  · exact finishes

theorem PendingFinishes.handleAudioOutput {output : AudioOutput}
    (finishes : runner.PendingFinishes) : (runner.handleAudioOutput output answers).PendingFinishes := by
  have pushed : (runner.pushAudio output answers).PendingFinishes := by
    rcases @pushAudio_cases runner answers output with ⟨_, same⟩ | ⟨_, _, same⟩ | ⟨_, _, same⟩
    · rw [same]
      exact finishes
    · rw [same]
      exact finishes
    · rw [same]
      exact (@quiet_requestStop _ _ _ fun _ => True).pending finishes
  unfold TtsRunner.handleAudioOutput
  split
  · dsimp only
    split
    · exact quiet_maybeFinalizeCompletedSlot.pending pushed
    · exact pushed
  · exact finishes

theorem PendingFinishes.step (finishes : runner.PendingFinishes) (sound : runner.Sound place)
    (stepped : runner.step label = some next) : next.PendingFinishes := by
  have still : IsQuiet label → next.PendingFinishes := fun still =>
    (@Sound.quiet_step _ _ _ (fun _ => True) _ sound finishes still stepped).1.pending finishes
  cases does_of_step stepped with
  | @response response answers pressed drained phase =>
    by_cases grants : response.Grants
    · have sound : { runner with phase := .responses pressed (drained + 1) }.Sound place :=
        sound.phase (by rw [phase]; rfl)
      unfold handleSchedulerResponse
      rw [grants.1]
      dsimp only
      rcases @Sound.starts _ _ answers _ (fun _ => True) sound grants with
        quiet | ⟨_, starts⟩
      · exact quiet.pending finishes
      · intro terminal member
        rw [starts.pending] at member
        exact finishes terminal member
    · exact still grants
  | token => exact PendingFinishes.handleTokenOutput finishes
  | audio => exact PendingFinishes.handleAudioOutput finishes
  | putDone | putTask | putCancel | shutDown | begin | deliver | pressed | voiceResult | finalize
  | control | stop | evict | taskDone | task | next => exact still trivial

/-- In every run whose responses come in order, in which the eviction of a slot that is granted
too late is accepted and a waiting task is granted only slots of the runner: a granted slot has an
eviction accepted, or runs its task, or waits for a stop, or for one eviction that the runner
remembers; and an eviction that is accepted is for a slot whose task has ended. -/
theorem grants_remembered (reached : Reaches step
      (fun runner label => runner.AnswersInOrder label ∧ runner.GrantsHold label)
      (create config) runner) :
    (∀ slotId, runner.granted slotId = true → runner.requests .evict slotId = [] →
      runner.HasSlot slotId ∧
      ((runner.slots slotId).state = .running ∨ (runner.slots slotId).state = .awaitingStopAck ∨
        (runner.slots slotId).state = .awaitingTerminalDelivery ∧
          runner.teardowns slotId = 1)) ∧
    (∀ slotId, runner.requests .evict slotId ≠ [] → runner.HasSlot slotId →
      (runner.slots slotId).state = .free ∨ (runner.slots slotId).state = .awaitingEvictAck ∧
        runner.terminals (runner.slots slotId).taskId = 1) := by
  have whole : runner.Consistent ∧ runner.Queued ∧ runner.PendingFinishes ∧
      ∀ slotId, runner.Held slotId := by
    refine reached.invariant (fun runner => runner.Consistent ∧ runner.Queued ∧
      runner.PendingFinishes ∧ ∀ slotId, runner.Held slotId) ⟨consistent_create config,
        ⟨nofun, List.Pairwise.nil, nofun⟩, nofun, fun _ granted => by cases granted⟩ ?_
    intro _ _ _ ⟨consistent, queued, finishes, held⟩ ⟨orderly, fits⟩ stepped
    obtain ⟨place, sound⟩ := consistent
    exact ⟨Consistent.step ⟨place, sound⟩ queued orderly stepped, queued.step stepped,
      finishes.step sound stepped, Held.step sound finishes fits stepped held⟩
  obtain ⟨⟨place, sound⟩, _, _, held⟩ := whole
  refine ⟨fun slotId granted none_ => ?_, fun slotId some_ has => ?_⟩
  · have busy := held slotId granted none_
    have has := sound.has_of_state busy
    have inside := (sound.slots slotId).inside has
    refine ⟨has, ?_⟩
    unfold StateFits at inside
    split at inside
    case h_1 state => exact absurd state busy
    case h_2 state => exact .inl state
    case h_3 state => exact .inr (.inl state)
    case h_4 state => exact .inr (.inr ⟨state, inside.2.2.2⟩)
    case h_5 state =>
      have one := inside.2.2.1
      rw [show (runner.slotView slotId).evicts = [] from none_] at one
      cases one
  · have inside := (sound.slots slotId).inside has
    unfold StateFits at inside
    split at inside
    case h_1 state => exact .inl state
    case h_2 => exact absurd inside.2.2.1 some_
    case h_3 => exact absurd inside.2.2.1 some_
    case h_4 => exact absurd inside.2.2.1 some_
    case h_5 state =>
      have fits := sound.tasks (runner.slots slotId).taskId
      rw [sound.ended slotId has (.inr state)] at fits
      exact .inr ⟨state, fits.2.2.2.2⟩

theorem oneTask_granted_runs : (runWithin step
    (fun runner label => runner.AnswersInOrder label ∧ runner.GrantsHold label)
    (create small) (oneTask {} [])).isSome = true := by
  decide +kernel

theorem grants_remembered_oneTask :
    ((runWithin step (fun runner label => runner.AnswersInOrder label ∧ runner.GrantsHold label)
      (create small) (oneTask {} [])).get oneTask_granted_runs).terminals 7 = 1 := by
  have ended := (grants_remembered (reaches_get oneTask_granted_runs)).2 0 (by decide +kernel)
    (by decide +kernel)
  have busy : (((runWithin step (fun runner label => runner.AnswersInOrder label ∧
      runner.GrantsHold label) (create small) (oneTask {} [])).get
      oneTask_granted_runs).slots 0) = ⟨.awaitingEvictAck, 7, false, false⟩ := by decide +kernel
  rw [busy] at ended
  exact ended.elim (fun free => by cases free) And.right

/-- A task is cancelled while it waits for a slot. The grant comes later, and the scheduler is too
full for the eviction. -/
def lateGrant : List Label :=
  .putTask { taskId := 7, promptTokens := [1] } :: stepWith [] [] [] [] [.task {}] ++
    [.putCancel 7, .begin, .next, .next, .next, .next, .next, .finalize {}, .next, .control {},
      .next, .next, .next, .next] ++
    stepWith [.response ⟨.allocate, 7, 7, 0, 0, ""⟩ { evict := false }] [] [] [] []

theorem lateGrant_runs : (runWithin step AnswersInOrder (create small) lateGrant).isSome =
    true := by
  decide +kernel

/-- The slot stays granted, and nothing is left of it. -/
theorem grant_forgotten :
    ((runWithin step AnswersInOrder (create small) lateGrant).get lateGrant_runs).granted 0 =
      true ∧
    ((runWithin step AnswersInOrder (create small) lateGrant).get lateGrant_runs).slots 0 = {} ∧
    ((runWithin step AnswersInOrder (create small) lateGrant).get lateGrant_runs).outstanding =
      [] ∧
    ((runWithin step AnswersInOrder (create small) lateGrant).get
      lateGrant_runs).deferredEvictSlots = [] ∧
    ((runWithin step AnswersInOrder (create small) lateGrant).get
      lateGrant_runs).pendingTerminalMessages = [] ∧
    ((runWithin step AnswersInOrder (create small) lateGrant).get lateGrant_runs).phase =
      .idle := by
  decide +kernel

end InferenceServer.Tts.TtsRunner
