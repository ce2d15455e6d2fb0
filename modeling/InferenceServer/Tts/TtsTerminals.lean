import InferenceServer.Tts.TtsStreams

/-! Every task that was popped ends once, after its chunks, and whole where it says so. -/
namespace InferenceServer.Tts.TtsRunner

open Machine

variable {runner next : TtsRunner} {taskId slotId : Nat} {answers : Answers} {label : Label}
  {config : TtsConfig}

theorem Delivered.step (delivered : runner.Delivered) (consistent : runner.Consistent)
    (queued : runner.Queued) (orderly : runner.AnswersInOrder label)
    (holds : runner.ChunksHold label) (stepped : runner.step label = some next) :
    next.Delivered := by
  have settled : ∀ taskId, runner.Settled taskId → next.Settled taskId :=
    fun taskId settled => settled.step consistent queued stepped
  have later := consistent.step queued orderly stepped
  obtain ⟨place, sound⟩ := consistent
  have still : IsQuiet label → next.Delivered := by
    intro still
    obtain ⟨quiet, outputs⟩ := sound.quiet_step delivered.pending still stepped
    exact @Delivered.quiet _ _ (fun _ => False) delivered quiet outputs settled fun _ no => no.elim
  cases does_of_step stepped with
  | @response response answers pressed drained phase =>
    by_cases grants : response.Grants
    · have sound : { runner with phase := .responses pressed (drained + 1) }.Sound place :=
        sound.phase (by rw [phase]; rfl)
      unfold handleSchedulerResponse at settled later ⊢
      rw [grants.1] at settled later ⊢
      dsimp only at settled later ⊢
      have outer := (@outerView_handleAllocateAck
        ({ runner with phase := .responses pressed (drained + 1) }.answered response) answers
        response).trans outerView_answered
      have based : { runner with phase := .responses pressed (drained + 1) }.Delivered :=
        ⟨delivered.unsubmitted, delivered.runs, delivered.settled, delivered.running,
          delivered.completed, delivered.pending, delivered.ordered⟩
      rcases @Sound.starts _ _ answers _ (fun _ => False) sound grants with
        quiet | ⟨_, starts⟩
      · have granted : TtsRunner.Delivered { runner with
            phase := .responses pressed (drained + 1)
            granted := Function.update runner.granted response.slotId true } :=
          ⟨delivered.unsubmitted, delivered.runs, delivered.settled, delivered.running,
            delivered.completed, delivered.pending, delivered.ordered⟩
        exact granted.quiet quiet ⟨congrArg OuterView.produced outer,
          congrArg OuterView.refused outer⟩ settled fun _ no => no.elim
      · refine based.starts sound starts (congrArg OuterView.refused outer) settled ?_
        obtain ⟨task, waits, _⟩ := starts.waits
        have fits := sound.tasks response.requestId
        rw [(sound.allocating_of waits).1] at fits
        have popped := congrArg OuterView.popped outer
        rw [show TtsRunner.popped _ = _ from popped]
        exact List.count_pos_iff.mp (Nat.lt_of_lt_of_eq Nat.zero_lt_one fits.1.symm)
    · exact still grants
  | token _ found => exact delivered.token sound found holds
  | audio _ found same fresh => exact delivered.audio sound found same fresh holds rfl rfl
  | putDone | putTask | putCancel | shutDown | begin | deliver | pressed | voiceResult | finalize
  | control | stop | evict | taskDone | task | next => exact still trivial

theorem delivered_create (config : TtsConfig) : (create config).Delivered :=
  ⟨fun _ _ => ⟨rfl, rfl⟩, nofun, nofun, nofun, fun _ ⟨_, member⟩ => (nomatch member), nofun,
    List.Pairwise.nil⟩

/-- The scheduler owes nothing, and nothing waits for the audio queue. -/
structure AtRest (runner : TtsRunner) : Prop where
  encoding : runner.encoding = []
  outstanding : runner.outstanding = []
  runs : ∀ slotId run, runner.runs slotId = some run → run.final = true ∧ run.last = true
  pending : runner.pendingTerminalMessages = []

/-- A task that has not ended when all is at rest was never popped. -/
theorem Sound.ended_of_rest {place : Nat → Place} (sound : runner.Sound place) (rest : runner.AtRest)
    (popped : taskId ∈ runner.popped) : runner.sent.countP (Message.finishes taskId) = 1 := by
  have fits := sound.tasks taskId
  have counted : (runner.taskView taskId).popped ≠ 0 :=
    Nat.ne_of_gt (List.count_pos_iff.mpr popped)
  cases here : place taskId with
  | unseen =>
    rw [here] at fits
    exact absurd fits.1 counted
  | encoding =>
    rw [here] at fits
    obtain ⟨_, ⟨task, waits, _⟩, _, _, encodes⟩ := fits
    have waits : runner.pendingVoiceEncodes taskId = some task := waits
    simp only [taskView, waits, rest.encoding, Option.elim_some, List.count_nil] at encodes
    omega
  | allocating =>
    rw [here] at fits
    obtain ⟨_, _, ⟨task, waits, _⟩, _, allocates⟩ := fits
    have waits : runner.pendingAllocations taskId = some task := waits
    simp only [taskView, waits, rest.outstanding, Option.elim_some, List.count_nil] at allocates
    omega
  | slot slotId =>
    obtain ⟨has, runs⟩ := (sound.linked slotId taskId).mp here
    have inside := (sound.slots slotId).inside has
    unfold StateFits at inside
    rcases runs.1 with running | stopping
    · obtain ⟨_, _, _, _, _, now, unfinished⟩ := sound.running_of ⟨has, running⟩
      exact absurd (rest.runs slotId _ now) unfinished
    · have state : (runner.slotView slotId).context.state = .awaitingStopAck := stopping
      rw [state] at inside
      have stops := inside.2.1
      simp only [slotView, requests, rest.outstanding, List.filter_nil] at stops
      cases stops
  | finished =>
    rw [here] at fits
    have terminals : runner.terminals taskId = 1 := fits.2.2.2.2
    unfold TtsRunner.terminals at terminals
    rw [rest.pending] at terminals
    exact terminals

/-- In every run whose responses come in order and in which no output completes a run of whose
chunks the full audio queue has refused one: a task that was popped has one terminal message at
most, and has it when all is at rest; no chunk comes after it; it says that the task is complete
only if all chunks were sent, in order; and only tasks without it are still in hand. -/
theorem tasks_end_once (reached : Reaches step
      (fun runner label => runner.AnswersInOrder label ∧ runner.ChunksHold label)
      (create config) runner) :
    (∀ taskId, runner.terminals taskId ≤ 1) ∧
    (∀ taskId, runner.terminals taskId ≠ 0 → taskId ∈ runner.popped) ∧
    (runner.AtRest → ∀ taskId ∈ runner.popped,
      runner.sent.countP (Message.finishes taskId) = 1) ∧
    (runner.sent.Pairwise fun earlier later =>
      ∀ taskId, earlier.finishes taskId = true → later.belongs taskId = false) ∧
    (∀ taskId error, .finish taskId .completed error ∈ runner.sent →
      runner.chunks taskId = runner.produced taskId) ∧
    (∀ taskId, runner.conditioningByTask taskId = true ∨
      runner.pendingVoiceEncodes taskId ≠ none ∨ runner.pendingAllocations taskId ≠ none →
      taskId ∈ runner.popped ∧ runner.terminals taskId = 0) := by
  have whole : runner.Consistent ∧ runner.Queued ∧ runner.Delivered := by
    refine reached.invariant (fun runner => runner.Consistent ∧ runner.Queued ∧ runner.Delivered)
      ⟨consistent_create config, ⟨nofun, List.Pairwise.nil, nofun⟩, delivered_create config⟩ ?_
    intro _ _ _ ⟨consistent, queued, delivered⟩ ⟨orderly, holds⟩ stepped
    exact ⟨consistent.step queued orderly stepped, queued.step stepped,
      delivered.step consistent queued orderly holds stepped⟩
  obtain ⟨⟨place, sound⟩, queued, delivered⟩ := whole
  have popped : ∀ taskId, (runner.taskView taskId).popped = 1 → taskId ∈ runner.popped :=
    fun taskId once => List.count_pos_iff.mp (Nat.lt_of_lt_of_eq Nat.zero_lt_one once.symm)
  have terminals : ∀ taskId, runner.terminals taskId ≠ 0 → place taskId = .finished ∧
      taskId ∈ runner.popped ∧ runner.terminals taskId = 1 := by
    intro taskId some_
    have fits := sound.tasks taskId
    cases here : place taskId with
    | finished =>
      rw [here] at fits
      exact ⟨rfl, popped taskId fits.1, fits.2.2.2.2⟩
    | unseen =>
      rw [here] at fits
      exact absurd fits.2.2.2.2 some_
    | encoding | allocating =>
      rw [here] at fits
      exact absurd fits.2.2.2.1 some_
    | slot =>
      rw [here] at fits
      exact absurd fits.2.2.2 some_
  refine ⟨fun taskId => ?_, fun taskId some_ => (terminals taskId some_).2.1,
    fun rest taskId => sound.ended_of_rest rest, delivered.ordered, fun taskId error member => ?_,
    fun taskId inHand => ?_⟩
  · by_cases none_ : runner.terminals taskId = 0
    · rw [none_]
      exact Nat.zero_le 1
    · exact Nat.le_of_eq (terminals taskId none_).2.2
  · exact (delivered.completed taskId ⟨error, List.mem_append_left _ member⟩).1
  · have fits := sound.tasks taskId
    change (runner.taskView taskId).conditioning = true ∨ (runner.taskView taskId).voice ≠ none ∨
      (runner.taskView taskId).allocation ≠ none at inHand
    cases here : place taskId with
    | unseen =>
      rw [here] at fits
      rw [fits.2.1, fits.2.2.1, fits.2.2.2.1] at inHand
      simp at inHand
    | finished =>
      rw [here] at fits
      rw [fits.2.1, fits.2.2.1, fits.2.2.2.1] at inHand
      simp at inHand
    | encoding | allocating =>
      rw [here] at fits
      exact ⟨popped taskId fits.1, fits.2.2.2.1⟩
    | slot =>
      rw [here] at fits
      exact ⟨popped taskId fits.1, fits.2.2.2⟩

/-- One user, small queues, and a prompt that compiles to one token. -/
def small : TtsConfig where
  maxUsers := 1
  taskQueueCapacity := 2
  audioQueueCapacity := 2
  voiceSampleCacheSize := 0
  compilePromptTokens _ _ _ := .ok [1]

/-- A step in which nothing is there to be drained but what is put in at the given place. -/
def stepWith (responses tokens audio stops tasks : List Label) : List Label :=
  [.begin, .next, .next] ++ responses ++ [.next] ++ tokens ++ [.next] ++ audio ++
    [.next, .finalize {}, .next, .next] ++ stops ++ [.next, .next] ++ tasks ++ [.next]

/-- A task is put, popped and granted slot 0; its run puts out a token and a chunk, the last of
each, of which the audio queue and the scheduler answer as given. -/
def oneTask (answers : Answers) (stops : List Label) : List Label :=
  .putTask { taskId := 7, promptTokens := [1] } :: stepWith [] [] [] [] [.task {}] ++
    stepWith [.response ⟨.allocate, 7, 7, 0, 0, ""⟩ {}] [.token ⟨7, 0, 5, true⟩ {}]
      [.audio ⟨7, 0, 0, [3], 24000, 1, true⟩ answers] stops []

instance (runner : TtsRunner) (label : Label) : Decidable (runner.ChunksHold label) :=
  match label with
  | .token _ _ => inferInstanceAs (Decidable (_ → _ → _ → _))
  | .audio _ _ => inferInstanceAs (Decidable (_ → _ → _ → _))
  | .putTask _ | .putCancel _ | .shutDown | .begin | .deliver _ | .pressed | .voiceResult _ _
  | .response _ _ | .finalize _ | .control _ | .stop _ | .evict _ | .task _ | .next =>
    .isTrue trivial

theorem oneTask_runs : (runWithin step
    (fun runner label => runner.AnswersInOrder label ∧ runner.ChunksHold label)
    (create small) (oneTask {} [])).isSome = true := by
  decide +kernel

theorem tasks_end_once_oneTask :
    (((runWithin step (fun runner label => runner.AnswersInOrder label ∧ runner.ChunksHold label)
      (create small) (oneTask {} [])).get oneTask_runs).terminals 7 ≤ 1) ∧
    (((runWithin step (fun runner label => runner.AnswersInOrder label ∧ runner.ChunksHold label)
      (create small) (oneTask {} [])).get oneTask_runs).chunks 7 =
      [.chunk 7 0 24000 1 [3]]) :=
  ⟨(tasks_end_once (reaches_get oneTask_runs)).1 7, by decide +kernel⟩

theorem oneTask_refused_runs : (runWithin step AnswersInOrder (create small)
    (oneTask { request := false, chunk := false } [.stop {}])).isSome = true := by
  decide +kernel

/-- The chunk is lost, and the task is said to be complete. -/
theorem completed_without_chunk :
    .finish 7 .completed "" ∈ ((runWithin step AnswersInOrder (create small)
      (oneTask { request := false, chunk := false } [.stop {}])).get oneTask_refused_runs).sent ∧
    ((runWithin step AnswersInOrder (create small)
      (oneTask { request := false, chunk := false } [.stop {}])).get oneTask_refused_runs).produced 7 =
      [.chunk 7 0 24000 1 [3]] ∧
    ((runWithin step AnswersInOrder (create small)
      (oneTask { request := false, chunk := false } [.stop {}])).get oneTask_refused_runs).chunks 7 = [] := by
  decide +kernel

end InferenceServer.Tts.TtsRunner
