import InferenceServer.Tts.TtsGrants
import InferenceServer.Tts.TtsService

/-! The service and one runner, which share their queues. What the service pushes the runner pops,
and what the runner sends goes to the audio loop. -/
namespace InferenceServer.Tts

open Machine

structure TtsServed where
  service : TtsService
  runner : TtsRunner

inductive ServedLabel
  | service (label : ServiceLabel)
  | runner (label : Label)
  deriving DecidableEq

namespace TtsServed

/-- What a step of the service puts on the queues of the runner. -/
def pushes (service : TtsService) : ServiceLabel → Option Label
  | .push task true => some (.putTask task)
  | .stop => if service.running then some (.putTask { taskId := 0, done := true }) else none
  | .cancelNext index true => match service.cancelling[index]? with
    | some cancelling => if cancelling.queue < service.workers then
        some (.putCancel cancelling.taskId) else none
    | none => none
  | _ => none

/-- What the service sees of a step of its runner: the tasks it has left in the queue, and the
messages it has sent. -/
def sees (service : TtsService) (before after : TtsRunner) : TtsService :=
  let sent := after.sent.drop before.sent.length
  { service with
    taskQueue := after.taskQueue
    cancelQueues := fun _ => after.cancelQueue
    worker := fun taskId => if taskId ∈ after.popped then some 0 else none
    audioQueues := Function.update service.audioQueues 0
      (service.audioQueues 0 ++ sent.map some)
    put := service.put ++ sent }

/-- The labels of the service that its workers take. -/
def byWorker : ServiceLabel → Bool
  | .takeTask _ | .takeCancel _ | .put _ _ => true
  | _ => false

/-- The labels of the runner that the service takes. -/
def byService : Label → Bool
  | .putTask _ | .putCancel _ => true
  | _ => false

variable (served : TtsServed)

/-- A step of the service, with what it pushes. -/
def serve (label : ServiceLabel) : Option TtsServed :=
  match served.service.step label, pushes served.service label with
  | none, _ => none
  | some service, none => some { served with service }
  | some service, some pushed =>
    (served.runner.step pushed).map fun runner => { service, runner }

/-- A step of the runner, as the service sees it. -/
def run (label : Label) : Option TtsServed :=
  (served.runner.step label).map fun runner =>
    { service := sees served.service served.runner runner, runner }

def step : ServedLabel → Option TtsServed
  | .service label => if byWorker label then none else served.serve label
  | .runner label => if byService label then none else served.run label

/-- The service with one worker and its runner. -/
def start (config : TtsConfig) : TtsServed where
  service := TtsService.start config 1
  runner := TtsRunner.create config

/-- The responses come in order, and a cancel of an accepted request is drained after its task was
popped. -/
def Meets : ServedLabel → Prop
  | .runner (.control _) =>
    match served.runner.phase with
    | .controls _ (taskId :: _) => served.service.generating taskId = .returned true →
        taskId ∈ served.runner.popped
    | _ => True
  | .runner label => served.runner.AnswersInOrder label
  | .service _ => True

end TtsServed

namespace TtsRunner

variable {runner next : TtsRunner} {place : Nat → Place} {taskId : Nat} {answers : Answers}
  {label : Label}

/-- A cancel that is drained leaves nothing of its task to wait. -/
theorem Sound.held_of_handleControl (sound : runner.Sound place) :
    (runner.handleControl taskId answers).held taskId = (none, none) := by
  unfold TtsRunner.handleControl
  split
  · rename_i waits
    obtain ⟨task, waits⟩ := Option.isSome_iff_exists.mp waits
    have allocation := (sound.encoding_of waits).2.2
    dsimp only
    rw [sendFinish_voice, held_sendFinish]
    exact Prod.ext (Function.update_self ..) allocation
  · rename_i waits
    have voice : runner.pendingVoiceEncodes taskId = none := by
      simpa using waits
    split
    · rename_i slotId found
      rw [held_requestStop]
      refine Prod.ext voice ?_
      -- A task that has a slot, or had one, waits for none.
      have here := List.find?_some found
      have inside := List.mem_range.mp (List.mem_of_find?_eq_some found)
      obtain ⟨busy, names⟩ := of_decide_eq_true here
      have has := sound.has_of_state busy
      cases waits : runner.pendingAllocations taskId with
      | none => exact waits
      | some task =>
        have there := (sound.allocating_of waits).1
        cases state : (runner.slots slotId).state with
        | free => exact absurd state busy
        | running =>
          have placed := (sound.task_of_runs has ⟨.inl state, names⟩).1
          exact absurd (there.symm.trans placed) nofun
        | awaitingStopAck =>
          have placed := (sound.task_of_runs has ⟨.inr state, names⟩).1
          exact absurd (there.symm.trans placed) nofun
        | awaitingTerminalDelivery =>
          have ended := sound.ended slotId has (.inl state)
          rw [names] at ended
          exact absurd (there.symm.trans ended) nofun
        | awaitingEvictAck =>
          have ended := sound.ended slotId has (.inr state)
          rw [names] at ended
          exact absurd (there.symm.trans ended) nofun
    · split
      · rename_i task _
        refine Prod.ext ?_ (Function.update_self ..)
        have kept := congrFun (@held_sendFinish runner task.taskId answers .cancelled "" none)
          taskId
        exact (congrArg Prod.fst kept).trans voice
      · rename_i none_
        exact Prod.ext voice none_

/-- How often a task was submitted. -/
def submissions (runner : TtsRunner) (taskId : Nat) : Nat :=
  (runner.submitted.map TtsSubmit.taskId).count taskId

theorem submitted_handleTokenOutput {output : TokenOutput} :
    (runner.handleTokenOutput output answers).submitted = runner.submitted := by
  unfold handleTokenOutput
  split
  · exact quiet_maybeFinalizeCompletedSlot.submitted
  · rfl

theorem submitted_handleAudioOutput {output : AudioOutput} :
    (runner.handleAudioOutput output answers).submitted = runner.submitted := by
  have pushed : (runner.pushAudio output answers).submitted = runner.submitted := by
    rcases @pushAudio_cases runner answers output with ⟨_, same⟩ | ⟨_, _, same⟩ | ⟨_, _, same⟩
    · rw [same]
    · rw [same]
      rfl
    · rw [same]
      exact (@quiet_requestStop _ _ _ fun _ => True).submitted
  unfold handleAudioOutput
  split
  · dsimp only
    split
    · exact quiet_maybeFinalizeCompletedSlot.submitted.trans pushed
    · exact pushed
  · rfl

/-- A task that waits for nothing is not submitted. -/
theorem Settled.submissions (settled : runner.Settled taskId) (sound : runner.Sound place)
    (finishes : runner.PendingFinishes) (stepped : runner.step label = some next) :
    next.submissions taskId = runner.submissions taskId := by
  have same : next.submitted = runner.submitted →
      next.submissions taskId = runner.submissions taskId := by
    intro same
    rw [TtsRunner.submissions, same]
    rfl
  have still : IsQuiet label → next.submissions taskId = runner.submissions taskId := fun still =>
    same (@TtsRunner.Sound.quiet_step _ _ _ (fun _ => True) _ sound finishes still stepped).1.submitted
  cases TtsRunner.does_of_step stepped with
  | @response response answers pressed drained phase =>
    by_cases grants : response.Grants
    · have sound : { runner with phase := .responses pressed (drained + 1) }.Sound place :=
        sound.phase (by rw [phase]; rfl)
      unfold handleSchedulerResponse at same ⊢
      rw [grants.1] at same ⊢
      dsimp only at same ⊢
      rcases @TtsRunner.Sound.starts _ _ answers _ (fun _ => True) sound grants with
        quiet | ⟨_, starts⟩
      · exact same quiet.submitted
      · obtain ⟨task, waits, _⟩ := starts.waits
        have apart : response.requestId ≠ taskId := by
          rintro rfl
          have held := congrArg Prod.snd settled.2
          exact absurd (held.symm.trans waits) nofun
        rw [TtsRunner.submissions, starts.submitted, List.count_append,
          List.count_singleton, if_neg (by simpa using apart)]
        rfl
    · exact still grants
  | token => exact same submitted_handleTokenOutput
  | audio => exact same submitted_handleAudioOutput
  | putDone | putTask | putCancel | shutDown | begin | deliver | pressed | voiceResult | finalize
  | control | stop | evict | taskDone | task | next => exact still trivial

end TtsRunner

namespace TtsServed

variable {served next after final : TtsServed} {config : TtsConfig} {taskId : Nat}
  {answers : Answers} {label : ServedLabel}

/-- A step is no step of the runner, or one whose response comes in order. -/
theorem runner_of_step (meets : served.Meets label) (stepped : served.step label = some next) :
    next.runner = served.runner ∨ ∃ taken, served.runner.AnswersInOrder taken ∧
      served.runner.step taken = some next.runner := by
  cases label with
  | service label =>
    dsimp only [step] at stepped
    split at stepped
    · cases stepped
    · unfold serve at stepped
      split at stepped
      · cases stepped
      · cases stepped
        exact .inl rfl
      · rename_i pushed _ same
        obtain ⟨runner, moved, rfl⟩ := Option.map_eq_some_iff.mp stepped
        refine .inr ⟨pushed, ?_, moved⟩
        unfold pushes at same
        repeat' split at same
        all_goals
          cases same
          try exact trivial
  | runner label =>
    dsimp only [step] at stepped
    split at stepped
    · cases stepped
    · obtain ⟨runner, moved, rfl⟩ := Option.map_eq_some_iff.mp stepped
      refine .inr ⟨label, ?_, moved⟩
      cases label with
      | response response answers => exact meets
      | putTask | putCancel | shutDown | begin | deliver | pressed | voiceResult | token | audio
      | finalize | control | stop | evict | task | next => exact trivial

/-- The runner of a run of both is in a run of its own. -/
theorem runner_of_reaches {first last : TtsServed} (reached : Reaches step Meets first last) :
    Reaches TtsRunner.step TtsRunner.AnswersInOrder first.runner last.runner := by
  induction reached with
  | refl => exact .refl
  | tail _ meets stepped ih =>
    rcases runner_of_step meets stepped with same | ⟨taken, orderly, moved⟩
    · rw [same]
      exact ih
    · exact .tail ih orderly moved

/-- What the runner keeps in every run. -/
structure Kept (runner : TtsRunner) : Prop where
  consistent : runner.Consistent
  queued : runner.Queued
  finishes : runner.PendingFinishes

theorem Kept.step {runner next : TtsRunner} {label : Label} (kept : Kept runner)
    (orderly : runner.AnswersInOrder label) (stepped : runner.step label = some next) :
    Kept next := by
  obtain ⟨place, sound⟩ := kept.consistent
  exact ⟨kept.consistent.step kept.queued orderly stepped, kept.queued.step stepped,
    kept.finishes.step sound stepped⟩

theorem kept_of_reaches (reached : Reaches TtsRunner.step TtsRunner.AnswersInOrder
    (TtsRunner.create config) served.runner) : Kept served.runner :=
  reached.invariant Kept ⟨TtsRunner.consistent_create config, ⟨nofun, List.Pairwise.nil, nofun⟩,
    nofun⟩ fun _ _ _ kept orderly stepped => kept.step orderly stepped

/-- In every run of the service and its runner in which a cancel of an accepted request is drained
after its task was popped: once the runner has drained the cancel, the task is not submitted. -/
theorem cancelled_not_submitted {pressed : Bool} {rest : List Nat}
    (reached : Reaches step Meets (start config) served)
    (accepted : served.service.generating taskId = .returned true)
    (cancelled : served.runner.phase = .controls pressed (taskId :: rest))
    (meets : served.Meets (.runner (.control answers)))
    (drained : served.step (.runner (.control answers)) = some after)
    (later : Reaches step Meets after final) :
    final.runner.submissions taskId = served.runner.submissions taskId := by
  have kept := kept_of_reaches (runner_of_reaches reached)
  obtain ⟨place, sound⟩ := kept.consistent
  have popped : taskId ∈ served.runner.popped := by
    dsimp only [Meets] at meets
    rw [cancelled] at meets
    exact meets accepted
  obtain ⟨runner, moved, rfl⟩ := Option.map_eq_some_iff.mp drained
  have waits : runner.held taskId = (none, none) := by
    have step := moved
    dsimp only [TtsRunner.step] at step
    rw [cancelled] at step
    cases step
    have based : TtsRunner.Sound place { served.runner with
        phase := .controls pressed rest
        drainedCancels := served.runner.drainedCancels ++ [taskId] } :=
      (@TtsRunner.Sound.phase _ _ (.controls pressed rest) sound (by rw [cancelled]; rfl)).same rfl
        (fun _ => rfl) fun _ => rfl
    exact based.held_of_handleControl
  have none_ : runner.submissions taskId = served.runner.submissions taskId := by
    have step := moved
    dsimp only [TtsRunner.step] at step
    rw [cancelled] at step
    cases step
    have same : TtsRunner.submitted (TtsRunner.handleControl _ taskId answers) = _ :=
      (@TtsRunner.quiet_handleControl { served.runner with
        phase := .controls pressed rest
        drainedCancels := served.runner.drainedCancels ++ [taskId] } _ _ fun _ => True).submitted
    rw [TtsRunner.submissions, same]
    rfl
  have settled : runner.Settled taskId := ⟨TtsRunner.popped_step moved popped, waits⟩
  have first : Kept runner := @Kept.step _ _ (.control answers) kept trivial moved
  have run := runner_of_reaches later
  have whole := run.invariant (fun later => Kept later ∧ later.Settled taskId ∧
      later.submissions taskId = runner.submissions taskId) ⟨first, settled, rfl⟩ (by
    intro _ _ _ ⟨kept, settled, same⟩ orderly stepped
    obtain ⟨place, sound⟩ := kept.consistent
    exact ⟨kept.step orderly stepped, settled.step kept.consistent kept.queued stepped,
      (settled.submissions sound kept.finishes stepped).trans same⟩)
  exact whole.2.2.trans none_

instance (served : TtsServed) (label : ServedLabel) : Decidable (served.Meets label) := by
  unfold Meets
  split
  · split <;> infer_instance
  · infer_instance
  · infer_instance

/-- A request is accepted. -/
def accepted : List ServedLabel :=
  [.service (.generate 7 true true), .service (.register 7),
    .service (.push { taskId := 7, promptTokens := [1] } true)]

/-- The request is cancelled. -/
def cancelled : List ServedLabel :=
  [.service (.cancel 7), .service (.cancelNext 0 true), .service (.cancelNext 0 true)]

/-- The runner goes on to its control messages. -/
def toControls : List ServedLabel :=
  ([.begin, .next, .next, .next, .next, .next, .finalize {}, .next] : List Label).map .runner

/-- The task is popped before the request is cancelled. -/
def cancelledLater : List ServedLabel :=
  accepted ++ (TtsRunner.stepWith [] [] [] [] [.task {}]).map .runner ++ cancelled ++ toControls

theorem cancelledLater_runs :
    (runWithin step Meets (start TtsRunner.small) cancelledLater).isSome = true := by
  decide +kernel

theorem cancelledLater_drains :
    (((runWithin step Meets (start TtsRunner.small) cancelledLater).get cancelledLater_runs).step
      (.runner (.control {}))).isSome = true := by
  decide +kernel

theorem cancelled_not_submitted_cancelledLater :
    ((((runWithin step Meets (start TtsRunner.small) cancelledLater).get
      cancelledLater_runs).step (.runner (.control {}))).get
        cancelledLater_drains).runner.submissions 7 =
      ((runWithin step Meets (start TtsRunner.small) cancelledLater).get
        cancelledLater_runs).runner.submissions 7 :=
  @cancelled_not_submitted _ _ _ TtsRunner.small 7 {} false [] (reaches_get cancelledLater_runs)
    (by decide +kernel) (by decide +kernel) (by decide +kernel)
    (Option.some_get cancelledLater_drains).symm .refl

/-- The cancel is drained while the task is still in the task queue. -/
def cancelledSooner : List ServedLabel := accepted ++ cancelled ++ toControls

/-- The runner goes on, pops the task, and is granted a slot for it. -/
def submittedAfter : List ServedLabel :=
  (([.control {}, .next, .next, .next, .task {}, .next] : List Label) ++
    TtsRunner.stepWith [.response ⟨.allocate, 7, 7, 0, 0, ""⟩ {}] [] [] [] []).map .runner

theorem cancelledSooner_runs : (runWithin step (fun _ _ => True) (start TtsRunner.small)
    cancelledSooner).isSome = true := by
  decide +kernel

theorem submittedAfter_runs : (runWithin step (fun _ _ => True) (start TtsRunner.small)
    (cancelledSooner ++ submittedAfter)).isSome = true := by
  decide +kernel

/-- The task of the cancelled request is submitted. -/
theorem cancel_lost :
    ((runWithin step (fun _ _ => True) (start TtsRunner.small) cancelledSooner).get
      cancelledSooner_runs).service.generating 7 = .returned true ∧
    ((runWithin step (fun _ _ => True) (start TtsRunner.small) cancelledSooner).get
      cancelledSooner_runs).runner.phase = .controls false [7] ∧
    ((runWithin step (fun _ _ => True) (start TtsRunner.small) cancelledSooner).get
      cancelledSooner_runs).runner.submissions 7 = 0 ∧
    ((runWithin step (fun _ _ => True) (start TtsRunner.small)
      (cancelledSooner ++ submittedAfter)).get submittedAfter_runs).runner.drainedCancels = [7] ∧
    ((runWithin step (fun _ _ => True) (start TtsRunner.small)
      (cancelledSooner ++ submittedAfter)).get submittedAfter_runs).runner.submissions 7 = 1 := by
  decide +kernel

end TtsServed
end InferenceServer.Tts
