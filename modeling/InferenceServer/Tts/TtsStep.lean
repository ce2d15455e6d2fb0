import InferenceServer.Tts.BlazeTtsRunner

/-! `step` of the runner, one pop at a time, with a scheduler that answers each accepted request
once and puts out the tokens and the audio of a run before it answers what ends the run. -/
namespace InferenceServer.Tts

open Machine

inductive Label
  | putTask (task : Task)
  | putCancel (taskId : Nat)
  | shutDown
  | begin
  | deliver (answers : Answers)
  | pressed
  | voiceResult (result : VoiceEncodeResult) (answers : Answers)
  | response (response : SchedulerResponse) (answers : Answers)
  | token (output : TokenOutput) (answers : Answers)
  | audio (output : AudioOutput) (answers : Answers)
  | finalize (answers : Answers)
  | control (answers : Answers)
  | stop (answers : Answers)
  | evict (answers : Answers)
  | task (answers : Answers)
  | next
  deriving DecidableEq

namespace SchedulerResponse

/-- The request that the response answers; only an allocation is answered with another slot. -/
def request (response : SchedulerResponse) : SchedulerRequest where
  type := response.type
  requestId := response.requestId
  taskId := response.taskId
  slotId := if response.type = .allocate then invalidSlot else response.slotId

/-- The response grants a slot. -/
def Grants (response : SchedulerResponse) : Prop :=
  response.type = .allocate ∧ response.errorCode = 0 ∧ response.slotId ≠ invalidSlot

instance (response : SchedulerResponse) : Decidable response.Grants :=
  inferInstanceAs (Decidable (_ ∧ _))

end SchedulerResponse

namespace TtsRunner

variable (runner : TtsRunner) (response : SchedulerResponse)

/-- What the scheduler may answer: an accepted request, and a grant of a slot that is free. -/
def MayAnswer : Prop :=
  response.request ∈ runner.outstanding ∧
    (response.Grants → runner.granted response.slotId = false)

instance (runner : TtsRunner) (response : SchedulerResponse) :
    Decidable (runner.MayAnswer response) :=
  inferInstanceAs (Decidable (_ ∧ _))

/-- What a response means to the scheduler. -/
def answered (runner : TtsRunner) (response : SchedulerResponse) : TtsRunner :=
  let answered := { runner with outstanding := runner.outstanding.erase response.request }
  match response.type with
  | .allocate =>
    if response.Grants then
      { answered with granted := Function.update runner.granted response.slotId true }
    else answered
  | .submit =>
    if response.errorCode ≠ 0 ∧
        (runner.runs response.slotId).map Run.taskId = some response.taskId then
      { answered with runs := Function.update runner.runs response.slotId none }
    else answered
  | .continue_ => answered
  | .stop => { answered with runs := Function.update runner.runs response.slotId none }
  | .evict => { answered with
      runs := Function.update runner.runs response.slotId none
      granted := Function.update runner.granted response.slotId false }

/-- The drain that follows when this one is over. -/
def next : Option TtsRunner :=
  match runner.phase with
  | .idle => none
  | .terminals =>
    if runner.pendingTerminalMessages = [] then some { runner with phase := .voiceResults 0 }
    else none
  | .voiceResults _ => some { runner with phase := .responses false 0 }
  | .responses true _ => some { runner with
      phase := .controls true runner.cancelQueue
      cancelQueue := [] }
  | .responses false _ => some { runner with phase := .tokens 0 }
  | .tokens _ => some { runner with phase := .audio 0 }
  | .audio drained =>
    if drained < runner.config.audioQueueCapacity then
      some { runner with phase := .finalizing (List.range runner.slotCount) }
    else some { runner with phase := .controls false runner.cancelQueue, cancelQueue := [] }
  | .finalizing rest =>
    if rest = [] then
      some { runner with phase := .controls false runner.cancelQueue, cancelQueue := [] }
    else none
  | .controls pressed rest =>
    if rest = [] then some { runner with
      phase := .stops pressed runner.deferredStopSlots
      deferredStopSlots := [] }
    else none
  | .stops pressed rest =>
    if rest = [] then some { runner with
      phase := .evicts pressed runner.deferredEvictSlots
      deferredEvictSlots := [] }
    else none
  | .evicts pressed rest =>
    if rest = [] then some { runner with phase := if pressed then .idle else .tasks 0 } else none
  | .tasks drained =>
    if runner.taskQueue = [] ∨ runner.config.taskQueueCapacity ≤ drained then
      some { runner with phase := .idle }
    else none

def step : Label → Option TtsRunner
  | .putTask task =>
    if task.done then some { runner with taskQueue := runner.taskQueue ++ [task] }
    else if task.taskId ∉ runner.queued then some { runner with
      taskQueue := runner.taskQueue ++ [task]
      queued := runner.queued ++ [task.taskId] }
    else none
  | .putCancel taskId => some { runner with cancelQueue := runner.cancelQueue ++ [taskId] }
  | .shutDown => some { runner with stopped := true }
  | .begin =>
    if runner.phase = .idle ∧ runner.stopped = false then
      some { runner with phase := .terminals }
    else none
  | .deliver answers =>
    match runner.phase, runner.pendingTerminalMessages with
    | .terminals, terminal :: rest =>
      if answers.terminal then
        some (({ runner with pendingTerminalMessages := rest }.send
          terminal.message).handleTerminalDelivered terminal answers)
      else none
    | _, _ => none
  | .pressed =>
    if runner.phase = .terminals ∧ runner.pendingTerminalMessages ≠ [] then
      some { runner with phase := .responses true 0 }
    else none
  | .voiceResult result answers =>
    match runner.phase with
    | .voiceResults drained =>
      if drained < runner.config.taskQueueCapacity ∧ result.requestId ∈ runner.encoding then
        some ({ runner with
          phase := .voiceResults (drained + 1)
          encoding := runner.encoding.erase result.requestId }.handleVoiceEncodeResult result
            answers)
      else none
    | _ => none
  | .response response answers =>
    match runner.phase with
    | .responses pressed drained =>
      if drained < runner.config.maxUsers ∧ runner.MayAnswer response then
        some ({ runner with phase := .responses pressed (drained + 1) }.answered
          response |>.handleSchedulerResponse response answers)
      else none
    | _ => none
  | .token output answers =>
    match runner.phase, runner.runs output.slotId with
    | .tokens drained, some run =>
      if drained < runner.config.maxUsers ∧ run.taskId = output.taskId ∧ run.final = false then
        some ({ runner with
          phase := .tokens (drained + 1)
          runs := Function.update runner.runs output.slotId
            (some { run with final := output.final }) }.handleTokenOutput output answers)
      else none
    | _, _ => none
  | .audio output answers =>
    match runner.phase, runner.runs output.slotId with
    | .audio drained, some run =>
      if drained < runner.config.audioQueueCapacity ∧ run.taskId = output.taskId ∧
          run.last = false then
        some ({ runner with
          phase := .audio (drained + 1)
          runs := Function.update runner.runs output.slotId (some { run with last := output.last })
          produced := if output.samplesBf16 = [] then runner.produced
            else Function.update runner.produced output.taskId
              (runner.produced output.taskId ++ [output.message])
          refused := if output.samplesBf16 ≠ [] ∧ answers.chunk = false then
              runner.refused ++ [output.taskId]
            else runner.refused }.handleAudioOutput output answers)
      else none
    | _, _ => none
  | .finalize answers =>
    match runner.phase with
    | .finalizing (slotId :: rest) =>
      some ({ runner with phase := .finalizing rest }.maybeFinalizeCompletedSlot slotId answers)
    | _ => none
  | .control answers =>
    match runner.phase with
    | .controls pressed (taskId :: rest) =>
      some ({ runner with
        phase := .controls pressed rest
        drainedCancels := runner.drainedCancels ++ [taskId] }.handleControl taskId answers)
    | _ => none
  | .stop answers =>
    match runner.phase with
    | .stops pressed (slotId :: rest) =>
      some ({ runner with phase := .stops pressed rest }.requestStop slotId answers)
    | _ => none
  | .evict answers =>
    match runner.phase with
    | .evicts pressed (slotId :: rest) =>
      some ({ runner with phase := .evicts pressed rest }.requestEvict slotId answers)
    | _ => none
  | .task answers =>
    match runner.phase, runner.taskQueue with
    | .tasks drained, task :: rest =>
      if drained < runner.config.taskQueueCapacity then
        if task.done then
          some { runner with taskQueue := rest, stopped := true, phase := .idle }
        else some ({ runner with
          taskQueue := rest
          popped := runner.popped ++ [task.taskId]
          phase := .tasks (drained + 1) }.handleTask task answers)
      else none
    | _, _ => none
  | .next => runner.next

/-- Every way in which the runner goes on: what it takes, and the runner that handles it. -/
inductive Does (runner : TtsRunner) : Label → TtsRunner → Prop
  | putDone {task} (done : task.done = true) : Does runner (.putTask task) { runner with
      taskQueue := runner.taskQueue ++ [task] }
  | putTask {task} (fresh : task.taskId ∉ runner.queued) : Does runner (.putTask task) { runner with
      taskQueue := runner.taskQueue ++ [task]
      queued := runner.queued ++ [task.taskId] }
  | putCancel {taskId} : Does runner (.putCancel taskId) { runner with
      cancelQueue := runner.cancelQueue ++ [taskId] }
  | shutDown : Does runner .shutDown { runner with stopped := true }
  | begin (idle : runner.phase = .idle) : Does runner .begin { runner with phase := .terminals }
  | deliver {answers terminal rest} (pending : runner.pendingTerminalMessages = terminal :: rest) :
      Does runner (.deliver answers) (({ runner with pendingTerminalMessages := rest }.send
        terminal.message).handleTerminalDelivered terminal answers)
  | pressed (waits : runner.phase = .terminals) :
      Does runner .pressed { runner with phase := .responses true 0 }
  | voiceResult {result answers drained} (phase : runner.phase = .voiceResults drained) :
      Does runner (.voiceResult result answers) ({ runner with
        phase := .voiceResults (drained + 1)
        encoding := runner.encoding.erase result.requestId }.handleVoiceEncodeResult result answers)
  | response {response answers pressed drained} (phase : runner.phase = .responses pressed drained)
      (may : runner.MayAnswer response) : Does runner (.response response answers)
        (({ runner with phase := .responses pressed (drained + 1) }.answered
          response).handleSchedulerResponse response answers)
  | token {output answers drained run} (phase : runner.phase = .tokens drained)
      (found : runner.runs output.slotId = some run) (fresh : run.final = false) :
      Does runner (.token output answers) ({ runner with
        phase := .tokens (drained + 1)
        runs := Function.update runner.runs output.slotId
          (some { run with final := output.final }) }.handleTokenOutput output answers)
  | audio {output answers drained run} (phase : runner.phase = .audio drained)
      (found : runner.runs output.slotId = some run) (same : run.taskId = output.taskId)
      (fresh : run.last = false) : Does runner (.audio output answers) ({ runner with
        phase := .audio (drained + 1)
        runs := Function.update runner.runs output.slotId (some { run with last := output.last })
        produced := if output.samplesBf16 = [] then runner.produced
          else Function.update runner.produced output.taskId
            (runner.produced output.taskId ++ [output.message])
        refused := if output.samplesBf16 ≠ [] ∧ answers.chunk = false then
            runner.refused ++ [output.taskId]
          else runner.refused }.handleAudioOutput output answers)
  | finalize {answers slotId rest} (phase : runner.phase = .finalizing (slotId :: rest)) :
      Does runner (.finalize answers)
        ({ runner with phase := .finalizing rest }.maybeFinalizeCompletedSlot slotId answers)
  | control {answers pressed taskId rest} (phase : runner.phase = .controls pressed (taskId :: rest)) :
      Does runner (.control answers) ({ runner with
        phase := .controls pressed rest
        drainedCancels := runner.drainedCancels ++ [taskId] }.handleControl taskId answers)
  | stop {answers pressed slotId rest} (phase : runner.phase = .stops pressed (slotId :: rest)) :
      Does runner (.stop answers)
        ({ runner with phase := .stops pressed rest }.requestStop slotId answers)
  | evict {answers pressed slotId rest} (phase : runner.phase = .evicts pressed (slotId :: rest)) :
      Does runner (.evict answers)
        ({ runner with phase := .evicts pressed rest }.requestEvict slotId answers)
  | taskDone {answers drained task rest} (phase : runner.phase = .tasks drained)
      (queue : runner.taskQueue = task :: rest) (done : task.done = true) :
      Does runner (.task answers) { runner with taskQueue := rest, stopped := true, phase := .idle }
  | task {answers drained task rest} (phase : runner.phase = .tasks drained)
      (queue : runner.taskQueue = task :: rest) (live : task.done = false) :
      Does runner (.task answers) ({ runner with
        taskQueue := rest
        popped := runner.popped ++ [task.taskId]
        phase := .tasks (drained + 1) }.handleTask task answers)
  | next {after} (drains : runner.next = some after) : Does runner .next after

theorem does_of_step {runner after : TtsRunner} {label : Label}
    (stepped : runner.step label = some after) : runner.Does label after := by
  cases label with
  | putCancel | shutDown =>
    cases stepped
    constructor
  | next => exact .next stepped
  | putTask =>
    dsimp only [step] at stepped
    split at stepped
    · cases stepped
      exact .putDone ‹_›
    · split at stepped <;> cases stepped
      exact .putTask ‹_›
  | begin | pressed =>
    dsimp only [step] at stepped
    split at stepped <;> cases stepped
    constructor
    exact And.left ‹_›
  | deliver | voiceResult =>
    dsimp only [step] at stepped
    split at stepped
    · split at stepped <;> cases stepped
      constructor
      assumption
    · cases stepped
  | response | token | audio =>
    dsimp only [step] at stepped
    split at stepped
    · split at stepped <;> cases stepped
      rename_i may
      first
        | exact .response ‹_› may.2
        | exact .token ‹_› ‹_› may.2.2
        | exact .audio ‹_› ‹_› may.2.1 may.2.2
    · cases stepped
  | task =>
    dsimp only [step] at stepped
    split at stepped
    · split at stepped
      · split at stepped <;> cases stepped
        · exact .taskDone ‹_› ‹_› ‹_›
        · exact .task ‹_› ‹_› (Bool.eq_false_iff.mpr ‹_›)
      · cases stepped
    · cases stepped
  | finalize | control | stop | evict =>
    dsimp only [step] at stepped
    split at stepped <;> cases stepped
    constructor
    assumption

/-- A `SUBMIT` error answers the task that its slot runs, or one whose slot is being torn down by
a request; an `ALLOCATE` error for a task that has ended names no slot. -/
def Orderly : Prop :=
  (response.type = .submit → response.errorCode ≠ 0 →
    (runner.slots response.slotId).state = .awaitingStopAck ∨
    (runner.slots response.slotId).state = .awaitingEvictAck ∨
    (runner.slots response.slotId).state = .running ∧
      (runner.slots response.slotId).taskId = response.taskId) ∧
  (response.type = .allocate → response.errorCode ≠ 0 →
    runner.pendingAllocations response.requestId = none → response.slotId = invalidSlot)

instance (runner : TtsRunner) (response : SchedulerResponse) :
    Decidable (runner.Orderly response) :=
  inferInstanceAs (Decidable (_ ∧ _))

/-- The responses come in order. -/
def AnswersInOrder : Label → Prop
  | .response response _ => runner.Orderly response
  | _ => True

instance (runner : TtsRunner) (label : Label) : Decidable (runner.AnswersInOrder label) :=
  match label with
  | .response response _ => inferInstanceAs (Decidable (runner.Orderly response))
  | .putTask _ | .putCancel _ | .shutDown | .begin | .deliver _ | .pressed | .voiceResult _ _
  | .token _ _ | .audio _ _ | .finalize _ | .control _ | .stop _ | .evict _ | .task _ | .next =>
    .isTrue trivial

end TtsRunner
end InferenceServer.Tts
