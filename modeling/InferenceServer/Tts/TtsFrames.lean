import InferenceServer.Tts.TtsViews

/-! What no handler changes: the queues that the server fills, the drain the runner is in, the
grants of the scheduler and what its runs have produced. -/
namespace InferenceServer.Tts

/-- All but the slots, the tasks in hand and the messages. -/
structure OuterView where
  config : TtsConfig
  phase : Phase
  taskQueue : List Task
  cancelQueue : List Nat
  queued : List Nat
  popped : List Nat
  granted : Nat → Bool
  produced : Nat → List Message
  refused : List Nat
  drainedCancels : List Nat
  stopped : Bool

namespace TtsRunner

variable {runner : TtsRunner} {taskId slotId : Nat} {answers : Answers} {reason : FinishReason}
  {error : String} {task : Task} {speechIds : List Nat}
variable {slot : Option Nat} {response : SchedulerResponse} {output : AudioOutput}

def outerView (runner : TtsRunner) : OuterView where
  config := runner.config
  phase := runner.phase
  taskQueue := runner.taskQueue
  cancelQueue := runner.cancelQueue
  queued := runner.queued
  popped := runner.popped
  granted := runner.granted
  produced := runner.produced
  refused := runner.refused
  drainedCancels := runner.drainedCancels
  stopped := runner.stopped

theorem outerView_requestStop :
    (runner.requestStop slotId answers).outerView = runner.outerView := by
  unfold requestStop
  repeat' split
  all_goals rfl

theorem outerView_requestEvict :
    (runner.requestEvict slotId answers).outerView = runner.outerView := by
  unfold requestEvict
  repeat' split
  all_goals rfl

theorem outerView_handleTerminalDelivered {terminal : PendingTerminalMessage} :
    (runner.handleTerminalDelivered terminal answers).outerView = runner.outerView := by
  unfold handleTerminalDelivered
  split
  · exact outerView_requestEvict
  · rfl

theorem outerView_finishing : (runner.finishing taskId slot).outerView = runner.outerView := by
  unfold finishing
  dsimp only
  repeat' split
  all_goals rfl

theorem outerView_sendFinish :
    (runner.sendFinish answers taskId reason error slot).outerView = runner.outerView := by
  unfold sendFinish
  dsimp only
  split
  · exact outerView_handleTerminalDelivered.trans outerView_finishing
  · exact outerView_finishing

theorem outerView_maybeFinalizeCompletedSlot :
    (runner.maybeFinalizeCompletedSlot slotId answers).outerView = runner.outerView := by
  unfold maybeFinalizeCompletedSlot
  dsimp only
  split
  · exact outerView_sendFinish
  · rfl

theorem outerView_allocateTask :
    (runner.allocateTask task answers).outerView = runner.outerView := by
  unfold allocateTask
  split
  · exact outerView_sendFinish
  · split
    · rfl
    · exact outerView_sendFinish

theorem outerView_compileTask :
    (runner.compileTask task speechIds answers).outerView = runner.outerView := by
  unfold compileTask
  split
  · exact outerView_allocateTask
  · exact outerView_sendFinish

theorem outerView_addVoiceSample {samples : List Int} :
    (runner.addVoiceSample samples speechIds).outerView = runner.outerView := by
  unfold addVoiceSample
  repeat' split
  all_goals rfl

theorem outerView_handleTask : (runner.handleTask task answers).outerView = runner.outerView := by
  unfold handleTask
  split
  · exact outerView_allocateTask
  · split
    · exact outerView_compileTask
    · split
      · rfl
      · exact outerView_sendFinish

theorem outerView_handleControl :
    (runner.handleControl taskId answers).outerView = runner.outerView := by
  unfold handleControl
  split
  · exact outerView_sendFinish
  · split
    · exact outerView_requestStop
    · split
      · exact outerView_sendFinish
      · rfl

theorem outerView_handleVoiceEncodeResult {result : VoiceEncodeResult} :
    (runner.handleVoiceEncodeResult result answers).outerView = runner.outerView := by
  unfold handleVoiceEncodeResult
  split
  · rfl
  · dsimp only
    split
    · exact outerView_compileTask.trans outerView_addVoiceSample
    · exact outerView_sendFinish
    · exact outerView_sendFinish

theorem outerView_submitTask :
    (runner.submitTask task slotId answers).outerView = runner.outerView := by
  unfold submitTask
  dsimp only
  split
  · rfl
  · exact outerView_sendFinish

theorem outerView_handleAllocateAck :
    (runner.handleAllocateAck response answers).outerView = runner.outerView := by
  unfold handleAllocateAck
  split
  · split <;> rfl
  · dsimp only
    split
    · exact outerView_sendFinish
    · split
      · exact outerView_submitTask
      · exact outerView_sendFinish

theorem outerView_handleSchedulerResponse :
    (runner.handleSchedulerResponse response answers).outerView = runner.outerView := by
  unfold handleSchedulerResponse
  split
  · exact outerView_handleAllocateAck
  · unfold handleSubmitAck
    split
    · rfl
    · split
      · rfl
      · exact outerView_sendFinish
  · rfl
  · exact outerView_sendFinish
  · unfold cleanupSlot
    split <;> rfl

theorem outerView_handleTokenOutput {output : TokenOutput} :
    (runner.handleTokenOutput output answers).outerView = runner.outerView := by
  unfold handleTokenOutput
  split
  · exact outerView_maybeFinalizeCompletedSlot
  · rfl

theorem outerView_pushAudio : (runner.pushAudio output answers).outerView = runner.outerView := by
  unfold pushAudio
  split
  · rfl
  · split
    · rfl
    · exact outerView_requestStop

theorem outerView_handleAudioOutput :
    (runner.handleAudioOutput output answers).outerView = runner.outerView := by
  unfold handleAudioOutput
  split
  · dsimp only
    split
    · exact outerView_maybeFinalizeCompletedSlot.trans outerView_pushAudio
    · exact outerView_pushAudio
  · rfl

/-- A response changes the grants of the scheduler alone. -/
theorem outerView_answered :
    (runner.answered response).outerView =
      { runner.outerView with granted := (runner.answered response).granted } := by
  unfold answered
  dsimp only
  repeat' split
  all_goals rfl

end TtsRunner
end InferenceServer.Tts
