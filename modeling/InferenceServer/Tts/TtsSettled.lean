import InferenceServer.Tts.TtsSteps

/-! A task that was popped and that waits neither for its voice sample nor for a slot waits for
neither again, and is not submitted. -/
namespace InferenceServer.Tts.TtsRunner

variable {runner next : TtsRunner} {place : Nat → Place} {taskId other slotId : Nat}
  {answers : Answers} {label : Label} {reason : FinishReason} {error : String} {task : Task}
  {speechIds : List Nat}
variable {response : SchedulerResponse}

/-- What waits of a task, for its voice sample and for a slot. -/
def held (runner : TtsRunner) (taskId : Nat) : Option Task × Option Task :=
  (runner.pendingVoiceEncodes taskId, runner.pendingAllocations taskId)

/-- The task was popped and waits for nothing. -/
def Settled (runner : TtsRunner) (taskId : Nat) : Prop :=
  taskId ∈ runner.popped ∧ runner.held taskId = (none, none)

theorem held_requestStop : (runner.requestStop slotId answers).held = runner.held := by
  unfold requestStop
  repeat' split
  all_goals rfl

theorem held_requestEvict : (runner.requestEvict slotId answers).held = runner.held := by
  unfold requestEvict
  repeat' split
  all_goals rfl

theorem held_handleTerminalDelivered {terminal : PendingTerminalMessage} :
    (runner.handleTerminalDelivered terminal answers).held = runner.held := by
  unfold handleTerminalDelivered
  split
  · exact held_requestEvict
  · rfl

theorem held_finishing {slot : Option Nat} : (runner.finishing taskId slot).held = runner.held := by
  unfold finishing
  dsimp only
  repeat' split
  all_goals rfl

theorem held_sendFinish {slot : Option Nat} :
    (runner.sendFinish answers taskId reason error slot).held = runner.held := by
  unfold sendFinish
  dsimp only
  split
  · exact held_handleTerminalDelivered.trans held_finishing
  · exact held_finishing

theorem held_maybeFinalizeCompletedSlot :
    (runner.maybeFinalizeCompletedSlot slotId answers).held = runner.held := by
  unfold maybeFinalizeCompletedSlot
  dsimp only
  split
  · exact held_sendFinish
  · rfl

theorem held_answered : (runner.answered response).held = runner.held := by
  unfold answered
  dsimp only
  repeat' split
  all_goals rfl

theorem held_pushAudio {output : AudioOutput} :
    (runner.pushAudio output answers).held = runner.held := by
  unfold pushAudio
  split
  · rfl
  · split
    · rfl
    · exact held_requestStop

theorem held_allocateTask (apart : other ≠ task.taskId) :
    (runner.allocateTask task answers).held other = runner.held other := by
  unfold allocateTask
  split
  · rw [held_sendFinish]
  · split
    · exact congrArg (runner.pendingVoiceEncodes other, ·) (Function.update_of_ne apart ..)
    · rw [held_sendFinish]

theorem held_compileTask (apart : other ≠ task.taskId) :
    (runner.compileTask task speechIds answers).held other = runner.held other := by
  unfold compileTask
  split
  · exact held_allocateTask apart
  · rw [held_sendFinish]

theorem held_addVoiceSample {samples : List Int} :
    (runner.addVoiceSample samples speechIds).held = runner.held := by
  unfold addVoiceSample
  repeat' split
  all_goals rfl

theorem held_handleTask (apart : other ≠ task.taskId) :
    (runner.handleTask task answers).held other = runner.held other := by
  unfold handleTask
  split
  · exact held_allocateTask apart
  · split
    · exact held_compileTask apart
    · split
      · refine congrArg (·, runner.pendingAllocations other) ?_
        dsimp only
        cases runner.pendingVoiceEncodes task.taskId with
        | some => rfl
        | none => exact Function.update_of_ne apart ..
      · rw [held_sendFinish]

section

variable (waits : runner.held taskId = (none, none))
include waits

/-- A task that is taken out of the waiting ones waits for nothing. -/
theorem held_takeVoice :
    { runner with
      pendingVoiceEncodes := Function.update runner.pendingVoiceEncodes other none
    }.held taskId = (none, none) := by
  have voice : runner.pendingVoiceEncodes taskId = none := congrArg Prod.fst waits
  have allocation : runner.pendingAllocations taskId = none := congrArg Prod.snd waits
  refine Prod.ext ?_ allocation
  by_cases same : taskId = other
  · rw [same]
    exact Function.update_self ..
  · exact (Function.update_of_ne same ..).trans voice

theorem held_takeAllocation :
    { runner with
      pendingAllocations := Function.update runner.pendingAllocations other none
    }.held taskId = (none, none) := by
  have voice : runner.pendingVoiceEncodes taskId = none := congrArg Prod.fst waits
  have allocation : runner.pendingAllocations taskId = none := congrArg Prod.snd waits
  refine Prod.ext voice ?_
  by_cases same : taskId = other
  · rw [same]
    exact Function.update_self ..
  · exact (Function.update_of_ne same ..).trans allocation

theorem held_handleControl : (runner.handleControl other answers).held taskId = (none, none) := by
  unfold handleControl
  split
  · dsimp only
    rw [sendFinish_voice, held_sendFinish]
    exact held_takeVoice waits
  · split
    · rw [held_requestStop]
      exact waits
    · split
      · refine held_takeAllocation ?_
        rw [held_sendFinish]
        exact waits
      · exact waits

end

theorem held_submitTask : (runner.submitTask task slotId answers).held = runner.held := by
  unfold submitTask
  dsimp only
  split
  · rfl
  · exact held_sendFinish

theorem held_handleAllocateAck (waits : runner.held taskId = (none, none)) :
    (runner.handleAllocateAck response answers).held taskId = (none, none) := by
  unfold handleAllocateAck
  split
  · split <;> exact waits
  · dsimp only
    split
    · rw [held_sendFinish]
      exact held_takeAllocation waits
    · split
      · rw [held_submitTask]
        exact held_takeAllocation waits
      · rw [held_sendFinish]
        exact held_takeAllocation waits

theorem held_handleSchedulerResponse (waits : runner.held taskId = (none, none)) :
    (runner.handleSchedulerResponse response answers).held taskId = (none, none) := by
  unfold handleSchedulerResponse
  split
  · exact held_handleAllocateAck waits
  · unfold handleSubmitAck
    split
    · exact waits
    · split
      · exact waits
      · rw [held_sendFinish]
        exact waits
  · exact waits
  · unfold handleStopAck
    rw [held_sendFinish]
    exact waits
  · unfold cleanupSlot
    split <;> exact waits

theorem held_handleTokenOutput {output : TokenOutput} :
    (runner.handleTokenOutput output answers).held = runner.held := by
  unfold handleTokenOutput
  split
  · exact held_maybeFinalizeCompletedSlot
  · rfl

theorem held_handleAudioOutput {output : AudioOutput} :
    (runner.handleAudioOutput output answers).held = runner.held := by
  unfold handleAudioOutput
  split
  · dsimp only
    split
    · exact held_maybeFinalizeCompletedSlot.trans held_pushAudio
    · exact held_pushAudio
  · rfl

theorem held_handleVoiceEncodeResult {result : VoiceEncodeResult}
    (names : ∀ task, runner.pendingVoiceEncodes result.requestId = some task →
      task.taskId = result.requestId) (waits : runner.held taskId = (none, none)) :
    (runner.handleVoiceEncodeResult result answers).held taskId = (none, none) := by
  unfold TtsRunner.handleVoiceEncodeResult
  cases found : runner.pendingVoiceEncodes result.requestId with
  | none => exact waits
  | some task =>
    have apart : taskId ≠ task.taskId := by
      rw [names task found]
      intro same
      rw [← same] at found
      exact absurd (found.symm.trans (congrArg Prod.fst waits)) nofun
    have taken := @held_takeVoice _ _ result.requestId waits
    dsimp only
    split
    · rw [held_compileTask apart, held_addVoiceSample]
      exact taken
    · rw [held_sendFinish]
      exact taken
    · rw [held_sendFinish]
      exact taken

/-- Tasks that are popped stay popped. -/
theorem popped_step (stepped : runner.step label = some next) (popped : taskId ∈ runner.popped) :
    taskId ∈ next.popped := by
  have kept : ∀ {mid : TtsRunner}, next.outerView = mid.outerView → mid.popped = runner.popped →
      taskId ∈ next.popped := by
    intro mid same popped'
    rw [show next.popped = mid.popped from congrArg OuterView.popped same, popped']
    exact popped
  cases does_of_step stepped with
  | putDone | putTask | putCancel | shutDown | begin | pressed | taskDone => exact popped
  | deliver => exact kept outerView_handleTerminalDelivered rfl
  | voiceResult => exact kept outerView_handleVoiceEncodeResult rfl
  | response =>
    refine kept outerView_handleSchedulerResponse ?_
    exact congrArg OuterView.popped outerView_answered
  | token => exact kept outerView_handleTokenOutput rfl
  | audio => exact kept outerView_handleAudioOutput rfl
  | finalize => exact kept outerView_maybeFinalizeCompletedSlot rfl
  | control => exact kept outerView_handleControl rfl
  | stop => exact kept outerView_requestStop rfl
  | evict => exact kept outerView_requestEvict rfl
  | task =>
    rw [show TtsRunner.popped _ = _ from congrArg OuterView.popped outerView_handleTask]
    exact List.mem_append_left _ popped
  | next drains =>
    unfold TtsRunner.next at drains
    repeat' split at drains
    all_goals
      cases drains
      try exact popped

theorem Settled.step (settled : runner.Settled taskId) (consistent : runner.Consistent)
    (queued : runner.Queued) (stepped : runner.step label = some next) : next.Settled taskId := by
  refine ⟨popped_step stepped settled.1, ?_⟩
  obtain ⟨place, sound⟩ := consistent
  have waits := settled.2
  cases does_of_step stepped with
  | putDone | putTask | putCancel | shutDown | begin | pressed | taskDone => exact waits
  | deliver =>
    rw [held_handleTerminalDelivered]
    exact waits
  | voiceResult =>
    exact held_handleVoiceEncodeResult (fun task found => (sound.encoding_of found).2.1) waits
  | response =>
    refine held_handleSchedulerResponse ?_
    rw [held_answered]
    exact waits
  | token =>
    rw [held_handleTokenOutput]
    exact waits
  | audio =>
    rw [held_handleAudioOutput]
    exact waits
  | finalize =>
    rw [held_maybeFinalizeCompletedSlot]
    exact waits
  | control => exact held_handleControl waits
  | stop =>
    rw [held_requestStop]
    exact waits
  | evict =>
    rw [held_requestEvict]
    exact waits
  | @task _ _ task _ _ queue live =>
    have apart : taskId ≠ task.taskId := by
      rintro rfl
      refine (queued.new task ?_ live).2 settled.1
      rw [queue]
      exact List.mem_cons_self
    rw [held_handleTask apart]
    exact waits
  | next drains =>
    unfold TtsRunner.next at drains
    repeat' split at drains
    all_goals
      cases drains
      try exact waits

end InferenceServer.Tts.TtsRunner
