import InferenceServer.Machine.Run

/-! The runner of the speech model. One thread drains the queues of the server and of the
scheduler in a fixed order; any push may find its queue full, and what must not be lost then is
deferred to a later step. -/
namespace InferenceServer.Tts

inductive FinishReason
  | completed
  | cancelled
  | error
  deriving DecidableEq

/-- A task as it travels on the task queue. -/
structure Task where
  taskId : Nat
  done : Bool := false
  text : String := ""
  description : Option String := none
  promptTokens : List Nat := []
  voiceWavPcm : List Int := []
  ignoreEos : Bool := false
  stopTokenIds : List Nat := []
  deriving DecidableEq

/-- What the runner pushes to the audio queue. -/
inductive Message
  | chunk (taskId chunkIndex sampleRateHz channels : Nat) (samplesBf16 : List Nat)
  | finish (taskId : Nat) (reason : FinishReason) (error : String)
  deriving DecidableEq

inductive RequestType
  | allocate
  | submit
  | continue_
  | stop
  | evict
  deriving DecidableEq

/-- No slot, `UINT32_MAX`. -/
def invalidSlot : Nat := 4294967295

structure SchedulerRequest where
  type : RequestType
  requestId : Nat
  taskId : Nat
  slotId : Nat := invalidSlot
  deriving DecidableEq

structure TtsSubmit where
  requestId : Nat
  taskId : Nat
  slotId : Nat
  promptTokens : List Nat
  ignoreEos : Bool
  stopTokens : List Nat
  deriving DecidableEq

structure SchedulerResponse where
  type : RequestType
  requestId : Nat
  taskId : Nat
  slotId : Nat := invalidSlot
  errorCode : Int := 0
  error : String := ""
  deriving DecidableEq

structure TokenOutput where
  taskId : Nat
  slotId : Nat
  tokenId : Nat
  final : Bool := false
  deriving DecidableEq

structure AudioOutput where
  taskId : Nat
  slotId : Nat
  chunkIndex : Nat
  samplesBf16 : List Nat := []
  sampleRateHz : Nat := 0
  channels : Nat := 0
  last : Bool := false
  deriving DecidableEq

def AudioOutput.message (output : AudioOutput) : Message :=
  .chunk output.taskId output.chunkIndex output.sampleRateHz output.channels output.samplesBf16

inductive VoiceEncodeStatus
  | completed
  | cancelled
  | error
  deriving DecidableEq

structure VoiceEncodeResult where
  requestId : Nat
  speechIds : List Nat := []
  status : VoiceEncodeStatus := .error
  deriving DecidableEq

inductive SlotState
  | free
  | running
  | awaitingTerminalDelivery
  | awaitingStopAck
  | awaitingEvictAck
  deriving DecidableEq

structure SlotContext where
  state : SlotState := .free
  taskId : Nat := 0
  completionPending : Bool := false
  audioLastReceived : Bool := false
  deriving DecidableEq

structure PendingTerminalMessage where
  message : Message
  slotIdToEvict : Option Nat
  deriving DecidableEq

structure TtsConfig where
  maxUsers : Nat
  taskQueueCapacity : Nat
  audioQueueCapacity : Nat
  voiceSampleCacheSize : Nat
  /-- The prompt compiler, with the tokenizer and the tokens it is configured for. -/
  compilePromptTokens : String → Option String → List Nat → Except String (List Nat)

/-- A run that the scheduler has accepted for a slot, with what it has put out. -/
structure Run where
  taskId : Nat
  final : Bool := false
  last : Bool := false
  deriving DecidableEq

/-- Where `step` is: the drain, what it has counted or has left, and whether the terminal
messages are pressed. -/
inductive Phase
  | idle
  | terminals
  | voiceResults (drained : Nat)
  | responses (pressed : Bool) (drained : Nat)
  | tokens (drained : Nat)
  | audio (drained : Nat)
  | finalizing (rest : List Nat)
  | controls (pressed : Bool) (rest : List Nat)
  | stops (pressed : Bool) (rest : List Nat)
  | evicts (pressed : Bool) (rest : List Nat)
  | tasks (drained : Nat)
  deriving DecidableEq

/-- The runner, what it shares with the server and with the scheduler, and what has happened. -/
structure TtsRunner where
  config : TtsConfig
  slots : Nat → SlotContext := fun _ => {}
  pendingVoiceEncodes : Nat → Option Task := fun _ => none
  voiceSampleCache : List (List Int × List Nat) := []
  pendingAllocations : Nat → Option Task := fun _ => none
  pendingTerminalMessages : List PendingTerminalMessage := []
  conditioningByTask : Nat → Bool := fun _ => false
  deferredStopSlots : List Nat := []
  deferredEvictSlots : List Nat := []
  stopped : Bool := false
  phase : Phase := .idle
  taskQueue : List Task := []
  cancelQueue : List Nat := []
  /-- The requests that the scheduler has accepted and not answered. -/
  outstanding : List SchedulerRequest := []
  /-- The voice samples that the scheduler has accepted and not answered. -/
  encoding : List Nat := []
  granted : Nat → Bool := fun _ => false
  runs : Nat → Option Run := fun _ => none
  /-- All tasks that were put on the task queue, and those that were popped. -/
  queued : List Nat := []
  popped : List Nat := []
  sent : List Message := []
  submitted : List TtsSubmit := []
  produced : Nat → List Message := fun _ => []
  /-- The tasks of whose chunks the audio queue was too full to take one. -/
  refused : List Nat := []
  drainedCancels : List Nat := []

/-- Whether the queues take what a handler pushes: its request to the scheduler, its terminal
message, the eviction after it, and its audio chunk. -/
structure Answers where
  request : Bool := true
  terminal : Bool := true
  evict : Bool := true
  chunk : Bool := true
  deriving DecidableEq

namespace TtsRunner

variable (runner : TtsRunner) (slotId : Nat) (task : Task) (response : SchedulerResponse)
  (terminal : PendingTerminalMessage)

def slotCount : Nat := max runner.config.maxUsers 1

/-- `findSlot` finds the slot. -/
def HasSlot : Prop :=
  slotId ≠ invalidSlot ∧ slotId < runner.slotCount

instance (runner : TtsRunner) (slotId : Nat) : Decidable (runner.HasSlot slotId) :=
  inferInstanceAs (Decidable (_ ∧ _))

/-- `findSlotByTask` -/
def findSlotByTask (taskId : Nat) : Option Nat :=
  (List.range runner.slotCount).find? fun slotId =>
    (runner.slots slotId).state ≠ .free ∧ (runner.slots slotId).taskId = taskId

def setSlot (context : SlotContext) : TtsRunner :=
  { runner with slots := Function.update runner.slots slotId context }

def setState (state : SlotState) : TtsRunner :=
  runner.setSlot slotId { runner.slots slotId with state }

/-- The scheduler takes a request. -/
def accept (request : SchedulerRequest) : TtsRunner :=
  { runner with outstanding := runner.outstanding ++ [request] }

/-- The audio queue takes a message. -/
def send (message : Message) : TtsRunner :=
  { runner with sent := runner.sent ++ [message] }

/-- The terminal message waits for room in the audio queue. -/
def pend : TtsRunner :=
  { runner with pendingTerminalMessages := runner.pendingTerminalMessages ++ [terminal] }

def requestStop (answers : Answers) : TtsRunner :=
  if runner.HasSlot slotId ∧ (runner.slots slotId).state = .running then
    if answers.request then
      (runner.accept ⟨.stop, (runner.slots slotId).taskId, (runner.slots slotId).taskId,
        slotId⟩).setState slotId .awaitingStopAck
    else if slotId ∈ runner.deferredStopSlots then runner
    else { runner with deferredStopSlots := runner.deferredStopSlots ++ [slotId] }
  else runner

def requestEvict (answers : Answers) : TtsRunner :=
  if runner.HasSlot slotId ∧ (runner.slots slotId).state ≠ .awaitingEvictAck then
    if answers.evict then
      (runner.accept ⟨.evict, (runner.slots slotId).taskId, (runner.slots slotId).taskId,
        slotId⟩).setState slotId .awaitingEvictAck
    else if slotId ∈ runner.deferredEvictSlots then runner
    else { runner with deferredEvictSlots := runner.deferredEvictSlots ++ [slotId] }
  else runner

def handleTerminalDelivered (answers : Answers) : TtsRunner :=
  match terminal.slotIdToEvict with
  | some slotId => runner.requestEvict slotId answers
  | none => runner

/-- `sendFinish`, up to the push: the timings of the task are dropped, and its slot waits for the
delivery. -/
def finishing (taskId : Nat) (slotIdToEvict : Option Nat) : TtsRunner :=
  let cleared := { runner with
    conditioningByTask := Function.update runner.conditioningByTask taskId false }
  match slotIdToEvict with
  | some slotId =>
    if runner.HasSlot slotId then cleared.setState slotId .awaitingTerminalDelivery else cleared
  | none => cleared

def sendFinish (answers : Answers) (taskId : Nat) (reason : FinishReason) (error : String)
    (slotIdToEvict : Option Nat) : TtsRunner :=
  let terminal : PendingTerminalMessage := ⟨.finish taskId reason error, slotIdToEvict⟩
  let finishing := runner.finishing taskId slotIdToEvict
  if runner.pendingTerminalMessages = [] ∧ answers.terminal then
    (finishing.send terminal.message).handleTerminalDelivered terminal answers
  else finishing.pend terminal

def maybeFinalizeCompletedSlot (answers : Answers) : TtsRunner :=
  let slot := runner.slots slotId
  if runner.HasSlot slotId ∧ slot.completionPending ∧ slot.audioLastReceived ∧
      slot.state = .running then
    (runner.setSlot slotId
        { slot with completionPending := false, audioLastReceived := false }).sendFinish answers
      slot.taskId .completed "" (some slotId)
  else runner

def allocateTask (answers : Answers) : TtsRunner :=
  if task.promptTokens = [] then
    runner.sendFinish answers task.taskId .error "TTS compiled prompt is empty" none
  else if answers.request then
    { runner.accept ⟨.allocate, task.taskId, task.taskId, invalidSlot⟩ with
      pendingAllocations := Function.update runner.pendingAllocations task.taskId (some task) }
  else
    runner.sendFinish answers task.taskId .error "TTS scheduler queue full during ALLOCATE" none

/-- Compiles the prompt with the speech ids and goes on to the allocation. -/
def compileTask (speechIds : List Nat) (answers : Answers) : TtsRunner :=
  match runner.config.compilePromptTokens task.text task.description speechIds with
  | .ok promptTokens =>
    { runner with
      conditioningByTask := Function.update runner.conditioningByTask task.taskId true
    }.allocateTask { task with promptTokens } answers
  | .error what => runner.sendFinish answers task.taskId .error what none

/-- `VoiceSampleCache::get` of an entry that exists makes it the most recent. -/
def getVoiceSample (samples : List Int) (speechIds : List Nat) : TtsRunner :=
  { runner with voiceSampleCache := (samples, speechIds) ::
      runner.voiceSampleCache.filter (·.1 ≠ samples) }

/-- `VoiceSampleCache::add` drops the least recent entry of a full cache. -/
def addVoiceSample (samples : List Int) (speechIds : List Nat) : TtsRunner :=
  if runner.config.voiceSampleCacheSize = 0 then runner
  else if (runner.voiceSampleCache.lookup samples).isSome then
    runner.getVoiceSample samples speechIds
  else { runner with voiceSampleCache := (samples, speechIds) ::
      if runner.voiceSampleCache.length = runner.config.voiceSampleCacheSize then
        runner.voiceSampleCache.dropLast
      else runner.voiceSampleCache }

def handleTask (answers : Answers) : TtsRunner :=
  if task.voiceWavPcm = [] then runner.allocateTask task answers
  else match runner.voiceSampleCache.lookup task.voiceWavPcm with
    | some speechIds =>
      (runner.getVoiceSample task.voiceWavPcm speechIds).compileTask task speechIds answers
    | none =>
      if answers.request then { runner with
        encoding := runner.encoding ++ [task.taskId]
        conditioningByTask := Function.update runner.conditioningByTask task.taskId true
        pendingVoiceEncodes := match runner.pendingVoiceEncodes task.taskId with
          | some _ => runner.pendingVoiceEncodes
          | none => Function.update runner.pendingVoiceEncodes task.taskId (some task) }
      else runner.sendFinish answers task.taskId .error
        "TTS scheduler voice encoder queue is full" none

def handleControl (taskId : Nat) (answers : Answers) : TtsRunner :=
  if (runner.pendingVoiceEncodes taskId).isSome then
    let finished := runner.sendFinish answers taskId .cancelled "" none
    { finished with
      pendingVoiceEncodes := Function.update finished.pendingVoiceEncodes taskId none }
  else match runner.findSlotByTask taskId with
    | some slotId => runner.requestStop slotId answers
    | none => match runner.pendingAllocations taskId with
      | some task =>
        let finished := runner.sendFinish answers task.taskId .cancelled "" none
        { finished with
          pendingAllocations := Function.update finished.pendingAllocations taskId none }
      | none => runner

def handleVoiceEncodeResult (result : VoiceEncodeResult) (answers : Answers) : TtsRunner :=
  match runner.pendingVoiceEncodes result.requestId with
  | none => runner
  | some task =>
    let taken := { runner with
      pendingVoiceEncodes := Function.update runner.pendingVoiceEncodes result.requestId none }
    match result.status with
    | .completed => (taken.addVoiceSample task.voiceWavPcm result.speechIds).compileTask task
        result.speechIds answers
    | .cancelled => taken.sendFinish answers task.taskId .cancelled "" none
    | .error =>
      taken.sendFinish answers task.taskId .error "TTS voice sample encoding failed" none

/-- The scheduler takes the run of a task for a slot, or the task ends. -/
def submitTask (slotId : Nat) (answers : Answers) : TtsRunner :=
  let submit : TtsSubmit := ⟨task.taskId, task.taskId, slotId, task.promptTokens,
    task.ignoreEos, task.stopTokenIds⟩
  if answers.request then
    { runner.accept ⟨.submit, task.taskId, task.taskId, slotId⟩ with
      runs := Function.update runner.runs slotId (some { taskId := task.taskId })
      submitted := runner.submitted ++ [submit] }
  else runner.sendFinish answers task.taskId .error "TTS scheduler queue full during SUBMIT"
    (some slotId)

def handleAllocateAck (answers : Answers) : TtsRunner :=
  match runner.pendingAllocations response.requestId with
  | none =>
    if response.slotId ≠ invalidSlot ∧ answers.evict then
      runner.accept ⟨.evict, response.requestId, response.taskId, response.slotId⟩
    else runner
  | some task =>
    let taken := { runner with
      pendingAllocations := Function.update runner.pendingAllocations response.requestId none }
    if response.errorCode ≠ 0 ∨ response.slotId = invalidSlot then
      taken.sendFinish answers task.taskId .error response.error none
    else if taken.HasSlot response.slotId then
      (taken.setSlot response.slotId { state := .running, taskId := task.taskId }).submitTask task
        response.slotId answers
    else taken.sendFinish answers task.taskId .error
      "TTS scheduler returned slot outside configured max users" none

def handleSubmitAck (answers : Answers) : TtsRunner :=
  if response.errorCode = 0 then runner
  else if runner.HasSlot response.slotId ∧
      ((runner.slots response.slotId).state = .awaitingStopAck ∨
        (runner.slots response.slotId).state = .awaitingEvictAck) then runner
  else runner.sendFinish answers response.taskId .error response.error (some response.slotId)

def handleStopAck (answers : Answers) : TtsRunner :=
  runner.sendFinish answers response.taskId .cancelled response.error (some response.slotId)

def cleanupSlot : TtsRunner :=
  if runner.HasSlot slotId then runner.setSlot slotId {} else runner

def handleSchedulerResponse (answers : Answers) : TtsRunner :=
  match response.type with
  | .allocate => runner.handleAllocateAck response answers
  | .submit => runner.handleSubmitAck response answers
  | .continue_ => runner
  | .stop => runner.handleStopAck response answers
  | .evict => runner.cleanupSlot response.slotId

/-- `shouldDropOutput` lets only outputs of running slots pass. -/
def Passes : Prop :=
  runner.HasSlot slotId ∧ (runner.slots slotId).state = .running

instance (runner : TtsRunner) (slotId : Nat) : Decidable (runner.Passes slotId) :=
  inferInstanceAs (Decidable (_ ∧ _))

def handleTokenOutput (output : TokenOutput) (answers : Answers) : TtsRunner :=
  if runner.Passes output.slotId ∧ output.final then
    (runner.setSlot output.slotId
        { runner.slots output.slotId with completionPending := true }).maybeFinalizeCompletedSlot
      output.slotId answers
  else runner

/-- Pushes the samples of an output; a run whose chunk is lost is to be stopped. -/
def pushAudio (output : AudioOutput) (answers : Answers) : TtsRunner :=
  if output.samplesBf16 = [] then runner
  else if answers.chunk then runner.send output.message
  else runner.requestStop output.slotId answers

def handleAudioOutput (output : AudioOutput) (answers : Answers) : TtsRunner :=
  if runner.Passes output.slotId then
    let pushed := runner.pushAudio output answers
    if output.last then
      (pushed.setSlot output.slotId
          { pushed.slots output.slotId with audioLastReceived := true }).maybeFinalizeCompletedSlot
        output.slotId answers
    else pushed
  else runner

end TtsRunner
end InferenceServer.Tts
