import InferenceServer.Blaze.SlotManager

/-! The handlers of `BlazeDecodeRunner` and `BlazePrefillRunner`. Both runners
have the same handlers up to the kind in their configuration. A handler either
ends with a runner or leaves the run loop with a fault; failed assertions are
logged and the handler carries on, as a release build does. -/
namespace InferenceServer.Blaze

/-- A run the scheduler is working on: the task of its SUBMIT or CONTINUE, and
whether an output of it has been enqueued. -/
structure ActiveRun where
  task : UInt32
  emitted : Bool := false
  deriving DecidableEq

/-- The scheduler as the runner sees it. ALLOCATE, STOP and EVICT requests wait
for an answer; responses and outputs travel in two FIFO queues. The task that
produced an output is known to the scheduler only. -/
structure SchedulerPort (n : Nat) where
  awaiting : List (ISRequest n) := []
  active : Fin n → Option ActiveRun := fun _ => none
  responses : List (SchedulerResponse n) := []
  outputs : List (OutputMessage n × UInt32) := []

/-- The scheduler takes a request, made for `task` when it is a SUBMIT or CONTINUE. -/
def SchedulerPort.accept (port : SchedulerPort n) (request : ISRequest n)
    (task : Option UInt32) : SchedulerPort n :=
  match task, request.slotId with
  | some task, some slotId =>
    { port with active := Function.update port.active slotId (some { task }) }
  | _, _ => { port with awaiting := port.awaiting ++ [request] }

/-- The scheduler's side of one handler call: whether `push_request` succeeds and
the speculation counters it reports. -/
structure SchedulerAnswer where
  accepts : Bool
  specAccepts : UInt32 := 0
  specRejects : UInt32 := 0
  deriving DecidableEq

/-- What a runner does to the outside, oldest first. `push` keeps the task a
SUBMIT or CONTINUE is made for, and `evictedRunning` marks the task whose
running slot an EVICT takes; the source's requests and queues carry neither. -/
inductive Effect (n : Nat)
  | token (token : SharedToken)
  | push (request : ISRequest n) (task : Option UInt32) (accepted : Bool)
  | allocateReply (taskId : UInt32) (slotId : Option (Fin n))
  | assertion (failed : Assertion)
  | evictedRunning (taskId : UInt32)
  deriving DecidableEq

/-- A runner over some way of keeping its slots: a slot manager for the runners
themselves. -/
structure Runner (Slots : Type) (n : Nat) where
  slotManager : Slots
  pendingRequests : PendingRequests n := {}
  scheduler : SchedulerPort n := {}
  log : List (Effect n) := []

/-- The decode and prefill runners keep their slots in a slot manager. -/
abbrev BlazeRunner (n : Nat) := Runner (SlotManager n) n

namespace Runner

section Outside

variable {Slots : Type}

def note (r : Runner Slots n) (effect : Effect n) : Runner Slots n :=
  { r with log := r.log ++ [effect] }

def pushToken (r : Runner Slots n) (taskId tokenId flags specAccepts specRejects : UInt32) :
    Runner Slots n :=
  r.note (.token { taskId, tokenId, flags, specAccepts, specRejects })

/-- `push_request`, with the scheduler's answer. -/
def pushRequest (r : Runner Slots n) (answer : SchedulerAnswer) (request : ISRequest n)
    (task : Option UInt32) : Runner Slots n :=
  { r with
    scheduler := if answer.accepts then r.scheduler.accept request task else r.scheduler
    log := r.log ++ [.push request task answer.accepts] }

def deferTask (r : Runner Slots n) (task : Sequence) : Runner Slots n :=
  { r with pendingRequests := { r.pendingRequests with pendingTask := some task } }

def deferMemoryTask (r : Runner Slots n) (request : ManageMemoryTask n) : Runner Slots n :=
  { r with pendingRequests := { r.pendingRequests with pendingMemoryTask := some request } }

def deferCancel (r : Runner Slots n) (taskId : UInt32) : Runner Slots n :=
  { r with pendingRequests := { r.pendingRequests with pendingCancelTaskId := some taskId } }

def dropPendingTask (r : Runner Slots n) : Runner Slots n :=
  { r with pendingRequests := { r.pendingRequests with pendingTask := none } }

def takePendingMemoryTask (r : Runner Slots n) : Runner Slots n :=
  { r with pendingRequests := { r.pendingRequests with pendingMemoryTask := none } }

def takePendingCancel (r : Runner Slots n) : Runner Slots n :=
  { r with pendingRequests := { r.pendingRequests with pendingCancelTaskId := none } }

/-- `try_pop_response` took the oldest response off its queue. -/
def popResponse (r : Runner Slots n) (rest : List (SchedulerResponse n)) : Runner Slots n :=
  { r with scheduler := { r.scheduler with responses := rest } }

/-- `try_pop_output` took the oldest output off its queue. -/
def popOutput (r : Runner Slots n) (rest : List (OutputMessage n × UInt32)) : Runner Slots n :=
  { r with scheduler := { r.scheduler with outputs := rest } }

/-- Tells the client of a dropped task that its stream is over. -/
def closeDropped (r : Runner Slots n) (task : Sequence) : Runner Slots n :=
  r.pushToken task.taskId 0 (flagFinal ||| flagAbort) 0 0

/-- An accepted EVICT drops the pending task of its slot. -/
def evictPendingTask (config : BlazeConfig) (r : Runner Slots n) (slotId : Fin n) :
    Runner Slots n :=
  match r.pendingRequests.pendingTask with
  | none => r
  | some task =>
    if task.slot config.kind n = some slotId then r.dropPendingTask.closeDropped task else r

def handleAllocateRequest (config : BlazeConfig) (r : Runner Slots n) (answer : SchedulerAnswer)
    (request : ManageMemoryTask n) : Runner Slots n :=
  let r := r.pushRequest answer
    (makeAllocateRequest config request.taskId request.slotIdToCopyFrom) none
  if answer.accepts then r else r.deferMemoryTask request

section Kept

variable (r : Runner Slots n)

@[simp] theorem note_slotManager (effect : Effect n) :
    (r.note effect).slotManager = r.slotManager := rfl
@[simp] theorem pushToken_slotManager (taskId tokenId flags accepts rejects : UInt32) :
    (r.pushToken taskId tokenId flags accepts rejects).slotManager = r.slotManager := rfl
@[simp] theorem pushRequest_slotManager (answer : SchedulerAnswer) (request : ISRequest n)
    (task : Option UInt32) : (r.pushRequest answer request task).slotManager = r.slotManager := rfl
@[simp] theorem pushRequest_pending (answer : SchedulerAnswer) (request : ISRequest n)
    (task : Option UInt32) :
    (r.pushRequest answer request task).pendingRequests = r.pendingRequests := rfl
@[simp] theorem deferTask_slotManager (task : Sequence) :
    (r.deferTask task).slotManager = r.slotManager := rfl
@[simp] theorem deferMemoryTask_slotManager (request : ManageMemoryTask n) :
    (r.deferMemoryTask request).slotManager = r.slotManager := rfl
@[simp] theorem deferCancel_slotManager (taskId : UInt32) :
    (r.deferCancel taskId).slotManager = r.slotManager := rfl
@[simp] theorem dropPendingTask_slotManager : r.dropPendingTask.slotManager = r.slotManager := rfl
@[simp] theorem closeDropped_slotManager (task : Sequence) :
    (r.closeDropped task).slotManager = r.slotManager := rfl

@[simp] theorem evictPendingTask_slotManager (config : BlazeConfig) (s : Fin n) :
    (r.evictPendingTask config s).slotManager = r.slotManager := by
  unfold evictPendingTask
  repeat' split
  all_goals rfl

end Kept

end Outside

variable (config : BlazeConfig)

/-- A new runner: all slots are FREE and nothing is pending. -/
def initial (n : Nat) : BlazeRunner n := { slotManager := SlotManager.initial n }

def modifySlot (r : BlazeRunner n) (slotId : Fin n)
    (change : SlotContext n → SlotContext n) : BlazeRunner n :=
  { r with slotManager := r.slotManager.modify slotId change }

def setSlotState (r : BlazeRunner n) (slotId : Fin n) (state : SlotState) :
    Except Fault (BlazeRunner n) := do
  return { r with slotManager := ← r.slotManager.setSlotState slotId state }

def setSlotAsIdle (r : BlazeRunner n) (slotId : Fin n) : Except Fault (BlazeRunner n) := do
  return { r with slotManager := ← r.slotManager.setSlotAsIdle slotId }

def clearSlotContext (r : BlazeRunner n) (slotId : Fin n) : Except Fault (BlazeRunner n) := do
  return { r with slotManager := ← r.slotManager.clearSlotContext slotId }

def bindTaskToSlot (r : BlazeRunner n) (taskId : UInt32) (slotId : Fin n) : BlazeRunner n :=
  let r := if r.slotManager.isBound taskId then r.note (.assertion .alreadyBound) else r
  { r with slotManager := r.slotManager.bindTaskToSlot taskId slotId }

def unbindTaskFromSlot (r : BlazeRunner n) (taskId : UInt32) : BlazeRunner n :=
  let r := if r.slotManager.isBound taskId then r else r.note (.assertion .notBound)
  { r with slotManager := r.slotManager.unbindTaskFromSlot taskId }

def handleEvictRequest (r : BlazeRunner n) (answer : SchedulerAnswer)
    (request : ManageMemoryTask n) : Except Fault (BlazeRunner n) := do
  let some slotId := request.slotId | throw .slotOutOfRange
  let slotContext := r.slotManager.getSlotContext slotId
  let evictRequest := makeEvictRequest request.taskId slotId
  match slotContext.state with
  | .idle | .running =>
    let r := r.pushRequest answer evictRequest none
    if !answer.accepts then return r.deferMemoryTask request
    let r := r.evictPendingTask config slotId
    let r ← if slotContext.state = .running then
        match slotContext.taskId with
        | none => throw .badOptionalAccess
        | some taskId => pure ((r.unbindTaskFromSlot taskId).note (.evictedRunning taskId))
      else pure r
    let r := r.modifySlot slotId fun slot =>
      { slot with pendingAckRequestId := some request.taskId }
    r.setSlotState slotId .awaitingEvictAck
  | .awaitingStopAck =>
    let r := match slotContext.deferredContinue with
      | none => r
      | some task => (r.modifySlot slotId fun slot =>
          { slot with deferredContinue := none }).closeDropped task
    return r.modifySlot slotId fun slot => { slot with deferredEvict := some evictRequest }
  | .awaitingEvictAck => return r.note (.assertion .doubleDeallocate)
  | .free => return r.note (.assertion .deallocateFree)

def handleMemoryRequest (r : BlazeRunner n) (answer : SchedulerAnswer)
    (request : ManageMemoryTask n) : Except Fault (BlazeRunner n) :=
  match request.action with
  | .allocate => .ok (r.handleAllocateRequest config answer request)
  | .deallocate => r.handleEvictRequest config answer request
  | .move => .ok (r.note (.assertion .unexpectedAction))

/-- The request an IDLE slot's task becomes. The decode runner continues a slot
whose KV cache is already filled; the prefill runner always submits, to a
decode slot when the KV rows migrate there. -/
def taskRequest (slotId : Fin n) (task : Sequence) : ISRequest n :=
  match config.kind with
  | .decode =>
    if !task.continuation && !task.disaggregated then makeSubmitRequest config slotId task none
    else makeContinueRequest config slotId task none
  | .prefill =>
    makeSubmitRequest config slotId task (if task.migrationId.isSome then some task.kvCacheSlot
      else none)

/-- The decode runner moves a continued slot to the task's KV position, also when
the push fails afterwards. -/
def resumePosition (task : Sequence) (slot : SlotContext n) : SlotContext n :=
  match config.kind, task.kvPositionId with
  | .decode, some position =>
    if task.continuation || task.disaggregated then { slot with currentPosition := position }
    else slot
  | _, _ => slot

def initSlotForRun (answer : SchedulerAnswer) (task : Sequence) (slot : SlotContext n) :
    SlotContext n :=
  let slot := { slot with
    ignoreEos := task.samplingParams.ignoreEos, taskId := some task.taskId, tokensGenerated := 0 }
  match config.kind with
  | .decode => { slot with
      specAcceptsAtStart := answer.specAccepts, specRejectsAtStart := answer.specRejects }
  | .prefill => slot

def handleTask (r : BlazeRunner n) (answer : SchedulerAnswer) (task : Sequence) :
    Except Fault (BlazeRunner n) := do
  let some slotId := task.slot config.kind n | throw .slotOutOfRange
  match (r.slotManager.getSlotContext slotId).state with
  | .idle =>
    let r := r.modifySlot slotId (resumePosition config task)
    let r := r.pushRequest answer (taskRequest config slotId task) (some task.taskId)
    if !answer.accepts then return r.deferTask task
    let r := r.modifySlot slotId (initSlotForRun config answer task)
    let r := r.bindTaskToSlot task.taskId slotId
    r.setSlotState slotId .running
  | .awaitingStopAck =>
    return r.modifySlot slotId fun slot => { slot with deferredContinue := some task }
  | .awaitingEvictAck => return r.closeDropped task
  | .free | .running => return r.note (.assertion .submitUnexpectedState)

/-- Runs what was latched while the slot waited for its STOP ack: a deferred
eviction wins over a deferred task. -/
def handleDeferredAction (r : BlazeRunner n) (answer : SchedulerAnswer) (slotId : Fin n) :
    Except Fault (BlazeRunner n) :=
  let slot := r.slotManager.getSlotContext slotId
  match slot.deferredEvict with
  | some evictReq =>
    let r := match slot.deferredContinue with
      | none => r
      | some task => (r.modifySlot slotId fun slot =>
          { slot with deferredContinue := none }).closeDropped task
    let r := r.modifySlot slotId fun slot => { slot with deferredEvict := none }
    r.handleEvictRequest config answer
      { taskId := evictReq.requestId, action := .deallocate, slotId := evictReq.slotId }
  | none =>
    match slot.deferredContinue with
    | some task =>
      (r.modifySlot slotId fun slot => { slot with deferredContinue := none }).handleTask
        config answer task
    | none => .ok r

def handleAllocateAck (r : BlazeRunner n) (taskId : UInt32) (slotId : Option (Fin n)) :
    Except Fault (BlazeRunner n) :=
  match slotId with
  | none => .ok (r.note (.allocateReply taskId none))
  | some slotId => do
    let r ← r.setSlotState slotId .idle
    return r.note (.allocateReply taskId (some slotId))

/-- The slot whose pending ack a response answers; none for a stale ack. -/
def validateAck (r : BlazeRunner n) (taskId : UInt32) (slotId : Fin n) : Bool :=
  (r.slotManager.getSlotContext slotId).pendingAckRequestId = some taskId

def handleEvictAck (r : BlazeRunner n) (taskId : UInt32) (slotId : Fin n) :
    Except Fault (BlazeRunner n) :=
  if r.validateAck taskId slotId then r.clearSlotContext slotId else .ok r

def handleStopAck (r : BlazeRunner n) (answer : SchedulerAnswer) (taskId : UInt32)
    (slotId : Fin n) : Except Fault (BlazeRunner n) :=
  if r.validateAck taskId slotId then do
    let r ← r.setSlotAsIdle slotId
    r.handleDeferredAction config answer slotId
  else .ok r

def handleSubmitError (r : BlazeRunner n) (slotId : Fin n) : Except Fault (BlazeRunner n) := do
  let slotContext := r.slotManager.getSlotContext slotId
  if slotContext.state ≠ .running then return r
  let some taskId := slotContext.taskId | throw .badOptionalAccess
  let r ← r.setSlotAsIdle slotId
  return r.pushToken taskId 0 (flagError ||| flagFinal) 0 0

/-- A CONTINUE response only reports a finished migration to the decode runner;
anything else unexpected is logged by the assertion. -/
def handleSchedulerResponse (r : BlazeRunner n) (answer : SchedulerAnswer)
    (response : SchedulerResponse n) : Except Fault (BlazeRunner n) :=
  match response.requestType, response.slotId with
  | .allocate, slotId => r.handleAllocateAck response.requestId slotId
  | .evict, some slotId => r.handleEvictAck response.requestId slotId
  | .stop, some slotId => r.handleStopAck config answer response.requestId slotId
  | .submit, some slotId => r.handleSubmitError slotId
  | .continue, slotId =>
    if config.kind = .decode ∧ response.migrationComplete then
      if slotId.isSome then .ok r else .error .slotOutOfRange
    else .ok (r.note (.assertion .unexpectedResponse))
  | _, none => .error .slotOutOfRange

/-- An exhausted context ends a decode normally and fails a prefill. -/
def exhaustedFlags (kind : RunnerKind) : UInt32 :=
  match kind with
  | .decode => flagFinal
  | .prefill => flagError ||| flagFinal

def outputFinished (kind : RunnerKind) (output : OutputMessage n) : Bool :=
  match kind with
  | .decode => output.isComplete
  | .prefill => output.prefillComplete

def noteOutput (kind : RunnerKind) (output : OutputMessage n) (slot : SlotContext n) :
    SlotContext n :=
  match kind with
  | .decode => { slot with
      tokensGenerated := slot.tokensGenerated + 1, currentPosition := output.positionId }
  | .prefill => { slot with currentPosition := output.realPos }

/-- The turn's accepted or rejected speculations: the counter less its value at
the start. The prefill runner does not speculate. -/
def specDelta (kind : RunnerKind) (finished : Bool) (now atStart : UInt32) : UInt32 :=
  if kind = .decode ∧ finished then now - atStart else 0

def handleSchedulerOutput (r : BlazeRunner n) (answer : SchedulerAnswer)
    (output : OutputMessage n) : Except Fault (BlazeRunner n) := do
  let slotContext := r.slotManager.getSlotContext output.slotId
  match slotContext.state with
  | .awaitingStopAck | .awaitingEvictAck => return r
  | .free | .idle => return r.note (.assertion .outputNotRunning)
  | .running =>
    let some taskId := slotContext.taskId | throw .badOptionalAccess
    if output.ctxExhausted then
      let r ← r.setSlotAsIdle output.slotId
      return r.pushToken taskId output.tokenId (exhaustedFlags config.kind) 0 0
    let finished := outputFinished config.kind output
    let r := r.modifySlot output.slotId (noteOutput config.kind output)
    let r ← if finished then r.setSlotAsIdle output.slotId else pure r
    return r.pushToken taskId output.tokenId (if finished then flagFinal else 0)
      (specDelta config.kind finished answer.specAccepts slotContext.specAcceptsAtStart)
      (specDelta config.kind finished answer.specRejects slotContext.specRejectsAtStart)

/-- A cancel drops the pending retry of its task or stops the task's slot; a task
found in neither place is left alone. -/
def handleStopRequest (r : BlazeRunner n) (answer : SchedulerAnswer) (taskId : UInt32) :
    Except Fault (BlazeRunner n) := do
  if r.pendingRequests.pendingTask.map Sequence.taskId = some taskId then
    return r.dropPendingTask
  let some slotId := r.slotManager.getSlotByTaskId taskId | return r
  if (r.slotManager.getSlotContext slotId).state ≠ .running then return r
  let r := r.pushRequest answer (makeStopRequest taskId slotId) none
  if !answer.accepts then return r.deferCancel taskId
  let r := r.modifySlot slotId fun slot => { slot with pendingAckRequestId := some taskId }
  let r ← r.setSlotState slotId .awaitingStopAck
  let r := r.unbindTaskFromSlot taskId
  return r.pushToken taskId 0 flagAbort 0 0

end Runner

end InferenceServer.Blaze
