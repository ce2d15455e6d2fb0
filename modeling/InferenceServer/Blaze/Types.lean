import Mathlib.Logic.Function.Basic

/-! Data of the Blaze decode and prefill runners: sequences, memory requests,
scheduler messages and slot contexts. A runner with `maxUsers = n` has the
slots `Fin n`; a slot id read from a message is `none` when it is
`INVALID_SLOT` or not below `maxUsers`. -/
namespace InferenceServer.Blaze

/-- `BlazeDecodeRunner` or `BlazePrefillRunner`: one machine that differs in the
slot a task names, the request a task becomes and the output it reads. -/
inductive RunnerKind
  | decode
  | prefill
  deriving DecidableEq, Repr

/-- The configuration read by the handlers, and the runner that reads it. -/
structure BlazeConfig where
  kind : RunnerKind
  enableMigration : Bool
  maxContextLength : Nat

inductive SlotState
  | free
  | idle
  | running
  | awaitingStopAck
  | awaitingEvictAck
  deriving DecidableEq, Repr

structure SamplingParams where
  maxTokens : Option Int32 := none
  ignoreEos : Bool := false
  stopTokenIds : List UInt32 := []
  fastMode : Bool := false
  deriving DecidableEq

/-- A task of the task queue. The slots are raw ids: `kvCacheSlot` names a slot
of the decode runner, also in a task of the prefill runner. -/
structure Sequence where
  taskId : UInt32
  tokenIds : List UInt32 := []
  samplingParams : SamplingParams := {}
  kvCacheSlot : UInt32 := 0xFFFFFFFF
  prefillKvCacheSlot : UInt32 := 0xFFFFFFFF
  kvPositionId : Option UInt32 := none
  migrationId : Option UInt64 := none
  migrationStartPosition : Option UInt32 := none
  continuation : Bool := false
  disaggregated : Bool := false
  startsInThinking : Bool := false
  deriving DecidableEq

/-- The raw slot id `getKVCacheSlot` or `getPrefillKVCacheSlot` gives the runner. -/
def Sequence.rawSlot (kind : RunnerKind) (task : Sequence) : UInt32 :=
  match kind with
  | .decode => task.kvCacheSlot
  | .prefill => task.prefillKvCacheSlot

/-- The slot a raw id names, when it is below `maxUsers`. -/
def toSlot (n : Nat) (raw : UInt32) : Option (Fin n) :=
  if inRange : raw.toNat < n then some ⟨raw.toNat, inRange⟩ else none

/-- The slot of the runner a task runs on. -/
def Sequence.slot (kind : RunnerKind) (n : Nat) (task : Sequence) : Option (Fin n) :=
  toSlot n (task.rawSlot kind)

inductive MemoryManagementAction
  | allocate
  | deallocate
  | move
  deriving DecidableEq, Repr

structure ManageMemoryTask (n : Nat) where
  taskId : UInt32
  action : MemoryManagementAction := .allocate
  slotId : Option (Fin n) := none
  slotIdToCopyFrom : Option UInt32 := none
  deriving DecidableEq

inductive RequestType
  | allocate
  | submit
  | continue
  | evict
  | stop
  deriving DecidableEq, Repr

structure GenerationParams where
  maxNewTokens : UInt32 := 0
  specDecode : Bool := false
  ignoreEos : Bool := false
  disaggregatedDecode : Bool := false
  startsInThinking : Bool := false
  stopTokens : List UInt32 := []
  deriving DecidableEq

/-- A request pushed to the scheduler. `SUBMIT` and `CONTINUE` requests carry no
request id. -/
structure ISRequest (n : Nat) where
  type : RequestType
  requestId : UInt32 := 0
  slotId : Option (Fin n) := none
  tokens : List UInt32 := []
  gen : GenerationParams := {}
  positionId : Option UInt32 := none
  destSlotId : Option UInt32 := none
  migrationUuid : Option UInt64 := none
  migrationStartPosition : Option UInt32 := none
  migrateFromSlot : Option UInt32 := none
  deriving DecidableEq

structure SchedulerResponse (n : Nat) where
  requestType : RequestType
  requestId : UInt32 := 0
  slotId : Option (Fin n) := none
  errorCode : Int32 := 0
  migrationComplete : Bool := false
  deriving DecidableEq

/-- A scheduler output. It names its slot only, not the request it belongs to. -/
structure OutputMessage (n : Nat) where
  slotId : Fin n
  tokenId : UInt32 := 0
  isComplete : Bool := false
  prefillComplete : Bool := false
  ctxExhausted : Bool := false
  positionId : UInt32 := 0
  realPos : UInt32 := 0
  deriving DecidableEq

/-- A token of the result queue. -/
structure SharedToken where
  taskId : UInt32
  tokenId : UInt32
  flags : UInt32
  specAccepts : UInt32
  specRejects : UInt32
  deriving DecidableEq

def flagFinal : UInt32 := 1
def flagError : UInt32 := 2
def flagAbort : UInt32 := 8

def SharedToken.isFinal (token : SharedToken) : Bool := token.flags &&& flagFinal != 0
def SharedToken.isAbort (token : SharedToken) : Bool := token.flags &&& flagAbort != 0

/-- Why a handler leaves the run loop: an exception, or an access the code does
not check. -/
inductive Fault
  | illegalTransition (before after : SlotState)
  | badOptionalAccess
  | slotOutOfRange
  deriving DecidableEq, Repr

/-- Failed `assert`s. A release build carries on behind them. -/
inductive Assertion
  | alreadyBound
  | notBound
  | unexpectedAction
  | unexpectedResponse
  | doubleDeallocate
  | deallocateFree
  | outputNotRunning
  | submitUnexpectedState
  deriving DecidableEq, Repr

structure SlotContext (n : Nat) where
  state : SlotState := .free
  taskId : Option UInt32 := none
  ignoreEos : Bool := false
  specAcceptsAtStart : UInt32 := 0
  specRejectsAtStart : UInt32 := 0
  tokensGenerated : UInt32 := 0
  pendingAckRequestId : Option UInt32 := none
  deferredEvict : Option (ISRequest n) := none
  deferredContinue : Option Sequence := none
  currentPosition : UInt32 := 0
  deriving DecidableEq

/-- The transitions `setState` accepts besides staying in a state. -/
def SlotState.legal : SlotState → SlotState → Bool
  | .free, after => after = .idle
  | .idle, after => after = .running || after = .awaitingEvictAck
  | .running, after =>
    after = .idle || after = .awaitingStopAck || after = .awaitingEvictAck
  | .awaitingStopAck, after => after = .idle || after = .awaitingEvictAck
  | .awaitingEvictAck, after => after = .free

def SlotContext.setState (slot : SlotContext n) (newState : SlotState) :
    Except Fault (SlotContext n) :=
  if newState = slot.state then .ok slot
  else if slot.state.legal newState then .ok { slot with state := newState }
  else .error (.illegalTransition slot.state newState)

theorem SlotContext.setState_ok {slot : SlotContext n}
    (permitted : newState = slot.state ∨ slot.state.legal newState = true) :
    slot.setState newState = .ok { slot with state := newState } := by
  unfold SlotContext.setState
  split
  · rename_i same
    rw [same]
  · rename_i differs
    rw [if_pos (permitted.resolve_left differs)]

/-- Work the scheduler's full queue turned down, retried on the next step: one
entry of each kind. -/
structure PendingRequests (n : Nat) where
  pendingTask : Option Sequence := none
  pendingMemoryTask : Option (ManageMemoryTask n) := none
  pendingCancelTaskId : Option UInt32 := none
  deriving DecidableEq

/-- `makeAllocateRequest`: the copy source is passed on with migration enabled. -/
def makeAllocateRequest (config : BlazeConfig) (requestId : UInt32)
    (migrateFromSlot : Option UInt32) : ISRequest n :=
  { type := .allocate, requestId
    migrateFromSlot := if config.enableMigration then migrateFromSlot else none }

def makeEvictRequest (requestId : UInt32) (slotId : Fin n) : ISRequest n :=
  { type := .evict, requestId, slotId := some slotId }

def makeStopRequest (requestId : UInt32) (slotId : Fin n) : ISRequest n :=
  { type := .stop, requestId, slotId := some slotId }

def makeGenerationParams (config : BlazeConfig) (seq : Sequence) : GenerationParams :=
  { maxNewTokens := match seq.samplingParams.maxTokens with
      | some maxTokens => maxTokens.toUInt32
      | none => UInt32.ofNat config.maxContextLength
    specDecode := seq.samplingParams.fastMode
    ignoreEos := seq.samplingParams.ignoreEos
    disaggregatedDecode := config.enableMigration && seq.disaggregated
    startsInThinking := seq.startsInThinking
    stopTokens := seq.samplingParams.stopTokenIds }

def fillSequenceFields (config : BlazeConfig) (req : ISRequest n) (seq : Sequence) :
    ISRequest n :=
  { req with
    tokens := seq.tokenIds
    gen := makeGenerationParams config seq
    positionId := if seq.kvPositionId.isSome then seq.kvPositionId else req.positionId
    migrationUuid := if config.enableMigration then seq.migrationId else req.migrationUuid }

def makeSubmitRequest (config : BlazeConfig) (slotId : Fin n) (seq : Sequence)
    (destSlotId : Option UInt32) : ISRequest n :=
  let req : ISRequest n := { type := .submit, slotId := some slotId }
  let req := if config.enableMigration then
    { req with migrationStartPosition := seq.migrationStartPosition, destSlotId } else req
  fillSequenceFields config req seq

def makeContinueRequest (config : BlazeConfig) (slotId : Fin n) (seq : Sequence)
    (destSlotId : Option UInt32) : ISRequest n :=
  let req : ISRequest n := { type := .continue, slotId := some slotId }
  let req := if config.enableMigration then { req with destSlotId } else req
  fillSequenceFields config req seq

end InferenceServer.Blaze
