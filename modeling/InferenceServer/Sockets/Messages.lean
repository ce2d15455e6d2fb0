import InferenceServer.Machine.Codec

/-! The messages between the prefill and the decode side. Each goes out as its tag and then
its fields, through an archive that keeps every primitive, string and vector. Two messages
write a number in place of an absent one, so that number is read back as absent. -/
namespace InferenceServer.Sockets

open Machine

/-- A string is its bytes. -/
abbrev ByteString := Vec UInt8

def invalidSlotId : UInt32 := 0xFFFFFFFF

/-- The binary archive: how each type of field is kept. -/
structure BinaryArchive where
  bool : Codec Bool
  int : Codec Int32
  uint32 : Codec UInt32
  uint64 : Codec UInt64
  float : Codec Float32Bits
  string : Codec ByteString
  uint32s : Codec (Vec UInt32)
  uint64s : Codec (Vec UInt64)

/-- An archive that copies the bytes of numbers, and of vectors behind their length. -/
def BinaryArchive.host : BinaryArchive where
  bool := .scalar
  int := .scalar
  uint32 := .scalar
  uint64 := .scalar
  float := .scalar
  string := .counted .scalar
  uint32s := .counted .scalar
  uint64s := .counted .scalar

structure PrefillRequestMessage where
  taskId : UInt32
  registrationHashes : Vec UInt64 := .empty
  tokenIds : Vec UInt32 := .empty
  maxTokens : Option Int32 := none
  slotId : Option UInt32 := none
  temperature : Option Float32Bits := none
  topP : Option Float32Bits := none
  topK : Option Int32 := none
  fastMode : Bool := false
  decodePositionId : Int32 := 0
  decodeSkipTokens : Int32 := 0
  traceparent : ByteString := .empty
  deriving DecidableEq

namespace PrefillRequestMessage

def write (ar : BinaryArchive) (msg : PrefillRequestMessage) : List UInt8 :=
  let mt := msg.maxTokens.getD (-1)
  let sid := msg.slotId.getD invalidSlotId
  [ar.uint32.write msg.taskId, ar.uint64s.write msg.registrationHashes,
    ar.uint32s.write msg.tokenIds, ar.int.write mt, ar.uint32.write sid,
    ar.bool.write msg.temperature.isSome, ar.float.write (msg.temperature.getD 0),
    ar.bool.write msg.topP.isSome, ar.float.write (msg.topP.getD 0),
    ar.bool.write msg.topK.isSome, ar.int.write (msg.topK.getD 0),
    ar.bool.write msg.fastMode, ar.int.write msg.decodePositionId,
    ar.int.write msg.decodeSkipTokens, ar.string.write msg.traceparent].flatten

def read (ar : BinaryArchive) : Reader PrefillRequestMessage := do
  let taskId ← ar.uint32.read
  let registrationHashes ← ar.uint64s.read
  let tokenIds ← ar.uint32s.read
  let mt ← ar.int.read
  let sid ← ar.uint32.read
  let hasTemp ← ar.bool.read
  let tempVal ← ar.float.read
  let hasTopP ← ar.bool.read
  let topPVal ← ar.float.read
  let hasTopK ← ar.bool.read
  let topKVal ← ar.int.read
  let fastMode ← ar.bool.read
  let decodePositionId ← ar.int.read
  let decodeSkipTokens ← ar.int.read
  let traceparent ← ar.string.read
  return {
    taskId, registrationHashes, tokenIds
    maxTokens := if mt = -1 then none else some mt
    slotId := if sid = invalidSlotId then none else some sid
    temperature := if hasTemp then some tempVal else none
    topP := if hasTopP then some topPVal else none
    topK := if hasTopK then some topKVal else none
    fastMode, decodePositionId, decodeSkipTokens, traceparent }

end PrefillRequestMessage

structure PrefillResultMessage where
  taskId : UInt32
  generatedText : ByteString := .empty
  error : Bool := false
  tokenIds : Vec UInt32 := .empty
  remainingTokens : Option Int32 := none
  slotId : Option UInt32 := none
  temperature : Option Float32Bits := none
  topP : Option Float32Bits := none
  topK : Option Int32 := none
  fastMode : Bool := false
  cachedTokens : Int32 := 0
  migrationId : UInt64 := 0
  sessionId : ByteString := .empty
  deriving DecidableEq

namespace PrefillResultMessage

def write (ar : BinaryArchive) (msg : PrefillResultMessage) : List UInt8 :=
  let rt := msg.remainingTokens.getD (-1)
  let sid := msg.slotId.getD invalidSlotId
  [ar.uint32.write msg.taskId, ar.string.write msg.generatedText,
    ar.uint32s.write msg.tokenIds, ar.int.write rt, ar.uint32.write sid,
    ar.bool.write msg.error, ar.bool.write msg.temperature.isSome,
    ar.float.write (msg.temperature.getD 0), ar.bool.write msg.topP.isSome,
    ar.float.write (msg.topP.getD 0), ar.bool.write msg.topK.isSome,
    ar.int.write (msg.topK.getD 0), ar.bool.write msg.fastMode,
    ar.int.write msg.cachedTokens, ar.uint64.write msg.migrationId,
    ar.string.write msg.sessionId].flatten

def read (ar : BinaryArchive) : Reader PrefillResultMessage := do
  let taskId ← ar.uint32.read
  let generatedText ← ar.string.read
  let tokenIds ← ar.uint32s.read
  let rt ← ar.int.read
  let sid ← ar.uint32.read
  let error ← ar.bool.read
  let hasTemp ← ar.bool.read
  let tempVal ← ar.float.read
  let hasTopP ← ar.bool.read
  let topPVal ← ar.float.read
  let hasTopK ← ar.bool.read
  let topKVal ← ar.int.read
  let fastMode ← ar.bool.read
  let cachedTokens ← ar.int.read
  let migrationId ← ar.uint64.read
  let sessionId ← ar.string.read
  return {
    taskId, generatedText, tokenIds
    remainingTokens := if rt = -1 then none else some rt
    slotId := if sid = invalidSlotId then none else some sid
    error
    temperature := if hasTemp then some tempVal else none
    topP := if hasTopP then some topPVal else none
    topK := if hasTopK then some topKVal else none
    fastMode, cachedTokens, migrationId, sessionId }

end PrefillResultMessage

structure PrefillHealthRequestMessage where
  deriving DecidableEq

structure PrefillHealthStatusMessage where
  ready : Bool := false
  deriving DecidableEq

structure PrefillRegistrationMessage where
  serverId : ByteString := .empty
  maxInFlight : UInt32 := 0
  deriving DecidableEq

structure CancelPrefillMessage where
  taskId : UInt32 := 0
  deriving DecidableEq

structure RegistrationProbeMessage where
  deriving DecidableEq

structure PrefillCacheBlocksAddedMessage where
  serverId : ByteString := .empty
  blockHashes : Vec UInt64 := .empty
  deriving DecidableEq

structure SlotReservationRequestMessage where
  taskId : UInt32 := 0
  prefillServerId : ByteString := .empty
  registrationHashes : Vec UInt64 := .empty
  hasPreviousResponseId : Bool := false
  previousResponseId : ByteString := .empty
  deriving DecidableEq

structure SlotReservationResponseMessage where
  taskId : UInt32 := 0
  hasSlot : Bool := false
  slotId : UInt32 := invalidSlotId
  sessionId : ByteString := .empty
  decodePositionId : Int32 := 0
  decodeSkipTokens : Int32 := 0
  continuation : Bool := false
  accumulatedThinkTokens : Int32 := 0
  error : Bool := false
  errorText : ByteString := .empty
  deriving DecidableEq

/-! The fields of the other messages, in the order in which they are written and read. -/

def PrefillHealthRequestMessage.fields : Codec PrefillHealthRequestMessage :=
  Codec.empty.record (fun _ => {}) (fun _ => ()) fun _ => rfl

def PrefillHealthStatusMessage.fields (ar : BinaryArchive) : Codec PrefillHealthStatusMessage :=
  ar.bool.record (fun ready => { ready }) (·.ready) fun _ => rfl

def PrefillRegistrationMessage.fields (ar : BinaryArchive) : Codec PrefillRegistrationMessage :=
  (ar.string.pair ar.uint32).record (fun (serverId, maxInFlight) => { serverId, maxInFlight })
    (fun msg => (msg.serverId, msg.maxInFlight)) fun _ => rfl

def CancelPrefillMessage.fields (ar : BinaryArchive) : Codec CancelPrefillMessage :=
  ar.uint32.record (fun taskId => { taskId }) (·.taskId) fun _ => rfl

def RegistrationProbeMessage.fields : Codec RegistrationProbeMessage :=
  Codec.empty.record (fun _ => {}) (fun _ => ()) fun _ => rfl

def PrefillCacheBlocksAddedMessage.fields (ar : BinaryArchive) :
    Codec PrefillCacheBlocksAddedMessage :=
  (ar.string.pair ar.uint64s).record (fun (serverId, blockHashes) => { serverId, blockHashes })
    (fun msg => (msg.serverId, msg.blockHashes)) fun _ => rfl

def SlotReservationRequestMessage.fields (ar : BinaryArchive) :
    Codec SlotReservationRequestMessage :=
  (ar.uint32.pair <| ar.string.pair <| ar.uint64s.pair <| ar.bool.pair ar.string).record
    (fun (taskId, prefillServerId, registrationHashes, hasPreviousResponseId,
        previousResponseId) =>
      { taskId, prefillServerId, registrationHashes, hasPreviousResponseId, previousResponseId })
    (fun msg => (msg.taskId, msg.prefillServerId, msg.registrationHashes,
      msg.hasPreviousResponseId, msg.previousResponseId)) fun _ => rfl

def SlotReservationResponseMessage.fields (ar : BinaryArchive) :
    Codec SlotReservationResponseMessage :=
  (ar.uint32.pair <| ar.bool.pair <| ar.uint32.pair <| ar.string.pair <| ar.int.pair <|
      ar.int.pair <| ar.bool.pair <| ar.int.pair <| ar.bool.pair ar.string).record
    (fun (taskId, hasSlot, slotId, sessionId, decodePositionId, decodeSkipTokens, continuation,
        accumulatedThinkTokens, error, errorText) =>
      { taskId, hasSlot, slotId, sessionId, decodePositionId, decodeSkipTokens, continuation,
        accumulatedThinkTokens, error, errorText })
    (fun msg => (msg.taskId, msg.hasSlot, msg.slotId, msg.sessionId, msg.decodePositionId,
      msg.decodeSkipTokens, msg.continuation, msg.accumulatedThinkTokens, msg.error,
      msg.errorText)) fun _ => rfl

inductive MessageType
  | prefillRequest
  | prefillResult
  | prefillHealthRequest
  | prefillHealthStatus
  | prefillRegistration
  | cancelPrefill
  | registrationProbe
  | prefillCacheBlocksAdded
  | slotReservationRequest
  | slotReservationResponse
  deriving DecidableEq

inductive Message
  | prefillRequest (msg : PrefillRequestMessage)
  | prefillResult (msg : PrefillResultMessage)
  | prefillHealthRequest (msg : PrefillHealthRequestMessage)
  | prefillHealthStatus (msg : PrefillHealthStatusMessage)
  | prefillRegistration (msg : PrefillRegistrationMessage)
  | cancelPrefill (msg : CancelPrefillMessage)
  | registrationProbe (msg : RegistrationProbeMessage)
  | prefillCacheBlocksAdded (msg : PrefillCacheBlocksAddedMessage)
  | slotReservationRequest (msg : SlotReservationRequestMessage)
  | slotReservationResponse (msg : SlotReservationResponseMessage)
  deriving DecidableEq

namespace Message

def type : Message → MessageType
  | .prefillRequest _ => .prefillRequest
  | .prefillResult _ => .prefillResult
  | .prefillHealthRequest _ => .prefillHealthRequest
  | .prefillHealthStatus _ => .prefillHealthStatus
  | .prefillRegistration _ => .prefillRegistration
  | .cancelPrefill _ => .cancelPrefill
  | .registrationProbe _ => .registrationProbe
  | .prefillCacheBlocksAdded _ => .prefillCacheBlocksAdded
  | .slotReservationRequest _ => .slotReservationRequest
  | .slotReservationResponse _ => .slotReservationResponse

def write (ar : BinaryArchive) : Message → List UInt8
  | .prefillRequest msg => msg.write ar
  | .prefillResult msg => msg.write ar
  | .prefillHealthRequest msg => PrefillHealthRequestMessage.fields.write msg
  | .prefillHealthStatus msg => (PrefillHealthStatusMessage.fields ar).write msg
  | .prefillRegistration msg => (PrefillRegistrationMessage.fields ar).write msg
  | .cancelPrefill msg => (CancelPrefillMessage.fields ar).write msg
  | .registrationProbe msg => RegistrationProbeMessage.fields.write msg
  | .prefillCacheBlocksAdded msg => (PrefillCacheBlocksAddedMessage.fields ar).write msg
  | .slotReservationRequest msg => (SlotReservationRequestMessage.fields ar).write msg
  | .slotReservationResponse msg => (SlotReservationResponseMessage.fields ar).write msg

end Message

def MessageType.read (ar : BinaryArchive) : MessageType → Reader Message
  | .prefillRequest => .prefillRequest <$> PrefillRequestMessage.read ar
  | .prefillResult => .prefillResult <$> PrefillResultMessage.read ar
  | .prefillHealthRequest => .prefillHealthRequest <$> PrefillHealthRequestMessage.fields.read
  | .prefillHealthStatus => .prefillHealthStatus <$> (PrefillHealthStatusMessage.fields ar).read
  | .prefillRegistration => .prefillRegistration <$> (PrefillRegistrationMessage.fields ar).read
  | .cancelPrefill => .cancelPrefill <$> (CancelPrefillMessage.fields ar).read
  | .registrationProbe => .registrationProbe <$> RegistrationProbeMessage.fields.read
  | .prefillCacheBlocksAdded =>
    .prefillCacheBlocksAdded <$> (PrefillCacheBlocksAddedMessage.fields ar).read
  | .slotReservationRequest =>
    .slotReservationRequest <$> (SlotReservationRequestMessage.fields ar).read
  | .slotReservationResponse =>
    .slotReservationResponse <$> (SlotReservationResponseMessage.fields ar).read

def serializeMessage (ar : BinaryArchive) (messageType : ByteString) (obj : Message) : List UInt8 :=
  [ar.string.write messageType, obj.write ar].flatten

def readMessageType (ar : BinaryArchive) (data : List UInt8) : Option ByteString :=
  ar.string.read.run' data

def deserializePayload (ar : BinaryArchive) (type : MessageType) (data : List UInt8) :
    Option Message :=
  StateT.run' (do
    let _ignoredMessageType ← ar.string.read
    type.read ar) data

/-- What the other side has of a message: the number that stands for an absent one is lost. -/
def Message.received : Message → Message
  | .prefillRequest msg => .prefillRequest { msg with
      maxTokens := msg.maxTokens.filter (· ≠ -1)
      slotId := msg.slotId.filter (· ≠ invalidSlotId) }
  | .prefillResult msg => .prefillResult { msg with
      remainingTokens := msg.remainingTokens.filter (· ≠ -1)
      slotId := msg.slotId.filter (· ≠ invalidSlotId) }
  | msg => msg

/-- A value in place of an absent one is read back as absent. -/
theorem filter_eq_of_getD {T : Type} [DecidableEq T] (opt : Option T) (sentinel : T) :
    (if opt.getD sentinel = sentinel then none else some (opt.getD sentinel)) =
      opt.filter (· ≠ sentinel) := by
  cases opt with
  | none => simp
  | some value => by_cases same : value = sentinel <;> simp [Option.filter, same]

/-- A value beside a flag is read back as it was. -/
theorem eq_of_isSome_getD {T : Type} (opt : Option T) (filler : T) :
    (if opt.isSome = true then some (opt.getD filler) else none) = opt := by
  cases opt <;> rfl

section

variable (ar : BinaryArchive)
include ar

theorem PrefillRequestMessage.read_reads (msg : PrefillRequestMessage) :
    Reads (PrefillRequestMessage.read ar) (msg.write ar)
      { msg with
        maxTokens := msg.maxTokens.filter (· ≠ -1)
        slotId := msg.slotId.filter (· ≠ invalidSlotId) } := by
  rw [← filter_eq_of_getD msg.maxTokens, ← filter_eq_of_getD msg.slotId]
  refine .part (ar.uint32.reads msg.taskId) ?_
  refine .part (ar.uint64s.reads msg.registrationHashes) ?_
  refine .part (ar.uint32s.reads msg.tokenIds) ?_
  refine .part (ar.int.reads _) ?_
  refine .part (ar.uint32.reads _) ?_
  refine .part (ar.bool.reads msg.temperature.isSome) ?_
  refine .part (ar.float.reads _) ?_
  refine .part (ar.bool.reads msg.topP.isSome) ?_
  refine .part (ar.float.reads _) ?_
  refine .part (ar.bool.reads msg.topK.isSome) ?_
  refine .part (ar.int.reads _) ?_
  refine .part (ar.bool.reads msg.fastMode) ?_
  refine .part (ar.int.reads msg.decodePositionId) ?_
  refine .part (ar.int.reads msg.decodeSkipTokens) ?_
  refine .part (ar.string.reads msg.traceparent) ?_
  rw [eq_of_isSome_getD, eq_of_isSome_getD, eq_of_isSome_getD]
  exact .done _

theorem PrefillResultMessage.read_reads (msg : PrefillResultMessage) :
    Reads (PrefillResultMessage.read ar) (msg.write ar)
      { msg with
        remainingTokens := msg.remainingTokens.filter (· ≠ -1)
        slotId := msg.slotId.filter (· ≠ invalidSlotId) } := by
  rw [← filter_eq_of_getD msg.remainingTokens, ← filter_eq_of_getD msg.slotId]
  refine .part (ar.uint32.reads msg.taskId) ?_
  refine .part (ar.string.reads msg.generatedText) ?_
  refine .part (ar.uint32s.reads msg.tokenIds) ?_
  refine .part (ar.int.reads _) ?_
  refine .part (ar.uint32.reads _) ?_
  refine .part (ar.bool.reads msg.error) ?_
  refine .part (ar.bool.reads msg.temperature.isSome) ?_
  refine .part (ar.float.reads _) ?_
  refine .part (ar.bool.reads msg.topP.isSome) ?_
  refine .part (ar.float.reads _) ?_
  refine .part (ar.bool.reads msg.topK.isSome) ?_
  refine .part (ar.int.reads _) ?_
  refine .part (ar.bool.reads msg.fastMode) ?_
  refine .part (ar.int.reads msg.cachedTokens) ?_
  refine .part (ar.uint64.reads msg.migrationId) ?_
  refine .part (ar.string.reads msg.sessionId) ?_
  rw [eq_of_isSome_getD, eq_of_isSome_getD, eq_of_isSome_getD]
  exact .done _

theorem Message.read_reads (message : Message) :
    Reads (message.type.read ar) (message.write ar) message.received := by
  cases message with
  | prefillRequest msg => exact (msg.read_reads ar).map _
  | prefillResult msg => exact (msg.read_reads ar).map _
  | prefillHealthRequest msg =>
    exact (PrefillHealthRequestMessage.fields.reads msg).map _
  | prefillHealthStatus msg =>
    exact ((PrefillHealthStatusMessage.fields ar).reads msg).map _
  | prefillRegistration msg =>
    exact ((PrefillRegistrationMessage.fields ar).reads msg).map _
  | cancelPrefill msg => exact ((CancelPrefillMessage.fields ar).reads msg).map _
  | registrationProbe msg =>
    exact (RegistrationProbeMessage.fields.reads msg).map _
  | prefillCacheBlocksAdded msg =>
    exact ((PrefillCacheBlocksAddedMessage.fields ar).reads msg).map _
  | slotReservationRequest msg =>
    exact ((SlotReservationRequestMessage.fields ar).reads msg).map _
  | slotReservationResponse msg =>
    exact ((SlotReservationResponseMessage.fields ar).reads msg).map _

theorem readMessageType_serializeMessage (tag : ByteString) (message : Message) :
    readMessageType ar (serializeMessage ar tag message) = some tag := by
  unfold readMessageType serializeMessage
  rw [List.flatten_cons, StateT.run'_eq, ar.string.reads tag]
  rfl

theorem deserializePayload_serializeMessage (tag : ByteString) (message : Message) :
    deserializePayload ar message.type (serializeMessage ar tag message) =
      some message.received := by
  have read : Reads (do
      let _ignoredMessageType ← ar.string.read
      message.type.read ar) (ar.string.write tag ++ message.write ar) message.received :=
    (ar.string.reads tag).bind (message.read_reads ar)
  have whole := read []
  unfold deserializePayload serializeMessage
  rw [StateT.run'_eq, List.flatten_cons, List.flatten_singleton]
  rw [List.append_nil] at whole
  rw [whole]
  rfl

end

/-- Through every archive the tag comes back, and the message as it was but for the numbers
that stand for absent ones. -/
theorem message_received (ar : BinaryArchive) (tag : ByteString) (message : Message) :
    readMessageType ar (serializeMessage ar tag message) = some tag ∧
      deserializePayload ar message.type (serializeMessage ar tag message) =
        some message.received :=
  ⟨readMessageType_serializeMessage ar tag message,
    deserializePayload_serializeMessage ar tag message⟩

/-- A request with a limit of -1 tokens. -/
def limitMinusOne : Message := .prefillRequest { taskId := 1, maxTokens := some (-1) }

theorem not_message_unchanged : ¬∀ (ar : BinaryArchive) (tag : ByteString) (message : Message),
    readMessageType ar (serializeMessage ar tag message) = some tag ∧
      deserializePayload ar message.type (serializeMessage ar tag message) = some message := by
  intro law
  have same := (law .host .empty limitMinusOne).2
  rw [deserializePayload_serializeMessage] at same
  exact absurd (Option.some.inj same) (by decide)

end InferenceServer.Sockets
