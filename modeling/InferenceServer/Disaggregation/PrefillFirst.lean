import InferenceServer.Disaggregation.DecodeStreams

/-! Requests of a prefill server that reserve a slot on a decode server first. A request
waits in a map for the answer to its reservation; the answer, an abort, a lost connection or
a failed reservation takes it off. -/
namespace InferenceServer.Disaggregation
open Machine

structure SlotReservationRequestMessage where
  taskId : TaskId
  prefillServerId : String := ""
  registrationHashes : List UInt64 := []
  hasPreviousResponseId : Bool := false
  previousResponseId : String := ""
  deriving DecidableEq

def invalidSlotId : UInt32 := 0xFFFFFFFF

structure SlotReservationResponseMessage where
  taskId : TaskId
  hasSlot : Bool := false
  slotId : UInt32 := invalidSlotId
  sessionId : String := ""
  decodePositionId : Int := 0
  decodeSkipTokens : Int := 0
  continuation : Bool := false
  accumulatedThinkTokens : Int := 0
  error : Bool := false
  errorText : String := ""
  deriving DecidableEq

/-- The fields of a request that its reservation reads or sets. -/
structure LLMRequest where
  taskId : TaskId
  prompt : List UInt32 := []
  maxTokens : Option Int := none
  previousResponseId : Option String := none
  slotId : Option UInt32 := none
  decodePositionId : Int := 0
  decodeSkipTokens : Int := 0
  continuation : Bool := false
  accumulatedThinkTokens : Int := 0
  deriving DecidableEq

structure PrefillWorkContext where
  request : LLMRequest
  fullPromptTokenIds : List UInt32
  decodeSlotId : UInt32 := invalidSlotId
  maxTokens : Option Int
  registrationHashCount : UInt32
  deriving DecidableEq

/-- Which of its two callbacks a request brings. -/
inductive Reply
  | stream
  | result
  deriving DecidableEq

structure PrefillFirstPending where
  /-- The number of the request's call. -/
  task : Nat
  work : PrefillWorkContext
  reply : Reply
  registrationHashes : List UInt64
  decodeInstanceId : String := ""
  deriving DecidableEq

/-- Work that runs in the service, with the decode session that is reserved for it. -/
structure LaunchedWork where
  task : Nat
  taskId : TaskId
  work : PrefillWorkContext
  reply : Reply
  registrationHashes : List UInt64
  decodeSessionId : String
  migrationId : UInt64 := 0
  deriving DecidableEq

structure DecodePeer where
  instanceIdHex : String
  tcpAddress : String := ""
  deriving DecidableEq

/-- The first peer with an address, or the first at all. -/
def selectDecodePeer (peers : List DecodePeer) : Option DecodePeer :=
  (peers.find? fun peer => peer.tcpAddress ≠ "").or peers.head?

structure Options where
  dynamoRoutingEnabled : Bool := true
  prefillServerId : String := ""

namespace PrefillFirst

inductive Event
  | result (task : Nat) (result : PrefillResultMessage)
  | chunk (task : Nat) (chunk : LLMStreamChunk) (isFinal : Bool)
  | launched (work : LaunchedWork)
  /-- The request's own call fails with an exception. -/
  | thrown (task : Nat) (text : String)
  | reserving (message : SlotReservationRequestMessage)
  /-- The service is told to abort. -/
  | abortedRequest (taskId : TaskId)
  deriving DecidableEq

inductive Call
  | enqueuePrefillFirst (request : LLMRequest) (registrationHashes : List UInt64) (reply : Reply)
  | handleSlotReservationResponse (result : SlotReservationResponseMessage)
  | abortRequest (taskId : TaskId)
  | connectionLost
  deriving DecidableEq

/-- A handler between two of its steps. -/
inductive Frame
  | discovering (task : Nat) (message : SlotReservationRequestMessage)
  | reading (task : Nat) (message : SlotReservationRequestMessage) (peer : DecodePeer)
  /-- Has read the entry and is to write it back. -/
  | updating (task : Nat) (message : SlotReservationRequestMessage) (updated : PrefillFirstPending)
  | connecting (task : Nat) (message : SlotReservationRequestMessage)
  | sending (task : Nat) (message : SlotReservationRequestMessage)
  /-- The reservation has failed and the entry is to be erased. -/
  | unreserved (task : Nat) (taskId : TaskId) (text : String)
  | applying (pending : PrefillFirstPending) (result : SlotReservationResponseMessage)
  | resolving (work : LaunchedWork)
  | aborting (pending : PrefillFirstPending) (taskId : TaskId)
  | stopping (taskId : TaskId)
  | failingAll (taskIds : List TaskId)
  | failing (pending : PrefillFirstPending) (taskId : TaskId) (rest : List TaskId)
  deriving DecidableEq

/-- What a handler is answered where it asks. -/
structure Outcome where
  peers : List DecodePeer := []
  /-- Whether the socket is connected, the message is sent, the work is taken. -/
  accepted : Bool := true
  /-- Why no prefill session could be found or made. -/
  error : Option String := none
  /-- The number the generator has for the work. -/
  migrationId : UInt64 := 0

end PrefillFirst

structure PrefillFirst where
  pendingSlotReservations : Table TaskId PrefillFirstPending := ∅
  tasks : Nat := 0
  trace : List PrefillFirst.Event := []

variable (pending : PrefillFirstPending)

/-- The answer of a request that failed. -/
def PrefillFirstPending.fail (taskId : TaskId) (text : String) : PrefillFirst.Event :=
  match pending.reply with
  | .result => .result pending.task { taskId, error := true, generatedText := text }
  | .stream => .chunk pending.task (makeErrorChunk taskId text) true

def PrefillFirstPending.abort (taskId : TaskId) : PrefillFirst.Event :=
  match pending.reply with
  | .result => .result pending.task { taskId, error := true, generatedText := "aborted" }
  | .stream => .chunk pending.task (makeAbortChunk taskId) true

/-- The work with the slot that the decode server has reserved. -/
def PrefillFirstPending.granted (result : SlotReservationResponseMessage) : LaunchedWork where
  task := pending.task
  taskId := result.taskId
  work := { pending.work with
    decodeSlotId := result.slotId
    request := { pending.work.request with
      slotId := some result.slotId
      decodePositionId := result.decodePositionId
      decodeSkipTokens := result.decodeSkipTokens
      continuation := result.continuation
      accumulatedThinkTokens := result.accumulatedThinkTokens } }
  reply := pending.reply
  registrationHashes := pending.registrationHashes
  decodeSessionId := result.sessionId

/-- The answer when no prefill session is found for granted work. -/
def LaunchedWork.fail (work : LaunchedWork) (text : String) : PrefillFirst.Event :=
  match work.reply with
  | .result => .result work.task { taskId := work.taskId, error := true, generatedText := text }
  | .stream => .chunk work.task (makeErrorChunk work.taskId text) true

def reservationRequest (options : Options) (request : LLMRequest)
    (registrationHashes : List UInt64) : SlotReservationRequestMessage :=
  let message : SlotReservationRequestMessage :=
    { taskId := request.taskId, prefillServerId := options.prefillServerId, registrationHashes }
  match request.previousResponseId with
  | none => message
  | some previous =>
    if previous = "" then message
    else { message with hasPreviousResponseId := true, previousResponseId := previous }

namespace PrefillFirst

def note (server : PrefillFirst) (event : Event) : PrefillFirst :=
  { server with trace := server.trace ++ [event] }

/-- The entry of a new request; prefill computes one token. -/
def newPending (task : Nat) (request : LLMRequest) (registrationHashes : List UInt64)
    (reply : Reply) : PrefillFirstPending where
  task := task
  work :=
    { request := { request with maxTokens := some 1 }
      fullPromptTokenIds := request.prompt
      maxTokens := request.maxTokens
      registrationHashCount := UInt32.ofNat registrationHashes.length }
  reply := reply
  registrationHashes := registrationHashes

def call (options : Options) (server : PrefillFirst) : Call → PrefillFirst × Option Frame
  | .enqueuePrefillFirst request registrationHashes reply =>
    let counted := { server with tasks := server.tasks + 1 }
    if options.dynamoRoutingEnabled then
      ({ counted with
        pendingSlotReservations := server.pendingSlotReservations.insert request.taskId
          (newPending server.tasks request registrationHashes reply) },
        some (.discovering server.tasks (reservationRequest options request registrationHashes)))
    else
      (counted.note (.thrown server.tasks ("[DisaggregationService] Prefill-first slot " ++
        "reservation requires DYNAMO_ROUTING=1")), none)
  | .handleSlotReservationResponse result =>
    match server.pendingSlotReservations.lookup result.taskId with
    | none => (server, none)
    | some pending =>
      ({ server with
        pendingSlotReservations := server.pendingSlotReservations.erase result.taskId },
        some (.applying pending result))
  | .abortRequest taskId =>
    match server.pendingSlotReservations.lookup taskId with
    | none => (server, some (.stopping taskId))
    | some pending =>
      ({ server with pendingSlotReservations := server.pendingSlotReservations.erase taskId },
        some (.aborting pending taskId))
  | .connectionLost =>
    (server, some (.failingAll (server.pendingSlotReservations.entries.map (·.1))))

def resume (server : PrefillFirst) (frame : Frame) (outcome : Outcome) :
    PrefillFirst × Option Frame :=
  match frame with
  | .discovering task message =>
    match selectDecodePeer outcome.peers with
    | none => (server, some (.unreserved task message.taskId ("[DisaggregationService] No " ++
        "decode peers discovered in etcd for slot reservation")))
    | some peer => (server, some (.reading task message peer))
  | .reading task message peer =>
    match server.pendingSlotReservations.lookup message.taskId with
    | none => (server, some (.connecting task message))
    | some pending => (server, some (.updating task message
        { pending with decodeInstanceId := peer.instanceIdHex }))
  | .updating task message updated =>
    ({ server with
      pendingSlotReservations := server.pendingSlotReservations.insert message.taskId updated },
      some (.connecting task message))
  | .connecting task message =>
    if outcome.accepted then (server, some (.sending task message))
    else (server, some (.unreserved task message.taskId ("[DisaggregationService] Decode socket " ++
      "unavailable for slot reservation")))
  | .sending task message =>
    if outcome.accepted then (server.note (.reserving message), none)
    else (server, some (.unreserved task message.taskId ("[DisaggregationService] Failed to " ++
      "send slot reservation for taskId=" ++ toString message.taskId)))
  | .unreserved task taskId text =>
    ({ server with
      pendingSlotReservations := server.pendingSlotReservations.erase taskId }.note
      (.thrown task text), none)
  | .applying pending result =>
    if result.error ∨ ¬result.hasSlot then
      (server.note (pending.fail result.taskId
        (if result.error then result.errorText else "decode slot reservation denied")), none)
    else (server, some (.resolving (pending.granted result)))
  | .resolving work =>
    match outcome.error with
    | some text => (server.note (work.fail text), none)
    | none =>
      (if outcome.accepted then
        server.note (.launched { work with migrationId := outcome.migrationId })
      else server, none)
  | .aborting pending taskId => (server.note (pending.abort taskId), some (.stopping taskId))
  | .stopping taskId => (server.note (.abortedRequest taskId), none)
  | .failingAll [] => (server, none)
  | .failingAll (taskId :: rest) =>
    match server.pendingSlotReservations.lookup taskId with
    | none => (server, some (.failingAll rest))
    | some pending =>
      ({ server with pendingSlotReservations := server.pendingSlotReservations.erase taskId },
        some (.failing pending taskId rest))
  | .failing pending taskId rest =>
    (server.note (pending.fail taskId "connection lost"), some (.failingAll rest))

end PrefillFirst

/-- The handlers of a prefill server. -/
def prefillHandlers (options : Options) :
    Handlers PrefillFirst PrefillFirst.Call PrefillFirst.Frame PrefillFirst.Outcome where
  call := PrefillFirst.call options
  resume := PrefillFirst.resume

end InferenceServer.Disaggregation
