import InferenceServer.Machine.Handlers
import InferenceServer.Machine.Table
import InferenceServer.Machine.Tally

/-! The decode server's streams while their prefill runs on another server. A stream's
callback waits in a map; a prefill result, an abort, a lost connection or a failed send
takes it off. A step is one call of the map, of a callback or of a service. -/
namespace InferenceServer.Disaggregation
open Machine

abbrev TaskId := UInt32

/-- A callback, by the number of its registration. -/
abbrev StreamCallback := Nat

inductive LLMErrorReason
  | timeout
  | generic
  deriving DecidableEq

structure LLMStreamChunk where
  taskId : TaskId
  text : String := ""
  finishReason : Option String := none
  error : Option String := none
  cachedPromptTokens : Option Int := none
  deriving DecidableEq

def finishReasonForError : LLMErrorReason → String
  | .timeout => "timeout_error"
  | .generic => "error"

def makeErrorChunk (taskId : TaskId) (error : String) (reason : LLMErrorReason := .generic) :
    LLMStreamChunk where
  taskId := taskId
  finishReason := some (finishReasonForError reason)
  error := some error

def makeAbortChunk (taskId : TaskId) : LLMStreamChunk where
  taskId := taskId
  finishReason := some "abort"

structure PrefillResultMessage where
  taskId : TaskId
  generatedText : String := ""
  error : Bool := false
  tokenIds : List UInt32 := []
  remainingTokens : Option Int := none
  slotId : Option UInt32 := none
  cachedTokens : Int := 0
  migrationId : UInt64 := 0
  sessionId : String := ""
  deriving DecidableEq

variable (message : PrefillResultMessage)

def errorReasonFromPrefillResult : LLMErrorReason :=
  if message.error ∧ message.generatedText = "timeout" then .timeout else .generic

/-- The request that goes on with decoding behind a prefill. -/
structure DecodeRequest where
  taskId : TaskId
  disaggregated : Bool := true
  migrationId : UInt64
  kvPositionId : UInt32
  prompt : List UInt32
  maxTokens : Option Int
  slotId : Option UInt32
  deriving DecidableEq

/-- Only the last token of the prompt is processed again. -/
def decodeRequest : DecodeRequest where
  taskId := message.taskId
  migrationId := message.migrationId
  kvPositionId := UInt32.ofNat (message.tokenIds.length - 1)
  prompt := message.tokenIds.getLast?.toList
  maxTokens := message.remainingTokens
  slotId := message.slotId

def continueDecode : Bool :=
  !message.tokenIds.isEmpty && message.remainingTokens.all (0 < ·)

/-- What a callback sees, and what becomes of its request. -/
inductive Delivery
  | chunk (callback : StreamCallback) (chunk : LLMStreamChunk) (isFinal : Bool)
  | submitted (callback : StreamCallback) (request : DecodeRequest)
  /-- The request's own call fails with an exception. -/
  | thrown (callback : StreamCallback)
  deriving DecidableEq

structure DecodeStreams where
  streamCallbacks : Table TaskId StreamCallback := ∅
  registrations : Nat := 0
  trace : List Delivery := []

inductive Call
  | handleStreamingRequest (taskId : TaskId)
  | onPrefillComplete (message : PrefillResultMessage)
  | abortRequest (taskId : TaskId)
  | connectionLost
  deriving DecidableEq

/-- A handler between two of its steps. -/
inductive Frame
  | sending (callback : StreamCallback) (taskId : TaskId)
  | unsent (callback : StreamCallback) (taskId : TaskId)
  /-- Has read the callback and is to erase it. -/
  | erasing (callback : StreamCallback) (message : PrefillResultMessage)
  | answering (callback : StreamCallback) (message : PrefillResultMessage)
  | continuing (callback : StreamCallback) (message : PrefillResultMessage)
  | cancelling (callback : StreamCallback) (taskId : TaskId)
  | aborting (callback : StreamCallback) (taskId : TaskId)
  /-- Has failed all callbacks and is to clear the map. -/
  | clearing
  deriving DecidableEq

namespace DecodeStreams

variable (streams : DecodeStreams)

def note (delivery : Delivery) : DecodeStreams :=
  { streams with trace := streams.trace ++ [delivery] }

def call : Call → DecodeStreams × Option Frame
  | .handleStreamingRequest taskId =>
    ({ streams with
      streamCallbacks := streams.streamCallbacks.insert taskId streams.registrations
      registrations := streams.registrations + 1 },
      some (.sending streams.registrations taskId))
  | .onPrefillComplete message =>
    (streams, (streams.streamCallbacks.lookup message.taskId).map (.erasing · message))
  | .abortRequest taskId =>
    match streams.streamCallbacks.lookup taskId with
    | none => (streams, none)
    | some callback =>
      ({ streams with streamCallbacks := streams.streamCallbacks.erase taskId },
        some (.cancelling callback taskId))
  | .connectionLost =>
    ({ streams with
      trace := streams.trace ++ streams.streamCallbacks.entries.map fun entry =>
        .chunk entry.2 (makeErrorChunk entry.1 "connection lost") true },
      some .clearing)

/-- The next step of a handler; `accepted` is what a send returns, and whether the service
takes the request it is given instead of throwing. -/
def resume (frame : Frame) (accepted : Bool) : DecodeStreams × Option Frame :=
  match frame with
  | .sending callback taskId => (streams, if accepted then none else some (.unsent callback taskId))
  | .unsent callback taskId =>
    ({ streams with streamCallbacks := streams.streamCallbacks.erase taskId }.note
      (.thrown callback), none)
  | .erasing callback message =>
    ({ streams with streamCallbacks := streams.streamCallbacks.erase message.taskId },
      some (.answering callback message))
  | .answering callback message =>
    if message.error then
      let reason := errorReasonFromPrefillResult message
      (streams.note (.chunk callback (makeErrorChunk message.taskId
        (if reason = .timeout then "prefill timeout" else "prefill error") reason) true), none)
    else
      (streams.note (.chunk callback
        { taskId := message.taskId
          text := message.generatedText
          cachedPromptTokens := some message.cachedTokens } false),
        some (.continuing callback message))
  | .continuing callback message =>
    if continueDecode message then
      (if accepted then streams.note (.submitted callback (decodeRequest message)) else streams,
        none)
    else
      (streams.note (.chunk callback
        { taskId := message.taskId, finishReason := some "stop" } true), none)
  | .cancelling callback taskId => (streams, some (.aborting callback taskId))
  | .aborting callback taskId => (streams.note (.chunk callback (makeAbortChunk taskId) true), none)
  | .clearing => ({ streams with streamCallbacks := ∅ }, none)

end DecodeStreams

/-- The handlers of a decode server. -/
def decodeHandlers : Handlers DecodeStreams Call Frame Bool where
  call := DecodeStreams.call
  resume := DecodeStreams.resume

end InferenceServer.Disaggregation
