import InferenceServer.Disaggregation.PrefillFirst

/-! The reservation of decode slots between two servers. The decode server marks a session
in flight for a task and tells the prefill server, which runs the task and names the session
in its result. Messages are delivered in any order and may be lost. -/
namespace InferenceServer.Disaggregation
open Machine

abbrev SessionId := String

/-- Who has a session in flight. -/
inductive Holder
  | idle
  | reserved (taskId : TaskId)
  | other
  deriving DecidableEq

structure DecodeSession where
  slotId : UInt32
  valid : slotId ≠ invalidSlotId
  holder : Holder := .idle
  deriving DecidableEq

structure DecodeDestinationSlot where
  slotId : UInt32 := invalidSlotId
  sessionId : SessionId := ""
  decodePositionId : Int := 0
  decodeSkipTokens : Int := 0
  continuation : Bool := false
  accumulatedThinkTokens : Int := 0
  deriving DecidableEq

namespace DecodeDestinationSlot

def setDecodePositionFields (slot : DecodeDestinationSlot) (kvPositionId : UInt32)
    (accumulatedThinkTokens : Int) (continuation : Bool) : DecodeDestinationSlot :=
  if continuation then
    { slot with
      continuation
      accumulatedThinkTokens
      decodePositionId := (kvPositionId + 1).toInt32.toInt
      decodeSkipTokens := (kvPositionId + 1).toInt32.toInt - accumulatedThinkTokens }
  else
    { slot with
      continuation, accumulatedThinkTokens, decodePositionId := 0, decodeSkipTokens := 0 }

variable (sessionId : SessionId) (slotId matchedTokens thinkTokens : UInt32)

/-- The slot of a session whose prefix matched. -/
def fromAcquiredPrefix : DecodeDestinationSlot :=
  let deltaMatchedTokens := if matchedTokens > 0 then matchedTokens - 1 else 0
  setDecodePositionFields { sessionId, slotId } (deltaMatchedTokens + thinkTokens)
    thinkTokens.toNat true

/-- The slot of the session of the previous response. -/
def fromResponseId : DecodeDestinationSlot :=
  setDecodePositionFields { sessionId, slotId } (matchedTokens - 1 + thinkTokens)
    thinkTokens.toNat true

/-- The slot of a new session, into which matched tokens may have been copied. -/
def fromNewSession (slotId : UInt32) (copyMatchedTokens : Option UInt32) : DecodeDestinationSlot :=
  match copyMatchedTokens with
  | none => { sessionId, slotId }
  | some matched =>
    if matched > 0 then setDecodePositionFields { sessionId, slotId } (matched - 1) 0 true
    else { sessionId, slotId }

/-- The answer that tells of a slot. -/
def response (slot : DecodeDestinationSlot) (taskId : TaskId) :
    SlotReservationResponseMessage where
  taskId := taskId
  hasSlot := slot.slotId ≠ invalidSlotId
  slotId := slot.slotId
  sessionId := slot.sessionId
  decodePositionId := slot.decodePositionId
  decodeSkipTokens := slot.decodeSkipTokens
  continuation := slot.continuation
  accumulatedThinkTokens := slot.accumulatedThinkTokens

end DecodeDestinationSlot

/-- What the session manager finds for a request. -/
inductive Lookup
  | hit (sessionId : SessionId) (matchedTokens thinkTokens : UInt32)
  | busy (text : String)
  /-- Perhaps with tokens that are to be copied from another session's slot. -/
  | miss (copyMatchedTokens : Option UInt32)
  deriving DecidableEq

/-- A reservation on the decode server between two of its steps. -/
inductive Reservation
  | allocating (taskId : TaskId) (copyMatchedTokens : Option UInt32)
  | responding (taskId : TaskId) (slot : DecodeDestinationSlot)
  | refusing (taskId : TaskId) (text : String)
  deriving DecidableEq

def Reservation.taskId : Reservation → TaskId
  | allocating taskId _ | responding taskId _ | refusing taskId _ => taskId

def isErrorFinishReason (finishReason : String) : Bool :=
  finishReason = "error" ∨ finishReason = "timeout_error"

def errorReasonFromFinishReason (finishReason : String) : LLMErrorReason :=
  if finishReason = "timeout_error" then .timeout else .generic

def prefillErrorTextForReason (reason : LLMErrorReason) (genericError : String) : String :=
  match reason with
  | .timeout => "timeout"
  | .generic => if genericError = "" then "error" else genericError

/-- The result message that a chunk of launched work makes. -/
def LaunchedWork.answer (work : LaunchedWork) (chunk : LLMStreamChunk) (isFinal : Bool) :
    Option PrefillResultMessage :=
  let result : PrefillResultMessage :=
    { taskId := work.taskId
      slotId := work.work.request.slotId
      sessionId := work.decodeSessionId }
  match work.reply with
  | .stream => none
  | .result =>
    if chunk.finishReason.any isErrorFinishReason then
      some { result with
        error := true
        generatedText := prefillErrorTextForReason
          (errorReasonFromFinishReason (chunk.finishReason.getD "")) (chunk.error.getD "error") }
    else if isFinal then
      some { result with
        tokenIds := work.work.fullPromptTokenIds
        generatedText := chunk.text
        cachedTokens := chunk.cachedPromptTokens.getD 0
        migrationId := work.migrationId }
    else none

/-- Both servers, their messages on the way, and the results of the prefill server. The trace
of the prefill server is handed on after each of its steps. -/
structure Reservations where
  prefill : Running PrefillFirst PrefillFirst.Frame := { shared := {} }
  /-- What the service of the prefill server runs. -/
  works : List LaunchedWork := []
  requests : List SlotReservationRequestMessage := []
  reservations : List Reservation := []
  sessions : Table SessionId DecodeSession := ∅
  responses : List SlotReservationResponseMessage := []
  results : List PrefillResultMessage := []

inductive Move
  | prefill (turn : Turn PrefillFirst.Call PrefillFirst.Frame PrefillFirst.Outcome)
  /-- The service has a chunk for its work. -/
  | chunk (work : LaunchedWork) (chunk : LLMStreamChunk) (isFinal : Bool)
  | handleSlotReservationRequest (message : SlotReservationRequestMessage) (found : Lookup)
  /-- The session manager has made a session for the reservation. -/
  | allocated (reservation : Reservation) (sessionId : SessionId)
  | allocationFailed (reservation : Reservation) (text : String)
  | respond (reservation : Reservation) (sent : Bool)
  | handleSlotReservationResponse (message : SlotReservationResponseMessage)
  | loseRequest (message : SlotReservationRequestMessage)
  | loseResponse (message : SlotReservationResponseMessage)
  /-- What the decode server does with its sessions for other requests. -/
  | createSession (sessionId : SessionId) (slotId : UInt32)
  | closeSession (sessionId : SessionId)
  | markInFlight (sessionId : SessionId)
  | releaseInFlight (sessionId : SessionId)

namespace PrefillFirst.Event

def request : Event → Option SlotReservationRequestMessage
  | reserving message => some message
  | _ => none

def work : Event → Option LaunchedWork
  | launched work => some work
  | _ => none

def answer : Event → Option PrefillResultMessage
  | result _ message => some message
  | _ => none

end PrefillFirst.Event

namespace Reservations

def holder (servers : Reservations) (sessionId : SessionId) : Option Holder :=
  (servers.sessions.lookup sessionId).map (·.holder)

variable (servers : Reservations) (message : SlotReservationRequestMessage)

/-- The session, if it is there, has the holder. -/
def setHolder (sessionId : SessionId) (holder : Holder) : Reservations :=
  match servers.sessions.lookup sessionId with
  | none => servers
  | some session =>
    { servers with sessions := servers.sessions.insert sessionId { session with holder } }

/-- Hands on what the prefill server has done in a step. -/
def collect (prefill : Running PrefillFirst PrefillFirst.Frame) : Reservations :=
  { servers with
    prefill := { prefill with shared := { prefill.shared with trace := [] } }
    works := servers.works ++ prefill.shared.trace.filterMap PrefillFirst.Event.work
    requests := servers.requests ++ prefill.shared.trace.filterMap PrefillFirst.Event.request
    results := servers.results ++ prefill.shared.trace.filterMap PrefillFirst.Event.answer }

/-- Whether a request is looked up at all before a new session is made for it. -/
def looksUp : Bool :=
  (message.hasPreviousResponseId && message.previousResponseId ≠ "") ||
    !message.registrationHashes.isEmpty

/-- The slot of a session that was found for a request, which marks it in flight. -/
def acquired (sessionId : SessionId) (slotId : UInt32) (matchedTokens thinkTokens : UInt32) :
    DecodeDestinationSlot :=
  if message.hasPreviousResponseId ∧ message.previousResponseId ≠ "" then
    .fromResponseId sessionId slotId matchedTokens thinkTokens
  else .fromAcquiredPrefix sessionId slotId matchedTokens thinkTokens

def resolveDecodeDestinationSlot (message : SlotReservationRequestMessage) :
    Lookup → Option Reservations
  | .miss copyMatchedTokens => some { servers with
      reservations := .allocating message.taskId copyMatchedTokens :: servers.reservations }
  | .busy text =>
    if looksUp message then
      some { servers with reservations := .refusing message.taskId text :: servers.reservations }
    else none
  | .hit sessionId matchedTokens thinkTokens =>
    match servers.sessions.lookup sessionId with
    | none => none
    | some session =>
      if looksUp message ∧ session.holder = .idle then
        let slot := acquired message sessionId session.slotId matchedTokens thinkTokens
        some { servers.setHolder sessionId (.reserved message.taskId) with
          reservations := .responding message.taskId slot :: servers.reservations }
      else none

/-- A new session is acquired for its reservation; a session that is gone has no slot. -/
def acquireInFlight (taskId : TaskId) (copyMatchedTokens : Option UInt32) (sessionId : SessionId) :
    Reservations :=
  match servers.sessions.lookup sessionId with
  | none => { servers with
      reservations := .responding taskId
        (.fromNewSession sessionId invalidSlotId copyMatchedTokens) :: servers.reservations }
  | some session =>
    if session.holder = .idle then
      { servers.setHolder sessionId (.reserved taskId) with
        reservations := .responding taskId
          (.fromNewSession sessionId session.slotId copyMatchedTokens) :: servers.reservations }
    else servers

def step (options : Options) (servers : Reservations) : Move → Option Reservations
  | .prefill (.call (.handleSlotReservationResponse _)) => none
  | .prefill turn => ((prefillHandlers options).step servers.prefill turn).map servers.collect
  | .chunk work chunk isFinal =>
    if work ∈ servers.works then
      some { servers with
        works := if isFinal then servers.works.erase work else servers.works
        results := servers.results ++ (work.answer chunk isFinal).toList }
    else none
  | .handleSlotReservationRequest message found =>
    if message ∈ servers.requests then
      resolveDecodeDestinationSlot { servers with requests := servers.requests.erase message }
        message found
    else none
  | .allocated reservation sessionId =>
    match reservation with
    | .allocating taskId copyMatchedTokens =>
      if reservation ∈ servers.reservations then
        some (acquireInFlight
          { servers with reservations := servers.reservations.erase reservation }
          taskId copyMatchedTokens sessionId)
      else none
    | _ => none
  | .allocationFailed reservation text =>
    match reservation with
    | .allocating taskId _ =>
      if reservation ∈ servers.reservations then
        some { servers with
          reservations := .refusing taskId text :: servers.reservations.erase reservation }
      else none
    | _ => none
  | .respond reservation sent =>
    if reservation ∈ servers.reservations then
      let servers := { servers with reservations := servers.reservations.erase reservation }
      match reservation with
      | .allocating _ _ => none
      | .responding taskId slot =>
        if sent then
          some { servers with responses := servers.responses ++ [slot.response taskId] }
        else if slot.sessionId = "" then some servers
        else some (servers.setHolder slot.sessionId .idle)
      | .refusing taskId text =>
        if sent then
          some { servers with
            responses := servers.responses ++ [{ taskId, error := true, errorText := text }] }
        else some servers
    else none
  | .handleSlotReservationResponse message =>
    if message ∈ servers.responses then
      ((prefillHandlers options).step servers.prefill
        (.call (.handleSlotReservationResponse message))).map
        (collect { servers with responses := servers.responses.erase message })
    else none
  | .loseRequest message => some { servers with requests := servers.requests.erase message }
  | .loseResponse message => some { servers with responses := servers.responses.erase message }
  | .createSession sessionId slotId =>
    if valid : slotId ≠ invalidSlotId then
      if sessionId ≠ "" ∧ servers.sessions.lookup sessionId = none then
        some { servers with sessions := servers.sessions.insert sessionId { slotId, valid } }
      else none
    else none
  | .closeSession sessionId => some { servers with sessions := servers.sessions.erase sessionId }
  | .markInFlight sessionId =>
    if servers.holder sessionId = some .idle then some (servers.setHolder sessionId .other) else none
  | .releaseInFlight sessionId => some (servers.setHolder sessionId .idle)

end Reservations

end InferenceServer.Disaggregation
