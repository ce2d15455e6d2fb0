import InferenceServer.PrefixCache.IndexMap
import InferenceServer.Pipeline.DeltaPrompt

/-! Sessions and their slots, the indexes that find a session again, and the allocations
under way. Each function is a call that no other call comes between. -/
namespace InferenceServer.Sessions
open Machine PrefixCache Pipeline

def invalidSlotId : UInt32 := 0xFFFFFFFF

inductive SessionState
  | idle
  | prepared
  | inFlight
  deriving DecidableEq

structure Session where
  hash : UInt64
  responseId : String := ""
  slotId : UInt32
  state : SessionState := .idle
  committedBlocks : Nat := 0
  beingGenerated : Bool := true
  deriving DecidableEq

namespace Session

variable (session : Session)

def markInFlight : Session :=
  if session.state = .inFlight then session else { session with state := .inFlight }

def clearInFlight : Session :=
  if session.state = .inFlight then { session with state := .idle } else session

def shrinkCommittedBlocks (blocks : Nat) : Session :=
  if blocks < session.committedBlocks then { session with committedBlocks := blocks } else session

end Session

/-- Who waits for a new session, with what the callbacks hold beside the source slot. -/
inductive Caller
  | other
  | getSlot (blocks : List BlockHashInfo) (responseId : Option String) (copyMatchedTokens : Nat)
  | decodeDestinationSlot (blockInfos : List BlockHashInfo) (copyMatchedTokens : Nat)
  | prefillSession (blockInfos : List BlockHashInfo) (copyMatchedTokens : Nat)

/-- Where an allocation is: in the map of those that are requested, in the retry queue, or
with its completion or error callback on the event loop. -/
inductive Stage
  | requested
  | retrying
  | allocated
  | failed
  deriving DecidableEq

structure PendingAllocation where
  hash : UInt64
  caller : Caller
  attemptsRemaining : Nat
  slotIdToCopyFrom : Option UInt32
  stage : Stage

/-- Settings. Candidates are sorted by their matched blocks, in some order among equals. -/
structure SessionConfig where
  sizes : BlockSizes
  llmMode : LLMMode
  minTokensToCopy : Nat
  passesHitThreshold : Candidate String → Bool
  sortCandidates : List (Candidate String) → List (Candidate String)
  perm : ∀ candidates, (sortCandidates candidates).Perm candidates
  sorted : ∀ candidates,
    (sortCandidates candidates).Pairwise fun first second =>
      second.matchedBlocks ≤ first.matchedBlocks
  maxSessionsCount : Nat
  sessionEvictionRate : Nat
  sessionEvictionCount : Nat
  sessionAllocationMaxRetries : Nat

/-- An allocation under way is listed under the id of its session. The slots of closed
sessions are given back in order. -/
structure SessionManager where
  sessions : Table String Session := ∅
  prefixIndex : IndexMap String := ∅
  responseIdIndex : Table String String := ∅
  lockedSlots : Finset UInt32 := ∅
  allocations : Table String PendingAllocation := ∅
  deallocated : List UInt32 := []

inductive MarkInFlightOutcome
  | marked
  | busy
  | stale
  | notFound
  deriving DecidableEq

structure MarkInFlightResult where
  outcome : MarkInFlightOutcome
  slotId : UInt32 := invalidSlotId
  deriving DecidableEq

/-- What is left to chance when a session is created: its id, the sessions in the order of their
last activity, and whether there is room for the request. -/
structure Creation where
  sessionId : String
  leastRecent : List String := []
  queueFull : Bool := false

namespace SessionManager

variable (manager : SessionManager) (config : SessionConfig) (sessionId : String)

def modify (change : Session → Session) : SessionManager :=
  { manager with sessions := Table.modify sessionId change manager.sessions }

def tryMarkInFlight (expectedKeyHash : Option UInt64) (expectedResponseId : Option String) :
    SessionManager × MarkInFlightResult :=
  match manager.sessions.lookup sessionId with
  | none => (manager, { outcome := .notFound })
  | some session =>
    if ∃ keyHash ∈ expectedKeyHash, session.hash ≠ keyHash then (manager, { outcome := .stale })
    else if ∃ responseId ∈ expectedResponseId, session.responseId ≠ responseId then
      (manager, { outcome := .stale })
    else if session.state = .inFlight then (manager, { outcome := .busy })
    else (manager.modify sessionId Session.markInFlight,
      { outcome := .marked, slotId := session.slotId })

/-- The slot of the session, or nothing when the call throws. -/
def acquireInFlight : SessionManager × Option UInt32 :=
  match manager.tryMarkInFlight sessionId none none with
  | (marked, { outcome := .marked, slotId }) => (marked, some slotId)
  | (_, { outcome := .busy, .. }) => (manager, none)
  | _ => (manager, some invalidSlotId)

def releaseInFlight : SessionManager :=
  manager.modify sessionId Session.clearInFlight

def setResidentPrefixBlocks (residentBlocks : Nat) : SessionManager :=
  manager.modify sessionId fun session => { session with committedBlocks := residentBlocks }

def shrinkResidentPrefixToMatchedTokens (manager : SessionManager) (sessionId : String)
    (matchedTokens : Nat) : SessionManager :=
  manager.modify sessionId
    fun session => session.shrinkCommittedBlocks (tokensToBlocks config.sizes matchedTokens)

def lockSlot (slotId : UInt32) : SessionManager :=
  { manager with lockedSlots := insert slotId manager.lockedSlots }

def unlockSlot (slotId : UInt32) : SessionManager :=
  { manager with lockedSlots := manager.lockedSlots.erase slotId }

/-- Whether an id leads to a session is looked up again before the entry goes. -/
def removeResponseId (sessionId id : String) : SessionManager :=
  if id ≠ "" ∧ manager.responseIdIndex.lookup id = some sessionId then
    { manager with responseIdIndex := manager.responseIdIndex.erase id }
  else manager

def onSessionClosed (keyHash : UInt64) (responseId : String) : SessionManager :=
  { manager with prefixIndex := manager.prefixIndex.remove sessionId keyHash }.removeResponseId
    sessionId responseId

def finalizeSessionClose (session : Session) : SessionManager :=
  if session.slotId ≠ invalidSlotId then
    { manager with deallocated := manager.deallocated ++ [session.slotId] }
  else manager

/-- A session that is taken out of the map leaves the indexes and gives its slot back. -/
def takeOut (session : Session) : SessionManager :=
  ({ manager with sessions := manager.sessions.erase sessionId }.onSessionClosed sessionId
    session.hash session.responseId).finalizeSessionClose session

def closeSession : SessionManager :=
  match manager.sessions.lookup sessionId with
  | none => manager
  | some session => manager.takeOut sessionId session

/-- A session that may be evicted. -/
def Idle (session : Session) : Prop :=
  session.state = .idle ∧ session.slotId ∉ manager.lockedSlots

instance (manager : SessionManager) (session : Session) : Decidable (manager.Idle session) :=
  inferInstanceAs (Decidable (_ ∧ _))

/-- One round of the loop over the candidates for eviction. -/
def evictSession : SessionManager :=
  match manager.sessions.lookup sessionId with
  | none => manager
  | some session =>
    if manager.Idle session then manager.takeOut sessionId session else manager

def candidatesForEviction : List String :=
  (manager.sessions.select fun _ session => manager.Idle session).map Prod.fst

/-- The candidates that were active longest ago, up to a number, when there are too many
sessions. -/
def evictOldSessions (manager : SessionManager) (leastRecent : List String) : SessionManager :=
  if manager.sessions.entries.length * 100 ≤
      config.maxSessionsCount * config.sessionEvictionRate then manager
  else
    ((leastRecent.filter (· ∈ manager.candidatesForEviction)).take
      config.sessionEvictionCount).foldl evictSession manager

def insertSession (session : Session) : SessionManager :=
  { manager with sessions := manager.sessions.insert sessionId session }

def place (allocation : PendingAllocation) (stage : Stage) : SessionManager :=
  { manager with
    allocations := manager.allocations.insert sessionId { allocation with stage } }

/-- Another attempt, unless none is left. -/
def retryOrFail (allocation : PendingAllocation) : SessionManager :=
  if allocation.attemptsRemaining = 0 then manager.place sessionId allocation .failed
  else manager.place sessionId
    { allocation with attemptsRemaining := allocation.attemptsRemaining - 1 } .retrying

def sendAsyncAllocationRequest (manager : SessionManager) (sessionId : String)
    (allocation : PendingAllocation) (queueFull : Bool) : SessionManager :=
  if config.maxSessionsCount ≤ manager.sessions.entries.length ∨ queueFull then
    manager.retryOrFail sessionId allocation
  else manager.place sessionId allocation .requested

/-- Without a slot the session is to be allocated one. -/
def createSession (manager : SessionManager) (creation : Creation)
    (initialBlockInfos : List BlockHashInfo) (slotIdToCopyFrom : Option UInt32) (caller : Caller) :
    SessionManager :=
  sendAsyncAllocationRequest config (manager.evictOldSessions config
    creation.leastRecent) creation.sessionId
    { hash := (initialBlockInfos.head?.map BlockHashInfo.hash).getD 0
      caller
      attemptsRemaining := config.sessionAllocationMaxRetries
      slotIdToCopyFrom
      stage := .requested } creation.queueFull

/-- One round of the loop over the retry queue, for an allocation whose time has come. -/
def retryFailedAllocation (manager : SessionManager) (sessionId : String) (queueFull : Bool) :
    SessionManager :=
  match manager.allocations.lookup sessionId with
  | none => manager
  | some allocation =>
    if allocation.stage = .retrying then
      manager.sendAsyncAllocationRequest config sessionId allocation queueFull
    else manager

/-- A failure comes without a slot. -/
def handleMemoryResult (slotId : Option UInt32) : SessionManager :=
  match manager.allocations.lookup sessionId with
  | none => manager
  | some allocation =>
    if allocation.stage = .requested then
      match slotId.filter (· ≠ invalidSlotId) with
      | some slotId =>
        (manager.insertSession sessionId
          { hash := allocation.hash, slotId, state := .prepared }).place sessionId allocation
            .allocated
      | none => manager.retryOrFail sessionId allocation
    else manager

end SessionManager

end InferenceServer.Sessions
