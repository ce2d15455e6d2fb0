import InferenceServer.Disaggregation.SlotReservation
import InferenceServer.Sessions.PrefixCacheRouter

/-! Sessions for prefill work and for decode slots that are reserved ahead of it. Without a
session to go on with, a new one is allocated, perhaps with a copy of another's slot. -/
namespace InferenceServer.Sessions
open Machine PrefixCache Pipeline
open Disaggregation (DecodeDestinationSlot)

/-- What a prefill request is given; perhaps no new position. -/
structure PrefillSession where
  sessionId : String
  prefillSlotId : UInt32
  continuation : Bool
  kvPositionId : Option Nat
  deriving DecidableEq

inductive DecodeOutcome
  | resolved (slot : DecodeDestinationSlot)
  | error
  | allocating

inductive PrefillOutcome
  | resolved (session : PrefillSession)
  | allocating

/-- What a callback on the event loop ends with. -/
inductive Answer
  | session
  | slot (result : SlotAcquireResult)
  | decodeSlot (slot : DecodeDestinationSlot)
  | prefill (session : PrefillSession)
  | inFlight
  | failed

def SlotOutcome.answer : SlotOutcome → Answer
  | resolved result => .slot result
  | inFlight | allocating => .inFlight

def hashesToBlockInfos (hashes : List UInt64) : List BlockHashInfo :=
  hashes.map fun hash => { hash, accumulatedThinkTokens := 0 }

/-- The first candidate with enough tokens in its resident blocks, capped to these. -/
def findSlotToCopyFrom (config : SessionConfig) (getCommittedBlocks : String → Nat)
    (isCopyEligible : String → Bool) : List (Candidate String) → Option (Candidate String)
  | [] => none
  | candidate :: candidates =>
    let usableBlocks := min candidate.matchedBlocks (getCommittedBlocks candidate.sessionId)
    if isCopyEligible candidate.sessionId ∧ usableBlocks ≠ 0 ∧
        config.minTokensToCopy ≤ blocksToTokens config.sizes usableBlocks then
      some { candidate with matchedBlocks := usableBlocks }
    else findSlotToCopyFrom config getCommittedBlocks isCopyEligible candidates

namespace SessionManager

variable (manager : SessionManager) (config : SessionConfig) (sessionId : String)

def getCommittedBlocks : Nat :=
  ((manager.sessions.lookup sessionId).map Session.committedBlocks).getD 0

def isCopyEligible (manager : SessionManager) (sessionId : String) : Bool :=
  match manager.sessions.lookup sessionId with
  | none => false
  | some session =>
    if config.llmMode = .prefillOnly then session.state ≠ .inFlight
    else session.beingGenerated = false ∨ session.state ≠ .inFlight

def prepareSlotCopy (manager : SessionManager) (candidates : List (Candidate String)) :
    Option SlotCopyPlan :=
  match findSlotToCopyFrom config manager.getCommittedBlocks (manager.isCopyEligible config)
      candidates with
  | none => none
  | some candidate =>
    match manager.sessions.lookup candidate.sessionId with
    | none => none
    | some session =>
      if session.slotId = invalidSlotId then none
      else some
        { slotToCopyFrom := session.slotId
          matchedTokens := blocksToTokens config.sizes candidate.matchedBlocks }

def resolveDecodeDestinationSlot (manager : SessionManager) (registrationHashes : List UInt64)
    (previousResponseId : Option String) (creation : Creation) : SessionManager × DecodeOutcome :=
  let blockInfos := hashesToBlockInfos registrationHashes
  if previousResponseId.getD "" ≠ "" then
    match manager.tryAcquireByResponseId (previousResponseId.getD "") with
    | (manager, .hit sessionId slotId) =>
      let (matchedTokens, thinkTokens) := manager.computeMatchedTokens config sessionId blockInfos
      (manager.registerPrefixHash sessionId blockInfos false,
        .resolved (.fromResponseId sessionId slotId (UInt32.ofNat matchedTokens)
          (UInt32.ofNat thinkTokens)))
    | (manager, .inFlight) => (manager, .error)
    | (manager, .miss) =>
      (manager.allocate config creation blockInfos none (.decodeDestinationSlot blockInfos),
        .allocating)
  else
    match manager.tryAcquireByPrefixHash config blockInfos with
    | (manager, some acquired) =>
      if acquired.sessionFound then
        (manager.registerPrefixHash acquired.sessionId blockInfos false,
          .resolved (.fromAcquiredPrefix acquired.sessionId acquired.slotId
            (UInt32.ofNat acquired.numberOfMatchedTokens)
            (UInt32.ofNat acquired.accumulatedThinkTokens)))
      else
        (manager.allocate config creation blockInfos
          (manager.prepareSlotCopy config acquired.candidatesList)
          (.decodeDestinationSlot blockInfos), .allocating)
    | (manager, none) =>
      (manager.allocate config creation blockInfos none (.decodeDestinationSlot blockInfos),
        .allocating)

/-- A prompt that the matched tokens cover keeps its position. -/
def resolvePrefillSession (manager : SessionManager) (routingHashes : List UInt64)
    (promptTokens : Nat) (creation : Creation) : SessionManager × PrefillOutcome :=
  let blockInfos := hashesToBlockInfos routingHashes
  match manager.tryAcquireByPrefixHash config blockInfos with
  | (manager, some acquired) =>
    if acquired.sessionFound then
      ((manager.registerPrefixHash acquired.sessionId blockInfos
          false).shrinkResidentPrefixToMatchedTokens config acquired.sessionId
            acquired.numberOfMatchedTokens,
        .resolved
          { sessionId := acquired.sessionId
            prefillSlotId := acquired.slotId
            continuation := true
            kvPositionId :=
              if acquired.numberOfMatchedTokens < promptTokens then
                some acquired.numberOfMatchedTokens
              else none })
    else
      (manager.allocate config creation blockInfos
        (manager.prepareSlotCopy config acquired.candidatesList) (.prefillSession blockInfos),
        .allocating)
  | (manager, none) =>
    (manager.allocate config creation blockInfos none (.prefillSession blockInfos), .allocating)

/-- The completion callback of `resolveDecodeDestinationSlot`, with the source unlocked. -/
def completeDecodeDestinationSlot (blockInfos : List BlockHashInfo) (copyMatchedTokens : Option Nat)
    : SessionManager × Answer :=
  match manager.acquireInFlight sessionId with
  | (manager, none) => (manager, .inFlight)
  | (manager, some slotId) =>
    (manager.registerPrefixHash sessionId blockInfos false,
      .decodeSlot (.fromNewSession sessionId slotId (copyMatchedTokens.map UInt32.ofNat)))

/-- The completion callback of `resolvePrefillSession`, with the source unlocked. -/
def completePrefillSession (blockInfos : List BlockHashInfo) (copyMatchedTokens : Nat) :
    SessionManager × Answer :=
  match (manager.registerPrefixHash sessionId blockInfos false).acquireInFlight sessionId with
  | (manager, none) => (manager, .inFlight)
  | (manager, some prefillSlotId) =>
    (manager, .prefill
      { sessionId
        prefillSlotId
        continuation := copyMatchedTokens > 0
        kvPositionId := some copyMatchedTokens })

/-- The allocation is over, and its source is unlocked. -/
def finishAllocation (slotIdToCopyFrom : Option UInt32) : SessionManager :=
  { manager with
    allocations := manager.allocations.erase sessionId
    lockedSlots := slotIdToCopyFrom.elim manager.lockedSlots manager.lockedSlots.erase }

/-- The completion callback that the caller has given. -/
def complete (isCopy : Bool) :
    Caller → SessionManager × Answer
  | .other => (manager, .session)
  | .getSlot blocks responseId copyMatchedTokens =>
    let (manager, outcome) :=
      manager.completeGetSlot sessionId blocks responseId copyMatchedTokens
    (manager, outcome.answer)
  | .decodeDestinationSlot blockInfos copyMatchedTokens =>
    manager.completeDecodeDestinationSlot sessionId blockInfos
      (if isCopy then some copyMatchedTokens else none)
  | .prefillSession blockInfos copyMatchedTokens =>
    manager.completePrefillSession sessionId blockInfos copyMatchedTokens

/-- The event loop runs the callback of an allocation that is over. -/
def runCallback : SessionManager × Option Answer :=
  match manager.allocations.lookup sessionId with
  | none => (manager, none)
  | some allocation =>
    let ended := manager.finishAllocation sessionId allocation.slotIdToCopyFrom
    match allocation.stage with
    | .requested | .retrying => (manager, none)
    | .failed => (ended, some .failed)
    | .allocated =>
      let (manager, answer) := ended.complete sessionId allocation.slotIdToCopyFrom.isSome
        allocation.caller
      (manager, some answer)

end SessionManager

end InferenceServer.Sessions

/-! Whole calls on the session manager, one after the other: requests that get a session, what
their turns and callbacks do to it, and what closes it. -/
namespace InferenceServer.Sessions
open Machine PrefixCache Pipeline

inductive Operation
  | createSession (creation : Creation) (initialBlockInfos : List BlockHashInfo)
      (slotId slotIdToCopyFrom : Option UInt32)
  | getSlot (blocks : List BlockHashInfo) (opts : GetSlotOptions) (creation : Creation)
  | resolveDecodeDestinationSlot (registrationHashes : List UInt64)
      (previousResponseId : Option String) (creation : Creation)
  | resolvePrefillSession (routingHashes : List UInt64) (promptTokens : Nat) (creation : Creation)
  | tryAcquireByPrefixHash (blockInfos : List BlockHashInfo)
  | tryAcquireByResponseId (previousResponseId : String)
  | acquireInFlight (sessionId : String)
  | releaseInFlight (sessionId : String)
  | registerPrefixHash (sessionId : String) (blockInfos : List BlockHashInfo)
      (clearBeingGenerated : Bool)
  | registerResponseId (sessionId responseId : String)
  | updateResponseId (previousResponseId responseId : String)
  | clearSessionBlockThinkTokens (sessionId : String)
  | setResidentPrefixBlocks (sessionId : String) (residentBlocks : Nat)
  | shrinkResidentPrefixToMatchedTokens (sessionId : String) (matchedTokens : Nat)
  /-- The accumulator is set up for a turn. -/
  | initTokenAccumulator (sessionId : String)
  /-- The blocks that the accumulator has at the end of a turn. -/
  | finalizeAndRegisterHashes (sessionId : String) (allBlocks : List BlockHashInfo)
  | closeSession (sessionId : String)
  | evictOldSessions (leastRecent : List String)
  | retryFailedAllocation (sessionId : String) (queueFull : Bool)
  | handleMemoryResult (sessionId : String) (slotId : Option UInt32)
  | runCallback (sessionId : String)

/-- What is left to chance when the operation creates a session. -/
def Operation.creation? : Operation → Option Creation
  | createSession creation _ _ _ | getSlot _ _ creation
  | resolveDecodeDestinationSlot _ _ creation
  | resolvePrefillSession _ _ creation => some creation
  | _ => none

/-- The blocks of a prompt or of a turn. -/
def Operation.blocks : Operation → List BlockHashInfo
  | createSession _ blocks _ _ | getSlot blocks _ _ | tryAcquireByPrefixHash blocks
  | registerPrefixHash _ blocks _ | finalizeAndRegisterHashes _ blocks => blocks
  | resolveDecodeDestinationSlot hashes _ _ | resolvePrefillSession hashes _ _ =>
    hashesToBlockInfos hashes
  | _ => []

namespace SessionManager

/-- The session is there at once, under the slot that it is given. -/
def createPreassigned (config : SessionConfig) (manager : SessionManager) (creation : Creation)
    (slotId : UInt32) (initialBlockInfos : List BlockHashInfo) : SessionManager :=
  ((manager.evictOldSessions config creation.leastRecent).insertSession creation.sessionId
    { hash := (initialBlockInfos.head?.map BlockHashInfo.hash).getD 0
      slotId }).registerPrefixHash creation.sessionId initialBlockInfos false

/-- Without blocks the callback closes the session. -/
def finalizeAndRegisterHashes (manager : SessionManager) (sessionId : String)
    (allBlocks : List BlockHashInfo) : SessionManager :=
  match allBlocks with
  | [] => manager.closeSession sessionId
  | _ => (manager.setResidentPrefixBlocks sessionId allBlocks.length).registerPrefixHash sessionId
    allBlocks true

def perform (config : SessionConfig) (manager : SessionManager) : Operation → SessionManager
  | .createSession creation initialBlockInfos (some slotId) _ =>
    manager.createPreassigned config creation slotId initialBlockInfos
  | .createSession creation initialBlockInfos none slotIdToCopyFrom =>
    manager.createSession config creation initialBlockInfos slotIdToCopyFrom .other
  | .getSlot blocks opts creation => (manager.getSlot config blocks opts creation).1
  | .resolveDecodeDestinationSlot registrationHashes previousResponseId creation =>
    (manager.resolveDecodeDestinationSlot config registrationHashes previousResponseId creation).1
  | .resolvePrefillSession routingHashes promptTokens creation =>
    (manager.resolvePrefillSession config routingHashes promptTokens creation).1
  | .tryAcquireByPrefixHash blockInfos => (manager.tryAcquireByPrefixHash config blockInfos).1
  | .tryAcquireByResponseId previousResponseId =>
    (manager.tryAcquireByResponseId previousResponseId).1
  | .acquireInFlight sessionId => (manager.acquireInFlight sessionId).1
  | .releaseInFlight sessionId => manager.releaseInFlight sessionId
  | .registerPrefixHash sessionId blockInfos clearBeingGenerated =>
    manager.registerPrefixHash sessionId blockInfos clearBeingGenerated
  | .registerResponseId sessionId responseId => manager.registerResponseId sessionId responseId
  | .updateResponseId previousResponseId responseId =>
    manager.updateResponseId previousResponseId responseId
  | .clearSessionBlockThinkTokens sessionId => manager.clearSessionBlockThinkTokens sessionId
  | .setResidentPrefixBlocks sessionId residentBlocks =>
    manager.setResidentPrefixBlocks sessionId residentBlocks
  | .shrinkResidentPrefixToMatchedTokens sessionId matchedTokens =>
    manager.shrinkResidentPrefixToMatchedTokens config sessionId matchedTokens
  | .initTokenAccumulator sessionId =>
    manager.modify sessionId fun session => { session with beingGenerated := true }
  | .finalizeAndRegisterHashes sessionId allBlocks =>
    manager.finalizeAndRegisterHashes sessionId allBlocks
  | .closeSession sessionId => manager.closeSession sessionId
  | .evictOldSessions leastRecent => manager.evictOldSessions config leastRecent
  | .retryFailedAllocation sessionId queueFull =>
    manager.retryFailedAllocation config sessionId queueFull
  | .handleMemoryResult sessionId slotId => manager.handleMemoryResult sessionId slotId
  | .runCallback sessionId => (manager.runCallback sessionId).1

end SessionManager

/-- Every operation may come at any time. -/
def step (config : SessionConfig) (manager : SessionManager) (operation : Operation) :
    Option SessionManager :=
  some (manager.perform config operation)

end InferenceServer.Sessions
