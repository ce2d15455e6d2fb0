import InferenceServer.Sessions.SessionManager

/-! How a request gets a session: the one that its previous response is registered for, one
that has cached its first blocks, or a new one. -/
namespace InferenceServer.Sessions
open Machine PrefixCache Pipeline

structure AcquireResult where
  sessionFound : Bool
  sessionId : String := ""
  slotId : UInt32 := 0
  numberOfMatchedTokens : Nat := 0
  accumulatedThinkTokens : Nat := 0
  candidatesList : List (Candidate String) := []

/-- The session of a response id with its slot, nothing, or an exception because the
session has a request in flight. -/
inductive ResponseIdOutcome
  | hit (sessionId : String) (slotId : UInt32)
  | miss
  | inFlight
  deriving DecidableEq

inductive SlotOutcome
  | resolved (result : SlotAcquireResult)
  | inFlight
  | allocating

/-- Where a new session is to copy from, and the tokens that it is credited with. -/
structure SlotCopyPlan where
  slotToCopyFrom : UInt32
  matchedTokens : Nat
  deriving DecidableEq

namespace SessionManager

variable (manager : SessionManager) (config : SessionConfig) (sessionId : String)

def registerPrefixHash (blockInfos : List BlockHashInfo) (clearBeingGenerated : Bool) :
    SessionManager :=
  match blockInfos, manager.sessions.lookup sessionId with
  | front :: _, some session =>
    let index :=
      if session.hash ≠ 0 ∧ session.hash ≠ front.hash then
        manager.prefixIndex.remove sessionId session.hash
      else manager.prefixIndex
    { manager.modify sessionId fun session =>
        { session with
          hash := front.hash
          beingGenerated := session.beingGenerated && !clearBeingGenerated } with
      prefixIndex := index.registerPrefixHash sessionId blockInfos }
  | _, _ => manager

def registerResponseId (sessionId responseId : String) : SessionManager :=
  if responseId = "" ∨ manager.sessions.lookup sessionId = none then manager
  else
    { manager.modify sessionId fun session => { session with responseId } with
      responseIdIndex := manager.responseIdIndex.insert responseId sessionId }

def updateResponseId (previousResponseId responseId : String) : SessionManager :=
  if previousResponseId = "" ∨ responseId = "" ∨ previousResponseId = responseId then manager
  else
    match manager.responseIdIndex.lookup previousResponseId with
    | none => manager
    | some sessionId =>
      { manager.modify sessionId fun session => { session with responseId } with
        responseIdIndex :=
          (manager.responseIdIndex.erase previousResponseId).insert responseId sessionId }

/-- The loop over the candidates. -/
def acquireCandidate (config : SessionConfig) (keyHash : UInt64) (manager : SessionManager) :
    List (Candidate String) → SessionManager × Option AcquireResult
  | [] => (manager, none)
  | candidate :: candidates =>
    if config.passesHitThreshold candidate then
      match manager.tryMarkInFlight candidate.sessionId (some keyHash) none with
      | (marked, { outcome := .marked, slotId }) =>
        (marked, some
          { sessionFound := true
            sessionId := candidate.sessionId
            slotId
            numberOfMatchedTokens := blocksToTokens config.sizes candidate.matchedBlocks
            accumulatedThinkTokens := candidate.thinkTokens })
      | (_, { outcome := .busy, .. }) => acquireCandidate config keyHash manager candidates
      | _ => acquireCandidate config keyHash
        { manager with
          prefixIndex := manager.prefixIndex.remove candidate.sessionId keyHash } candidates
    else acquireCandidate config keyHash manager candidates

def tryAcquireByPrefixHash (manager : SessionManager) (blockInfos : List BlockHashInfo) :
    SessionManager × Option AcquireResult :=
  match blockInfos with
  | [] => (manager, none)
  | front :: _ =>
    match config.sortCandidates
        (buildCandidates blockInfos (manager.prefixIndex.entries front.hash)) with
    | [] => (manager, none)
    | candidates =>
      let (manager, acquired) := acquireCandidate config front.hash manager candidates
      (manager, some (acquired.getD { sessionFound := false, candidatesList := candidates }))

def tryAcquireByResponseId (previousResponseId : String) : SessionManager × ResponseIdOutcome :=
  if previousResponseId = "" then (manager, .miss)
  else
    match manager.responseIdIndex.lookup previousResponseId with
    | none => (manager, .miss)
    | some sessionId =>
      match manager.tryMarkInFlight sessionId none (some previousResponseId) with
      | (marked, { outcome := .marked, slotId }) => (marked, .hit sessionId slotId)
      | (_, { outcome := .busy, .. }) => (manager, .inFlight)
      | _ => (manager.removeResponseId sessionId previousResponseId, .miss)

/-- The tokens of the blocks that the session has in common, and their think tokens. -/
def computeMatchedTokens (manager : SessionManager) (sessionId : String)
    (blockInfos : List BlockHashInfo) : Nat × Nat :=
  match blockInfos with
  | [] => (0, 0)
  | front :: _ =>
    let (matchedBlocks, thinkTokens) := computeMatchedBlocksForSession sessionId blockInfos
      (manager.prefixIndex.entries front.hash)
    if matchedBlocks = 0 then (0, 0)
    else (blocksToTokens config.sizes matchedBlocks, thinkTokens)

def clearSessionBlockThinkTokens : SessionManager :=
  match manager.sessions.lookup sessionId with
  | none => manager
  | some session =>
    { manager with prefixIndex := manager.prefixIndex.clearThinkTokens sessionId session.hash }

/-- The best candidate is credited with all blocks that it matches. -/
def bestSlotToCopyFrom (manager : SessionManager) (candidates : List (Candidate String)) :
    Option SlotCopyPlan :=
  match candidates with
  | [] => none
  | best :: _ =>
    let matchedTokens := blocksToTokens config.sizes best.matchedBlocks
    match manager.sessions.lookup best.sessionId with
    | none => none
    | some session =>
      if config.llmMode = .decodeOnly ∧ config.minTokensToCopy ≤ matchedTokens ∧
          session.beingGenerated = false then
        some { slotToCopyFrom := session.slotId, matchedTokens }
      else none

/-- The source is locked until the allocation is over. -/
def allocate (manager : SessionManager) (creation : Creation)
    (initialBlockInfos : List BlockHashInfo) (plan : Option SlotCopyPlan) (caller : Nat → Caller) :
    SessionManager :=
  ((plan.map SlotCopyPlan.slotToCopyFrom).elim manager manager.lockSlot).createSession config
    creation initialBlockInfos (plan.map SlotCopyPlan.slotToCopyFrom)
    (caller ((plan.map SlotCopyPlan.matchedTokens).getD 0))

/-- The session of the previous response goes on under the new one. -/
def continueResponse (manager : SessionManager) (blocks : List BlockHashInfo)
    (opts : GetSlotOptions) (sessionId : String) (slotId : UInt32) : SessionManager × SlotOutcome :=
  let (matchedTokens, thinkTokens) := manager.computeMatchedTokens config sessionId blocks
  let manager := (manager.registerPrefixHash sessionId blocks false).shrinkResidentPrefixToMatchedTokens
    config sessionId matchedTokens
  let manager := opts.responseId.elim manager
    (manager.updateResponseId (opts.previousResponseId.getD ""))
  (manager, .resolved
    { sessionId
      slotId
      matchedTokens := UInt32.ofNat matchedTokens
      accumulatedThinkTokens := UInt32.ofNat thinkTokens
      isNewSession := false
      blocks })

/-- A session that has cached the first blocks goes on with these. -/
def continuePrefix (manager : SessionManager) (blocks : List BlockHashInfo)
    (acquired : AcquireResult) : SessionManager × SlotOutcome :=
  let manager := (manager.registerPrefixHash acquired.sessionId blocks
    false).shrinkResidentPrefixToMatchedTokens config acquired.sessionId
      acquired.numberOfMatchedTokens
  (manager, .resolved
    { sessionId := acquired.sessionId
      slotId := acquired.slotId
      matchedTokens := UInt32.ofNat acquired.numberOfMatchedTokens
      accumulatedThinkTokens := UInt32.ofNat acquired.accumulatedThinkTokens
      isNewSession := false
      blocks })

/-- An absent previous id misses as an empty one does. -/
def getSlot (config : SessionConfig) (manager : SessionManager) (blocks : List BlockHashInfo)
    (opts : GetSlotOptions) (creation : Creation) : SessionManager × SlotOutcome :=
  match manager.tryAcquireByResponseId (opts.previousResponseId.getD "") with
  | (manager, .hit sessionId slotId) => manager.continueResponse config blocks opts sessionId slotId
  | (manager, .inFlight) => (manager, .inFlight)
  | (manager, .miss) =>
    match manager.tryAcquireByPrefixHash config blocks with
    | (manager, some acquired) =>
      if acquired.sessionFound then manager.continuePrefix config blocks acquired
      else
        (manager.allocate config creation []
          (manager.bestSlotToCopyFrom config acquired.candidatesList)
          (.getSlot blocks opts.responseId), .allocating)
    | (manager, none) =>
      (manager.allocate config creation [] none (.getSlot blocks opts.responseId), .allocating)

/-- The completion callback of `getSlot`, with the source unlocked. -/
def completeGetSlot (blocks : List BlockHashInfo) (responseId : Option String)
    (copyMatchedTokens : Nat) : SessionManager × SlotOutcome :=
  match manager.acquireInFlight sessionId with
  | (manager, none) => (manager, .inFlight)
  | (manager, some slotId) =>
    let manager := responseId.elim manager (manager.registerResponseId sessionId)
    (manager.registerPrefixHash sessionId blocks false, .resolved
      { sessionId
        slotId
        matchedTokens := UInt32.ofNat copyMatchedTokens
        accumulatedThinkTokens := 0
        isNewSession := copyMatchedTokens = 0
        blocks })

end SessionManager

end InferenceServer.Sessions
