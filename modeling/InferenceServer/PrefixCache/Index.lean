import InferenceServer.PrefixCache.ConversationHasher

/-! The prefix index: under the hash of a first block, the sessions that have registered
it with their remaining blocks. Sessions with the same hashes share an entry. A key
that the map lacks has no entries. -/
namespace InferenceServer.PrefixCache

/-- The same two fields as in the blocks of the hashing loop. -/
abbrev RemainingBlockInfo := BlockHashInfo

structure PrefixIndexEntry (Session : Type*) where
  sessionIds : List Session
  remainingBlocks : List RemainingBlockInfo
  keyBlockThinkTokens : Nat
  deriving DecidableEq

structure Candidate (Session : Type*) where
  sessionId : Session
  matchedBlocks : Nat
  sessionBlocks : Nat
  thinkTokens : Nat
  deriving DecidableEq

structure MatchedTokens where
  matchedBlocks : Nat := 0
  matchedThinkTokens : Nat
  deriving DecidableEq

def buildCallerRemaining (blockInfos : List BlockHashInfo) : List RemainingBlockInfo :=
  blockInfos.tail

/-- The loop over the remaining blocks of the caller and of an entry. -/
def MatchedTokens.count (result : MatchedTokens) :
    List RemainingBlockInfo → List RemainingBlockInfo → MatchedTokens
  | caller :: callerRemaining, block :: entryRemaining =>
    if caller.hash = block.hash then
      count { matchedBlocks := result.matchedBlocks + 1
              matchedThinkTokens := block.accumulatedThinkTokens } callerRemaining entryRemaining
    else result
  | _, _ => result

def countMatchedTokens (callerRemaining entryRemaining : List RemainingBlockInfo)
    (keyBlockThinkTokens : Nat) : MatchedTokens :=
  MatchedTokens.count { matchedThinkTokens := keyBlockThinkTokens } callerRemaining entryRemaining

abbrev PrefixIndex (Session : Type*) := UInt64 → List (PrefixIndexEntry Session)

variable {Session : Type*} [DecidableEq Session] (sessionId : Session) (index : PrefixIndex Session)

def PrefixIndex.empty : PrefixIndex Session := fun _ => []

def remainingHashesMatch (a b : List RemainingBlockInfo) : Bool :=
  a.map BlockHashInfo.hash = b.map BlockHashInfo.hash

/-- Takes a session out of all entries; entries without sessions go. -/
def withoutSession (entries : List (PrefixIndexEntry Session)) : List (PrefixIndexEntry Session) :=
  (entries.map fun entry => { entry with sessionIds := entry.sessionIds.filter (· ≠ sessionId) }).filter
    fun entry => entry.sessionIds ≠ []

/-- Adds a session to the first entry with the same remaining hashes, or to a new one. -/
def joinEntry (sessionId : Session) (remaining : List RemainingBlockInfo) (keyThinkCount : Nat) :
    List (PrefixIndexEntry Session) → List (PrefixIndexEntry Session)
  | [] => [{ sessionIds := [sessionId]
             remainingBlocks := remaining
             keyBlockThinkTokens := keyThinkCount }]
  | entry :: entries =>
    if remainingHashesMatch entry.remainingBlocks remaining then
      { entry with sessionIds := entry.sessionIds ++ [sessionId] } :: entries
    else entry :: joinEntry sessionId remaining keyThinkCount entries

def PrefixIndex.registerPrefixHash (sessionId : Session) (blockInfos : List BlockHashInfo) :
    PrefixIndex Session :=
  match blockInfos with
  | [] => index
  | front :: _ => Function.update index front.hash
      (joinEntry sessionId (buildCallerRemaining blockInfos) front.accumulatedThinkTokens
        (withoutSession sessionId (index front.hash)))

def PrefixIndex.remove (sessionId : Session) (keyHash : UInt64) : PrefixIndex Session :=
  if keyHash = 0 then index
  else Function.update index keyHash (withoutSession sessionId (index keyHash))

def clearBlock (block : RemainingBlockInfo) : RemainingBlockInfo :=
  { block with accumulatedThinkTokens := 0 }

def clearEntry (entry : PrefixIndexEntry Session) : PrefixIndexEntry Session :=
  if sessionId ∈ entry.sessionIds then
    { entry with
      keyBlockThinkTokens := 0
      remainingBlocks := entry.remainingBlocks.map clearBlock }
  else entry

def PrefixIndex.clearThinkTokens (sessionId : Session) (keyHash : UInt64) : PrefixIndex Session :=
  if keyHash = 0 then index
  else Function.update index keyHash ((index keyHash).map (clearEntry sessionId))

def buildCandidates (blockInfos : List BlockHashInfo) (entries : List (PrefixIndexEntry Session)) :
    List (Candidate Session) :=
  if blockInfos = [] then []
  else entries.flatMap fun entry =>
    let matched := countMatchedTokens (buildCallerRemaining blockInfos) entry.remainingBlocks
      entry.keyBlockThinkTokens
    entry.sessionIds.map fun sessionId =>
      { sessionId
        matchedBlocks := 1 + matched.matchedBlocks
        sessionBlocks := 1 + entry.remainingBlocks.length
        thinkTokens := matched.matchedThinkTokens }

/-- The loop over the entries under a key, with the best match of the session so far. -/
def bestMatch (blockInfos : List BlockHashInfo) (best : Nat × Nat)
    (entry : PrefixIndexEntry Session) : Nat × Nat :=
  if sessionId ∈ entry.sessionIds then
    let matched := countMatchedTokens (buildCallerRemaining blockInfos) entry.remainingBlocks
      entry.keyBlockThinkTokens
    let totalMatched := 1 + matched.matchedBlocks
    if best.1 < totalMatched then (totalMatched, matched.matchedThinkTokens) else best
  else best

def computeMatchedBlocksForSession (blockInfos : List BlockHashInfo)
    (entries : List (PrefixIndexEntry Session)) : Nat × Nat :=
  if blockInfos = [] then (0, 0)
  else entries.foldl (bestMatch sessionId blockInfos) (0, 0)

end InferenceServer.PrefixCache
