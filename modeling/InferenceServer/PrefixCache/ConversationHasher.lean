import Mathlib.Data.List.Basic

/-! Block hashing of a conversation. The tokens of a prompt are hashed in blocks, each
hash seeding the next one; thinking tokens take rows of the KV cache but are kept
out of the hashes and counted instead. Counts of tokens and rows are numbers: a
slot has far fewer than 2^32 rows. -/
namespace InferenceServer.PrefixCache

/-- A block's hash, and the KV rows up to its end that a later prompt will not
supply again. -/
structure BlockHashInfo where
  hash : UInt64
  accumulatedThinkTokens : Nat
  deriving DecidableEq, Repr

/-- The sizes of the first and of all other blocks. -/
structure BlockSizes where
  firstBlockSize : Nat
  blockSize : Nat

/-- `XXH64` of a block of tokens with a seed. -/
abbrev Xxh64 := List UInt32 → UInt64 → UInt64

def kNoTokenId : UInt32 := 0xFFFFFFFF

/-- The ids of the think markers. -/
structure ThinkTokenIds where
  thinkStartId : UInt32
  thinkEndId : UInt32

def ThinkTokenIds.filterThinking (ids : ThinkTokenIds) : Bool :=
  ids.thinkStartId ≠ kNoTokenId && ids.thinkEndId ≠ kNoTokenId

/-- Which think markers the chat template keeps in a conversation's history. -/
structure ThinkMarkersInHistory where
  start : Bool
  end_ : Bool

/-- The state of the hashing loop. -/
structure HashState where
  result : List BlockHashInfo := []
  currentBlock : List UInt32 := []
  inThinking : Bool := false
  thinkCount : Nat
  targetBlockSize : Nat
  parentHash : UInt64
  deriving DecidableEq

variable (sizes : BlockSizes) (xxh64 : Xxh64) (ids : ThinkTokenIds)
variable (markersInHistory : ThinkMarkersInHistory)

/-- Adds a token to the current block, which is hashed when it is complete. -/
def HashState.addToBlock (state : HashState) (token : UInt32) : HashState :=
  let currentBlock := state.currentBlock ++ [token]
  if currentBlock.length = state.targetBlockSize then
    let parentHash := xxh64 currentBlock state.parentHash
    { state with
      parentHash
      result := state.result ++ [{ hash := parentHash, accumulatedThinkTokens := state.thinkCount }]
      currentBlock := []
      targetBlockSize := sizes.blockSize }
  else { state with currentBlock }

/-- One round of the hashing loop. -/
def HashState.next (state : HashState) (token : UInt32) : HashState :=
  if ids.filterThinking then
    if token = ids.thinkStartId then
      { state with
        inThinking := true
        thinkCount := if markersInHistory.start then state.thinkCount else state.thinkCount + 1 }
    else if token = ids.thinkEndId then
      { state with
        inThinking := false
        thinkCount := if markersInHistory.end_ then state.thinkCount else state.thinkCount + 1 }
    else if state.inThinking then { state with thinkCount := state.thinkCount + 1 }
    else state.addToBlock sizes xxh64 token
  else state.addToBlock sizes xxh64 token

def HashState.initial (parentHash : UInt64) (parentThinkCount : Nat) : HashState where
  thinkCount := parentThinkCount
  targetBlockSize := if parentHash = 0 then sizes.firstBlockSize else sizes.blockSize
  parentHash := parentHash

/-- A partial block at the end is not hashed. -/
def getPrefixCacheHashesByBlocksWithThinking (tokens : List UInt32) (parentHash : UInt64)
    (parentThinkCount : Nat) : List BlockHashInfo :=
  if sizes.firstBlockSize = 0 ∨ sizes.blockSize = 0 then []
  else (tokens.foldl (HashState.next sizes xxh64 ids markersInHistory)
    (HashState.initial sizes parentHash parentThinkCount)).result

/-- `BlockMatcher::blocksToTokens`. -/
def blocksToTokens (matchedBlocks : Nat) : Nat :=
  if matchedBlocks = 0 then 0
  else sizes.firstBlockSize + (matchedBlocks - 1) * sizes.blockSize

/-- `BlockMatcher::tokensToBlocks`. -/
def tokensToBlocks (tokens : Nat) : Nat :=
  if tokens = 0 then 0
  else if tokens ≤ sizes.firstBlockSize ∨ sizes.blockSize = 0 then 1
  else 1 + (tokens - sizes.firstBlockSize + sizes.blockSize - 1) / sizes.blockSize

variable {sizes}

@[simp] theorem blocksToTokens_zero : blocksToTokens sizes 0 = 0 := rfl

theorem blocksToTokens_succ (blocks : Nat) : blocksToTokens sizes (blocks + 1) =
    blocksToTokens sizes blocks + if blocks = 0 then sizes.firstBlockSize else sizes.blockSize := by
  cases blocks with
  | zero => simp [blocksToTokens]
  | succ blocks =>
    simp only [blocksToTokens, Nat.add_one_ne_zero, ↓reduceIte, Nat.add_sub_cancel, Nat.succ_mul]
    omega

theorem blocksToTokens_mono {fewer blocks : Nat} (le : fewer ≤ blocks) :
    blocksToTokens sizes fewer ≤ blocksToTokens sizes blocks := by
  induction le with
  | refl => exact Nat.le_refl _
  | step _ ih => exact Nat.le_trans ih (by rw [blocksToTokens_succ]; exact Nat.le_add_right _ _)

theorem blocksToTokens_lt {fewer blocks : Nat} (first : 0 < sizes.firstBlockSize)
    (standard : 0 < sizes.blockSize) (lt : fewer < blocks) :
    blocksToTokens sizes fewer < blocksToTokens sizes blocks := by
  refine Nat.lt_of_lt_of_le ?_ (blocksToTokens_mono lt)
  rw [blocksToTokens_succ]
  split <;> omega

end InferenceServer.PrefixCache
