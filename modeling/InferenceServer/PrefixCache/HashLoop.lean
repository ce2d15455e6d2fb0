import Mathlib.Data.List.Induction
import InferenceServer.PrefixCache.Rows

/-! The hashing loop from a fresh start. After any number of tokens its counters are
those of the rows that the tokens fill, so every block knows how many dropped rows
come before its end. -/
namespace InferenceServer.PrefixCache
open Machine

variable {sizes : BlockSizes} {xxh64 : Xxh64} {ids : ThinkTokenIds}
variable {markersInHistory : ThinkMarkersInHistory} {seed : Nat}

variable (sizes xxh64 ids markersInHistory) in
/-- The state of the loop after these tokens. -/
def hashAll (seed : Nat) (tokens : List UInt32) : HashState :=
  tokens.foldl (HashState.next sizes xxh64 ids markersInHistory) (HashState.initial sizes 0 seed)

theorem hashAll_concat (tokens : List UInt32) (token : UInt32) :
    hashAll sizes xxh64 ids markersInHistory seed (tokens ++ [token]) =
      (hashAll sizes xxh64 ids markersInHistory seed tokens).next sizes xxh64 ids markersInHistory
        token := by
  simp [hashAll]

variable (sizes ids markersInHistory seed) in
/-- The state of the loop agrees with the rows of the tokens so far. -/
structure Tracks (tokens : List UInt32) (state : HashState) : Prop where
  inThinking : state.inThinking = thinkingAfter ids tokens
  thinkCount : state.thinkCount = seed + (rows ids tokens).countP markersInHistory.drops
  ordinary : (rows ids tokens).countP Row.ordinary =
    blocksToTokens sizes state.result.length + state.currentBlock.length
  filling : state.currentBlock.length < state.targetBlockSize
  target : state.targetBlockSize =
    if state.result.length = 0 then sizes.firstBlockSize else sizes.blockSize
  parent : state.parentHash = (state.result.getLast?.map BlockHashInfo.hash).getD 0
  counts : ∀ block info, state.result[block]? = some info → info.accumulatedThinkTokens =
    seed + (rowsUpTo ids tokens (blocksToTokens sizes (block + 1))).countP markersInHistory.drops

theorem Tracks.initial (first : 0 < sizes.firstBlockSize) :
    Tracks sizes ids markersInHistory seed [] (HashState.initial sizes 0 seed) where
  inThinking := rfl
  thinkCount := rfl
  ordinary := rfl
  filling := first
  target := rfl
  parent := rfl
  counts := by simp [HashState.initial]

variable {tokens : List UInt32} {state : HashState} {block : Nat} {token : UInt32}

/-- Complete blocks end within the tokens so far. -/
theorem Tracks.complete (tracks : Tracks sizes ids markersInHistory seed tokens state)
    (lt : block < state.result.length) :
    blocksToTokens sizes (block + 1) ≤ (rows ids tokens).countP Row.ordinary := by
  rw [tracks.ordinary]
  exact Nat.le_trans (blocksToTokens_mono lt) (Nat.le_add_right _ _)

theorem rowsUpTo_append {ordinary : Nat} (enough : ordinary ≤ (rows ids tokens).countP Row.ordinary)
    (more : List UInt32) :
    rowsUpTo ids (tokens ++ more) ordinary = rowsUpTo ids tokens ordinary := by
  rw [rowsUpTo, rowsUpTo, rows_append, markEnd_append enough,
    List.take_append_of_le_length (markEnd_le_length ..)]

/-- The counts of complete blocks stay what they are when a token is added. -/
theorem Tracks.counts_append (tracks : Tracks sizes ids markersInHistory seed tokens state)
    (more : List UInt32) {info : BlockHashInfo} (found : state.result[block]? = some info) :
    info.accumulatedThinkTokens = seed +
      (rowsUpTo ids (tokens ++ more) (blocksToTokens sizes (block + 1))).countP
        markersInHistory.drops := by
  have lt := (List.getElem?_eq_some_iff.mp found).1
  rw [rowsUpTo_append (tracks.complete lt), tracks.counts block info found]

theorem kindOf_ordinary {inThinking : Bool} (ordinary : kindOf ids inThinking token = .ordinary) :
    thinkingNext ids inThinking token = false := by
  rw [thinkingNext, ordinary]

section

variable (ordinary : kindOf ids (thinkingAfter ids tokens) token = .ordinary)
include ordinary

/-- Outside a think block an ordinary token leaves the loop there. -/
theorem inThinking_ordinary : thinkingAfter ids tokens = false := by
  induction tokens using List.reverseRecOn with
  | nil => rfl
  | append_singleton tokens last ih =>
    by_cases filter : ids.filterThinking
    · simp only [kindOf, filter, ↓reduceIte] at ordinary
      grind
    · simp [thinkingAfter_concat, thinkingNext, kindOf, filter]

/-- The rows up to the last ordinary one, when it comes last. -/
theorem rowsUpTo_concat :
    rowsUpTo ids (tokens ++ [token]) ((rows ids tokens).countP Row.ordinary + 1) =
      rows ids (tokens ++ [token]) := by
  rw [rowsUpTo, rows_concat, markEnd_concat (by simp [Row.ordinary, ordinary])]
  exact List.take_of_length_le (by simp)

end

section

variable (tracks : Tracks sizes ids markersInHistory seed tokens state)
include tracks

/-- Where the block that is being filled will end. -/
theorem Tracks.target_end : blocksToTokens sizes (state.result.length + 1) =
      blocksToTokens sizes state.result.length + state.targetBlockSize := by
  rw [blocksToTokens_succ, tracks.target]

theorem Tracks.addToBlock (standard : 0 < sizes.blockSize)
    (ordinary : kindOf ids (thinkingAfter ids tokens) token = .ordinary) :
    Tracks sizes ids markersInHistory seed (tokens ++ [token])
      (state.addToBlock sizes xxh64 token) := by
  have outside := inThinking_ordinary ordinary
  have still : thinkingAfter ids (tokens ++ [token]) = false := by
    rw [thinkingAfter_concat, kindOf_ordinary ordinary]
  have ordinaryRow : (rows ids (tokens ++ [token])).countP Row.ordinary =
      (rows ids tokens).countP Row.ordinary + 1 := by
    rw [rows_concat, List.countP_append]
    simp [Row.ordinary, ordinary]
  have sameDropped : (rows ids (tokens ++ [token])).countP markersInHistory.drops =
      (rows ids tokens).countP markersInHistory.drops := by
    rw [rows_concat, List.countP_append]
    simp [ThinkMarkersInHistory.drops, ordinary]
  have counted := tracks.ordinary
  have small := tracks.filling
  unfold HashState.addToBlock
  simp only [List.length_append, List.length_singleton]
  split
  next full =>
    have blockEnd : blocksToTokens sizes (state.result.length + 1) =
        (rows ids tokens).countP Row.ordinary + 1 := by
      rw [tracks.target_end]
      omega
    refine {
      inThinking := by rw [still, ← outside]; exact tracks.inThinking
      thinkCount := by rw [sameDropped]; exact tracks.thinkCount
      ordinary := by rw [ordinaryRow, List.length_append, List.length_singleton, blockEnd]; rfl
      filling := standard
      target := by simp
      parent := by simp
      counts := ?_ }
    intro block info found
    by_cases old : block < state.result.length
    · rw [List.getElem?_append_left old] at found
      exact tracks.counts_append [token] found
    · rw [List.getElem?_append_right (by omega)] at found
      obtain rfl : block = state.result.length := by
        have := (List.getElem?_eq_some_iff.mp found).1
        simp only [List.length_singleton] at this
        omega
      simp only [Nat.sub_self, List.getElem?_cons_zero, Option.some.injEq] at found
      rw [← found, blockEnd, rowsUpTo_concat ordinary, sameDropped]
      exact tracks.thinkCount
  next more =>
    refine {
      inThinking := by rw [still, ← outside]; exact tracks.inThinking
      thinkCount := by rw [sameDropped]; exact tracks.thinkCount
      ordinary := by simp only [ordinaryRow, List.length_append, List.length_singleton]; omega
      filling := by simp only [List.length_append, List.length_singleton]; omega
      target := tracks.target
      parent := tracks.parent
      counts := fun block info found => tracks.counts_append [token] found }

/-- One token. -/
theorem Tracks.next (standard : 0 < sizes.blockSize) (token : UInt32) :
    Tracks sizes ids markersInHistory seed (tokens ++ [token])
      (state.next sizes xxh64 ids markersInHistory token) := by
  rw [HashState.next_eq, tracks.inThinking]
  by_cases ordinary : kindOf ids (thinkingAfter ids tokens) token = .ordinary
  · simp only [ordinary, ↓reduceIte]
    exact tracks.addToBlock standard ordinary
  · simp only [ordinary, ↓reduceIte]
    have sameOrdinary : (rows ids (tokens ++ [token])).countP Row.ordinary =
        (rows ids tokens).countP Row.ordinary := by
      rw [rows_concat, List.countP_append]
      simp [Row.ordinary, ordinary]
    exact { tracks with
      inThinking := (thinkingAfter_concat tokens token).symm
      thinkCount := by
        rw [rows_concat, List.countP_append, List.countP_singleton, tracks.thinkCount, Nat.add_assoc]
      ordinary := sameOrdinary ▸ tracks.ordinary
      counts := fun block info found => tracks.counts_append [token] found }

end

section

variable (first : 0 < sizes.firstBlockSize)
include first

section

variable (standard : 0 < sizes.blockSize)
include standard

/-- The whole loop, by induction on the tokens from the last one. -/
theorem tracks_hashAll (tokens : List UInt32) : Tracks sizes ids markersInHistory seed tokens
      (hashAll sizes xxh64 ids markersInHistory seed tokens) := by
  induction tokens using List.reverseRecOn with
  | nil => exact Tracks.initial first
  | append_singleton tokens token ih =>
    rw [hashAll_concat]
    exact ih.next standard token

theorem hashes_eq (tokens : List UInt32) :
    getPrefixCacheHashesByBlocksWithThinking sizes xxh64 ids markersInHistory tokens 0 seed =
      (hashAll sizes xxh64 ids markersInHistory seed tokens).result := by
  rw [getPrefixCacheHashesByBlocksWithThinking, if_neg (by omega), hashAll]

/-- A block is hashed when there are ordinary rows for it. -/
theorem hashed_iff (tokens : List UInt32) (block : Nat) :
    block < (getPrefixCacheHashesByBlocksWithThinking sizes xxh64 ids markersInHistory tokens 0
      seed).length ↔ blocksToTokens sizes (block + 1) ≤ (rows ids tokens).countP Row.ordinary := by
  rw [hashes_eq first standard]
  have tracks : Tracks sizes ids markersInHistory seed tokens
      (hashAll sizes xxh64 ids markersInHistory seed tokens) := tracks_hashAll first standard tokens
  constructor
  · exact tracks.complete
  · intro enough
    by_contra missing
    have small := tracks.filling
    have atEnd := tracks.target_end
    have further : blocksToTokens sizes
        ((hashAll sizes xxh64 ids markersInHistory seed tokens).result.length + 1) ≤
        blocksToTokens sizes (block + 1) := blocksToTokens_mono (by omega)
    rw [tracks.ordinary] at enough
    omega

/-- A hashed block has counted the dropped rows before its end. -/
theorem accumulatedThinkTokens_eq {info : BlockHashInfo}
    (found : (getPrefixCacheHashesByBlocksWithThinking sizes xxh64 ids markersInHistory tokens 0
      seed)[block]? = some info) : info.accumulatedThinkTokens = seed +
      (rowsUpTo ids tokens (blocksToTokens sizes (block + 1))).countP markersInHistory.drops := by
  rw [hashes_eq first standard] at found
  exact (tracks_hashAll first standard tokens).counts block info found

end

end

/-- Block sizes that the server takes from its environment. -/
def smallBlocks : BlockSizes where
  firstBlockSize := 32
  blockSize := 32

def thinkMarkers : ThinkTokenIds where
  thinkStartId := 90001
  thinkEndId := 90002

/-- A hash function to run the loop with. -/
def polynomialHash : Xxh64 := fun block seed =>
  block.foldl (fun hash token => 31 * hash + token.toUInt64) (seed + 1)

end InferenceServer.PrefixCache
