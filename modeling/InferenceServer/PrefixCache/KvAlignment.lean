import InferenceServer.PrefixCache.HashLoop

/-! The next turn resumes after the tokens of its last matched block, on the row that
the block's count gives. This is the row after the tokens that were trimmed when
nothing is dropped near the end of the block: markers that are kept in history fill
rows and take places in the prompt, but are neither hashed nor counted. -/
namespace InferenceServer.PrefixCache
open Machine

variable {sizes : BlockSizes} {xxh64 : Xxh64} {ids : ThinkTokenIds}
variable {markersInHistory : ThinkMarkersInHistory}
variable {tokens : List UInt32} {block : Nat} {info : BlockHashInfo}

/-- The next turn, resumed after this block, finds the rendered tokens before its own. -/
def Aligned (sizes : BlockSizes) (ids : ThinkTokenIds) (markersInHistory : ThinkMarkersInHistory)
    (tokens : List UInt32) (block : Nat) (info : BlockHashInfo) : Prop :=
  let matchedTokens := blocksToTokens sizes (block + 1)
  render ids markersInHistory (tokens.take (matchedTokens + info.accumulatedThinkTokens)) =
    (render ids markersInHistory tokens).take matchedTokens

/-- As many of the last rows as there are kept markers in all rows hold nothing dropped. -/
def ClearAtEnd (markersInHistory : ThinkMarkersInHistory) (list : List Row) : Prop :=
  ∀ row ∈ list.drop (list.length - list.countP markersInHistory.keepsMarker),
    markersInHistory.drops row = false

instance (list : List Row) : Decidable (ClearAtEnd markersInHistory list) :=
  inferInstanceAs (Decidable (∀ row ∈ _, _))

theorem render_take (tokens : List UInt32) (count : Nat) :
    render ids markersInHistory (tokens.take count) = (render ids markersInHistory tokens).take
      (((rows ids tokens).take count).countP fun row => !markersInHistory.drops row) := by
  rw [render, rows_take, filter_take, List.map_take, render]

theorem countP_drops_add (markersInHistory : ThinkMarkersInHistory) (list : List Row) :
    list.countP markersInHistory.drops +
    list.countP (fun row => !markersInHistory.drops row) = list.length := by
  rw [List.length_eq_countP_add_countP markersInHistory.drops]
  simp

/-- The ordinary rows are among those that are rendered. -/
theorem ordinary_le_render (tokens : List UInt32) :
    (rows ids tokens).countP Row.ordinary ≤ (render ids markersInHistory tokens).length := by
  rw [render, List.length_map, ← List.countP_eq_length_filter]
  refine List.countP_mono_left ?_
  rintro ⟨kind, token⟩ _ ordinary
  simp_all [Row.ordinary, ThinkMarkersInHistory.drops]

/-- Rendering some rows gives as many tokens as wanted when the rest of them are dropped. -/
theorem render_take_iff {count matched : Nat} (within : count ≤ tokens.length)
    (enough : matched ≤ (render ids markersInHistory tokens).length) :
    render ids markersInHistory (tokens.take count) =
      (render ids markersInHistory tokens).take matched ↔
    ((rows ids tokens).take count).countP markersInHistory.drops + matched = count := by
  have kept := countP_drops_add markersInHistory
    ((rows ids tokens).take count)
  have fits : ((rows ids tokens).take count).countP (fun row => !markersInHistory.drops row) ≤
      (render ids markersInHistory tokens).length := by
    rw [render, List.length_map, ← List.countP_eq_length_filter]
    exact (List.take_sublist count _).countP_le
  rw [List.length_take, rows_length, Nat.min_eq_left within] at kept
  rw [render_take, List.take_eq_take_iff]
  omega

/-- The rows at the end are clear when all that is dropped comes before them. -/
theorem clearAtEnd_iff (list : List Row) : ClearAtEnd markersInHistory list ↔
    (list.take (list.length - list.countP markersInHistory.keepsMarker)).countP
      markersInHistory.drops = list.countP markersInHistory.drops := by
  have split := congrArg (List.countP markersInHistory.drops) (List.take_append_drop
    (list.length - list.countP markersInHistory.keepsMarker) list)
  rw [List.countP_append] at split
  have clear : ClearAtEnd markersInHistory list ↔
      (list.drop (list.length - list.countP markersInHistory.keepsMarker)).countP
        markersInHistory.drops = 0 := by
    simp [ClearAtEnd]
  rw [clear]
  omega

/-- The row on which the next turn resumes: as many rows before the end of the block
as there are kept markers. -/
theorem resume_row (first : 0 < sizes.firstBlockSize) (standard : 0 < sizes.blockSize)
    (found : (getPrefixCacheHashesByBlocksWithThinking sizes xxh64 ids markersInHistory tokens 0
      0)[block]? = some info) : blocksToTokens sizes (block + 1) + info.accumulatedThinkTokens =
      (rowsUpTo ids tokens (blocksToTokens sizes (block + 1))).length -
      (rowsUpTo ids tokens (blocksToTokens sizes (block + 1))).countP
        markersInHistory.keepsMarker := by
  have enough := (hashed_iff first standard tokens block).mp (List.getElem?_eq_some_iff.mp found).1
  have counted := accumulatedThinkTokens_eq first standard found
  have ordinary : (rowsUpTo ids tokens (blocksToTokens sizes (block + 1))).countP Row.ordinary =
      blocksToTokens sizes (block + 1) := countP_take_markEnd enough
  have partition := rows_partition markersInHistory
    (rowsUpTo ids tokens (blocksToTokens sizes (block + 1)))
  omega

/-- One block is aligned when the rows near its end are clear. -/
theorem aligned_iff (first : 0 < sizes.firstBlockSize) (standard : 0 < sizes.blockSize)
    (found : (getPrefixCacheHashesByBlocksWithThinking sizes xxh64 ids markersInHistory tokens 0
      0)[block]? = some info) : Aligned sizes ids markersInHistory tokens block info ↔
      ClearAtEnd markersInHistory (rowsUpTo ids tokens (blocksToTokens sizes (block + 1))) := by
  have enough := (hashed_iff first standard tokens block).mp (List.getElem?_eq_some_iff.mp found).1
  have resumed := resume_row first standard found
  have counted := accumulatedThinkTokens_eq first standard found
  have blockEnd : (rowsUpTo ids tokens (blocksToTokens sizes (block + 1))).length =
      markEnd Row.ordinary (rows ids tokens) (blocksToTokens sizes (block + 1)) :=
    List.length_take_of_le (markEnd_le_length ..)
  have within := markEnd_le_length Row.ordinary (rows ids tokens) (blocksToTokens sizes (block + 1))
  rw [rows_length] at within
  have early : (rows ids tokens).take (blocksToTokens sizes (block + 1) +
      info.accumulatedThinkTokens) = (rowsUpTo ids tokens (blocksToTokens sizes (block + 1))).take
      (blocksToTokens sizes (block + 1) + info.accumulatedThinkTokens) := by
    rw [rowsUpTo, List.take_take, Nat.min_eq_left (by omega)]
  rw [Aligned, render_take_iff (by omega) (Nat.le_trans enough (ordinary_le_render tokens)), early,
    clearAtEnd_iff, ← resumed]
  omega

/-- Every block is aligned when the rows near the end of every block are clear. -/
theorem kvRows_aligned (first : 0 < sizes.firstBlockSize) (standard : 0 < sizes.blockSize)
    (tokens : List UInt32) :
    (∀ block info, (getPrefixCacheHashesByBlocksWithThinking sizes xxh64 ids markersInHistory
      tokens 0 0)[block]? = some info → Aligned sizes ids markersInHistory tokens block info) ↔
    ∀ block, blocksToTokens sizes (block + 1) ≤ (rows ids tokens).countP Row.ordinary →
      ClearAtEnd markersInHistory (rowsUpTo ids tokens (blocksToTokens sizes (block + 1))) := by
  constructor
  · intro aligned block enough
    have hashed : block < (getPrefixCacheHashesByBlocksWithThinking sizes xxh64 ids
        markersInHistory tokens 0 0).length := (hashed_iff first standard tokens block).mpr enough
    have found := List.getElem?_eq_getElem hashed
    exact (aligned_iff first standard found).mp (aligned block _ found)
  · intro clear block info found
    refine (aligned_iff first standard found).mpr (clear block ?_)
    exact (hashed_iff first standard tokens block).mp (List.getElem?_eq_some_iff.mp found).1

/-- Reasoning, an answer that lacks one token of a block, and reasoning again. -/
def twoThinkBlocks : List UInt32 :=
  [90001, 70001, 90002] ++ List.replicate 31 2000 ++ [90001, 70002, 90002, 2001]

/-- Both markers come back with the next prompt, which then misses the end of the
first block by more than the second answer and the marker before it. -/
theorem kvRows_misaligned : ¬∃ xxh64 : Xxh64, ∀ sizes ids markersInHistory tokens,
    0 < sizes.firstBlockSize → 0 < sizes.blockSize → ∀ block info,
    (getPrefixCacheHashesByBlocksWithThinking sizes xxh64 ids markersInHistory tokens 0
      0)[block]? = some info → Aligned sizes ids markersInHistory tokens block info := by
  rintro ⟨xxh64, claim⟩
  have first : 0 < smallBlocks.firstBlockSize := by decide
  have standard : 0 < smallBlocks.blockSize := by decide
  have hashed : 0 < (getPrefixCacheHashesByBlocksWithThinking smallBlocks xxh64 thinkMarkers
      ⟨true, true⟩ twoThinkBlocks 0 0).length :=
    (hashed_iff first standard twoThinkBlocks 0).mpr (by decide)
  have found := List.getElem?_eq_getElem hashed
  have clear := (aligned_iff first standard found).mp
    (claim smallBlocks thinkMarkers ⟨true, true⟩ twoThinkBlocks first standard 0 _ found)
  revert clear
  decide

/-- One think block before an answer that fills a block. -/
def oneThinkBlock : List UInt32 := [90001, 70001, 90002] ++ List.replicate 32 2000

theorem kvRows_aligned_oneThinkBlock :
    Aligned smallBlocks thinkMarkers ⟨true, true⟩ oneThinkBlock 0 ⟨polynomialHash (List.replicate 32 2000) 0, 1⟩ := by
  have clear : ∀ block, blocksToTokens smallBlocks (block + 1) ≤
      (rows thinkMarkers oneThinkBlock).countP Row.ordinary → ClearAtEnd ⟨true, true⟩
        (rowsUpTo thinkMarkers oneThinkBlock (blocksToTokens smallBlocks (block + 1))) := by
    intro block enough
    obtain rfl : block = 0 := by
      have answer : (rows thinkMarkers oneThinkBlock).countP Row.ordinary = 32 := by decide
      rw [answer, blocksToTokens] at enough
      simp only [Nat.add_one_ne_zero, ↓reduceIte, Nat.add_sub_cancel, smallBlocks] at enough
      omega
    decide
  exact (kvRows_aligned (by decide) (by decide) oneThinkBlock).mpr clear 0 ⟨polynomialHash (List.replicate 32 2000) 0, 1⟩
    (show (getPrefixCacheHashesByBlocksWithThinking smallBlocks polynomialHash thinkMarkers
      ⟨true, true⟩ oneThinkBlock 0 0)[0]? = some ⟨polynomialHash (List.replicate 32 2000) 0, 1⟩
      by decide +kernel)

end InferenceServer.PrefixCache
