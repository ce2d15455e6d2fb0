import InferenceServer.PrefixCache.BlockHashes

/-! The tokens that a session collects during a turn, and the blocks that it registers
at the end of the turn. -/
namespace InferenceServer.Sessions
open PrefixCache

structure TokenAccumulator where
  deltaTokens : List UInt32
  generatedTokens : List UInt32 := []
  initialBlocks : List BlockHashInfo
  parentHash : UInt64
  parentThinkCount : Nat

def initTokenAccumulator (deltaTokens : List UInt32) (initialBlocks : List BlockHashInfo)
    (parentThinkCount : Nat) : TokenAccumulator where
  deltaTokens := deltaTokens
  initialBlocks := initialBlocks
  parentHash := (initialBlocks.getLast?.map BlockHashInfo.hash).getD 0
  parentThinkCount := parentThinkCount

def TokenAccumulator.addGeneratedToken (accumulator : TokenAccumulator) (tokenId : UInt32) :
    TokenAccumulator :=
  { accumulator with generatedTokens := accumulator.generatedTokens ++ [tokenId] }

/-- All blocks of the session, or none when the turn completed no block and the
session is to be closed. -/
def TokenAccumulator.finalizeAndRegisterHashes (sizes : BlockSizes) (xxh64 : Xxh64)
    (ids : ThinkTokenIds) (markersInHistory : ThinkMarkersInHistory)
    (accumulator : TokenAccumulator) : Option (List BlockHashInfo) :=
  match getPrefixCacheHashesByBlocksWithThinking sizes xxh64 ids markersInHistory
      (accumulator.deltaTokens ++ accumulator.generatedTokens) accumulator.parentHash
      accumulator.parentThinkCount with
  | [] => none
  | newBlocks => some (accumulator.initialBlocks ++ newBlocks)

theorem addGeneratedTokens (accumulator : TokenAccumulator) (tokens : List UInt32) :
    tokens.foldl TokenAccumulator.addGeneratedToken accumulator =
      { accumulator with generatedTokens := accumulator.generatedTokens ++ tokens } := by
  induction tokens generalizing accumulator with
  | nil => simp
  | cons token rest ih => simp [ih, TokenAccumulator.addGeneratedToken]

end InferenceServer.Sessions

/-! Counts of think rows across turns. A turn that continues on a slot registers all
its blocks anew from the prompt, which lacks the reasoning of earlier turns; the
count of the matched rows is given to all blocks, also to those that come before
some of these rows. -/
namespace InferenceServer.PrefixCache
open Machine Sessions

variable {sizes : BlockSizes} {xxh64 : Xxh64} {ids : ThinkTokenIds}
variable {markersInHistory : ThinkMarkersInHistory} {seed : Nat}

/-- The rows of a slot after a turn that resumed behind its matched rows. -/
def slotRows (previousRows prompt generated : List UInt32) (matchedTokens thinkTokens : Nat) :
    List UInt32 :=
  previousRows.take (matchedTokens + thinkTokens) ++ prompt.drop matchedTokens ++ generated

/-- A prompt that hits the first blocks of a slot's rows. The chat template drops both
markers from history, so none comes back in the part that is matched. -/
structure PromptHit (sizes : BlockSizes) (xxh64 : Xxh64) (ids : ThinkTokenIds)
    (previousRows prompt : List UInt32) (matchedBlocks thinkTokens : Nat) : Prop where
  registered : matchedBlocks ≤
    (getPrefixCacheHashesByBlocksWithThinking sizes xxh64 ids ⟨false, false⟩ previousRows 0 0).length
  looked : matchedBlocks ≤
    (getPrefixCacheHashesByBlocksWithThinking sizes xxh64 ids ⟨false, false⟩ prompt 0 0).length
  same :
    ((getPrefixCacheHashesByBlocksWithThinking sizes xxh64 ids ⟨false, false⟩ previousRows 0 0).take
      matchedBlocks).map BlockHashInfo.hash =
    ((getPrefixCacheHashesByBlocksWithThinking sizes xxh64 ids ⟨false, false⟩ prompt 0 0).take
      matchedBlocks).map BlockHashInfo.hash
  accumulated :
    (((getPrefixCacheHashesByBlocksWithThinking sizes xxh64 ids ⟨false, false⟩ previousRows 0
      0).take matchedBlocks).getLast?.map BlockHashInfo.accumulatedThinkTokens).getD 0 = thinkTokens
  unmarked : ∀ token ∈ prompt.take (blocksToTokens sizes matchedBlocks),
    kindOf ids false token = .ordinary

/-- Blocks with the same hashes, of which one list has one count throughout. -/
theorem blocks_eq_iff {blocks others : List BlockHashInfo} {count : Nat}
    (same : blocks.map BlockHashInfo.hash = others.map BlockHashInfo.hash)
    (uniform : ∀ info ∈ blocks, info.accumulatedThinkTokens = count) :
    blocks = others ↔ ∀ info ∈ others, info.accumulatedThinkTokens = count := by
  constructor
  · rintro rfl
    exact uniform
  · intro also
    induction blocks generalizing others with
    | nil =>
      rw [List.map_nil, eq_comm, List.map_eq_nil_iff] at same
      exact same.symm
    | cons block rest ih =>
      cases others with
      | nil => simp at same
      | cons other further =>
        simp only [List.map_cons, List.cons.injEq] at same
        rw [List.forall_mem_cons] at uniform also
        have equal : block = other := by
          cases block
          cases other
          simp_all
        rw [equal, ih same.2 uniform.2 also.2]

/-- Fewer ordinary rows end earlier. -/
theorem rowsUpTo_extend {tokens : List UInt32} {fewer ordinary : Nat} (le : fewer ≤ ordinary)
    (enough : ordinary ≤ (rows ids tokens).countP Row.ordinary) :
    rowsUpTo ids tokens ordinary = rowsUpTo ids tokens fewer ++
      (rowsUpTo ids tokens ordinary).drop (rowsUpTo ids tokens fewer).length := by
  have earlier := markEnd_mono le enough
  have within := markEnd_le_length Row.ordinary (rows ids tokens) fewer
  have same : rowsUpTo ids tokens fewer =
      (rowsUpTo ids tokens ordinary).take (rowsUpTo ids tokens fewer).length := by
    simp only [rowsUpTo, List.length_take, List.take_take]
    congr 1
    omega
  conv => rhs; arg 1; rw [same]
  rw [List.take_append_drop]

theorem countP_rowsUpTo (markersInHistory : ThinkMarkersInHistory) {tokens : List UInt32}
    {fewer ordinary : Nat} (le : fewer ≤ ordinary) (enough : ordinary ≤ (rows ids tokens).countP Row.ordinary) :
    (rowsUpTo ids tokens ordinary).countP markersInHistory.drops =
      (rowsUpTo ids tokens fewer).countP markersInHistory.drops +
      ((rowsUpTo ids tokens ordinary).drop (rowsUpTo ids tokens fewer).length).countP
        markersInHistory.drops := by
  conv => lhs; rw [rowsUpTo_extend le enough]
  rw [List.countP_append]

variable (sizes ids) in
/-- Nothing that is dropped stands behind the first block among the matched rows. -/
def ThinksInFirstBlock (previousRows : List UInt32) (matchedBlocks : Nat) : Prop :=
  ∀ row ∈ (rowsUpTo ids previousRows (blocksToTokens sizes matchedBlocks)).drop
    (rowsUpTo ids previousRows sizes.firstBlockSize).length,
    ThinkMarkersInHistory.drops ⟨false, false⟩ row = false

instance (previousRows : List UInt32) (matchedBlocks : Nat) :
    Decidable (ThinksInFirstBlock sizes ids previousRows matchedBlocks) :=
  inferInstanceAs (Decidable (∀ row ∈ _, _))

/-- The count of the last matched block. -/
theorem last_count (first : 0 < sizes.firstBlockSize) (standard : 0 < sizes.blockSize)
    {tokens : List UInt32} {blocks : Nat} (enough : blocks ≤
      (getPrefixCacheHashesByBlocksWithThinking sizes xxh64 ids markersInHistory tokens 0 0).length) :
    (((getPrefixCacheHashesByBlocksWithThinking sizes xxh64 ids markersInHistory tokens 0 0).take
      blocks).getLast?.map BlockHashInfo.accumulatedThinkTokens).getD 0 =
      (rowsUpTo ids tokens (blocksToTokens sizes blocks)).countP markersInHistory.drops := by
  cases blocks with
  | zero => simp [rowsUpTo]
  | succ block =>
    have found := List.getElem?_eq_getElem enough
    rw [List.take_add_one, found, Option.toList_some, List.getLast?_concat, Option.map_some,
      Option.getD_some, accumulatedThinkTokens_eq first standard found, Nat.zero_add]

theorem hashed_le_iff (first : 0 < sizes.firstBlockSize) (standard : 0 < sizes.blockSize)
    (tokens : List UInt32) (blocks : Nat) : blocks ≤
      (getPrefixCacheHashesByBlocksWithThinking sizes xxh64 ids markersInHistory tokens 0 0).length ↔
    blocksToTokens sizes blocks ≤ (rows ids tokens).countP Row.ordinary := by
  cases blocks with
  | zero => simp
  | succ block => exact hashed_iff first standard tokens block

section Hit
variable {previousRows prompt : List UInt32} {matchedBlocks thinkTokens : Nat}

section

variable (hit : PromptHit sizes xxh64 ids previousRows prompt matchedBlocks thinkTokens)
include hit

section

variable (first : 0 < sizes.firstBlockSize)
include first

/-- The matched rows: those of the matched blocks and of the reasoning among them. -/
theorem PromptHit.matched_rows (standard : 0 < sizes.blockSize) :
    blocksToTokens sizes matchedBlocks ≤ (rows ids previousRows).countP Row.ordinary ∧
    thinkTokens = (rowsUpTo ids previousRows (blocksToTokens sizes matchedBlocks)).countP
      (ThinkMarkersInHistory.drops ⟨false, false⟩) ∧
    blocksToTokens sizes matchedBlocks + thinkTokens =
      markEnd Row.ordinary (rows ids previousRows) (blocksToTokens sizes matchedBlocks) := by
  have enough := (hashed_le_iff first standard previousRows matchedBlocks).mp hit.registered
  have counted := hit.accumulated.symm.trans (last_count first standard hit.registered)
  refine ⟨enough, counted, ?_⟩
  have partition := rows_partition ⟨false, false⟩
    (rowsUpTo ids previousRows (blocksToTokens sizes matchedBlocks))
  have length : (rowsUpTo ids previousRows (blocksToTokens sizes matchedBlocks)).length =
      markEnd Row.ordinary (rows ids previousRows) (blocksToTokens sizes matchedBlocks) :=
    List.length_take_of_le (markEnd_le_length ..)
  rw [keepsMarker_none ⟨rfl, rfl⟩, ← counted, rowsUpTo, countP_take_markEnd enough] at partition
  rw [rowsUpTo] at length
  omega

/-- The prompt fills the matched blocks with its first tokens. -/
theorem PromptHit.matched_prompt (standard : 0 < sizes.blockSize) :
    (rows ids (prompt.take (blocksToTokens sizes matchedBlocks))).countP Row.ordinary =
      blocksToTokens sizes matchedBlocks ∧
    (rows ids (prompt.take (blocksToTokens sizes matchedBlocks))).countP
      (ThinkMarkersInHistory.drops ⟨false, false⟩) = 0 := by
  have enough := (hashed_le_iff first standard prompt matchedBlocks).mp hit.looked
  obtain ⟨-, ordinary⟩ := rows_unmarked hit.unmarked
  have long : blocksToTokens sizes matchedBlocks ≤ prompt.length := by
    have bound := List.countP_le_length (p := Row.ordinary) (l := rows ids prompt)
    rw [rows_length] at bound
    omega
  constructor
  · rw [rows_ordinary_unmarked hit.unmarked, List.length_take_of_le long]
  · rw [List.countP_eq_zero]
    intro row member
    simp [ThinkMarkersInHistory.drops, ordinary row member]

/-- The loop over the prompt and the loop over the rows of the slot meet behind the
matched rows, but for what they have completed. -/
theorem PromptHit.resumed (standard : 0 < sizes.blockSize) :
    let asked := hashAll sizes xxh64 ids ⟨false, false⟩ thinkTokens
      (prompt.take (blocksToTokens sizes matchedBlocks))
    let held := hashAll sizes xxh64 ids ⟨false, false⟩ 0
      (previousRows.take (blocksToTokens sizes matchedBlocks + thinkTokens))
    held.result = (getPrefixCacheHashesByBlocksWithThinking sizes xxh64 ids ⟨false, false⟩
      previousRows 0 0).take matchedBlocks ∧
    asked.result.map BlockHashInfo.hash = held.result.map BlockHashInfo.hash ∧
    { asked with result := [] } = { held with result := [] } := by
  intro asked held
  obtain ⟨enough, counted, matchedEnd⟩ := hit.matched_rows first standard
  obtain ⟨promptOrdinary, promptDropped⟩ := hit.matched_prompt first standard
  have heldRows : rows ids (previousRows.take (blocksToTokens sizes matchedBlocks + thinkTokens)) =
      rowsUpTo ids previousRows (blocksToTokens sizes matchedBlocks) := by
    rw [rows_take, matchedEnd, rowsUpTo]
  have heldOutside :
      thinkingAfter ids (previousRows.take (blocksToTokens sizes matchedBlocks + thinkTokens)) =
        false := by
    rw [matchedEnd]
    exact thinkingAfter_markEnd previousRows _ enough
  have heldOrdinary : (rows ids (previousRows.take (blocksToTokens sizes matchedBlocks +
      thinkTokens))).countP Row.ordinary = blocksToTokens sizes matchedBlocks := by
    rw [heldRows]
    exact countP_take_markEnd enough
  have heldState : { held with result := [] } = _ :=
    hashAll_complete xxh64 ⟨false, false⟩ 0 first standard heldOutside heldOrdinary
  have askedState : { asked with result := [] } = _ :=
    hashAll_complete xxh64 ⟨false, false⟩ thinkTokens first standard
      (rows_unmarked hit.unmarked).1 promptOrdinary
  have heldFirst : held.result = _ := first_blocks first standard previousRows heldOrdinary
  have sameHashes : asked.result.map BlockHashInfo.hash = held.result.map BlockHashInfo.hash := by
    have seedless : asked.result.map BlockHashInfo.hash =
        (hashAll sizes xxh64 ids ⟨false, false⟩ 0
          (prompt.take (blocksToTokens sizes matchedBlocks))).result.map BlockHashInfo.hash :=
      hashes_of_ordinary first standard rfl
    rw [seedless, first_blocks first standard prompt promptOrdinary, ← hit.same, ← heldFirst]
  refine ⟨heldFirst, sameHashes, ?_⟩
  rw [askedState, heldState, heldRows, promptDropped, ← counted, Nat.add_zero, Nat.zero_add]
  congr 2
  rw [← List.getLast?_map, ← List.getLast?_map, sameHashes]

/-- All blocks that the prompt hit get the count of the matched rows. -/
theorem PromptHit.uniform (standard : 0 < sizes.blockSize) :
    ∀ info ∈ (hashAll sizes xxh64 ids ⟨false, false⟩ thinkTokens
      (prompt.take (blocksToTokens sizes matchedBlocks))).result,
      info.accumulatedThinkTokens = thinkTokens := by
  intro info member
  obtain ⟨block, lt, rfl⟩ := List.getElem_of_mem member
  have tracks : Tracks sizes ids ⟨false, false⟩ thinkTokens
      (prompt.take (blocksToTokens sizes matchedBlocks))
      (hashAll sizes xxh64 ids ⟨false, false⟩ thinkTokens
        (prompt.take (blocksToTokens sizes matchedBlocks))) := tracks_hashAll first standard _
  obtain ⟨-, noneDropped⟩ := hit.matched_prompt first standard
  rw [tracks.counts block _ (List.getElem?_eq_getElem lt)]
  have fewer := List.Sublist.countP_le (p := ThinkMarkersInHistory.drops ⟨false, false⟩)
    (List.take_sublist (markEnd Row.ordinary
      (rows ids (prompt.take (blocksToTokens sizes matchedBlocks)))
      (blocksToTokens sizes (block + 1)))
      (rows ids (prompt.take (blocksToTokens sizes matchedBlocks))))
  rw [noneDropped] at fewer
  rw [rowsUpTo, Nat.le_zero.mp fewer, Nat.add_zero]

/-- The registered counts of the matched blocks, when all reasoning before the match is
in the first block. -/
theorem PromptHit.counts_iff (standard : 0 < sizes.blockSize) :
    (∀ info ∈ (getPrefixCacheHashesByBlocksWithThinking sizes xxh64 ids ⟨false, false⟩ previousRows
      0 0).take matchedBlocks, info.accumulatedThinkTokens = thinkTokens) ↔
    ThinksInFirstBlock sizes ids previousRows matchedBlocks := by
  obtain ⟨enough, counted, -⟩ := hit.matched_rows first standard
  have registered := hit.registered
  cases matchedBlocks with
  | zero => simp [ThinksInFirstBlock, rowsUpTo]
  | succ last =>
    have firstEnd : blocksToTokens sizes 1 = sizes.firstBlockSize := by simp [blocksToTokens]
    have oneBlock (block : Nat) : blocksToTokens sizes 1 ≤ blocksToTokens sizes (block + 1) :=
      blocksToTokens_mono (Nat.le_add_left 1 block)
    have firstBlock := countP_rowsUpTo ⟨false, false⟩ (oneBlock last) enough
    rw [firstEnd, ← counted] at firstBlock
    have clear : ThinksInFirstBlock sizes ids previousRows (last + 1) ↔
        (rowsUpTo ids previousRows sizes.firstBlockSize).countP
          (ThinkMarkersInHistory.drops ⟨false, false⟩) = thinkTokens := by
      simp only [ThinksInFirstBlock, ← Bool.not_eq_true, ← List.countP_eq_zero]
      omega
    rw [clear]
    constructor
    · intro uniform
      have zero := List.getElem?_eq_getElem (Nat.lt_of_lt_of_le (Nat.succ_pos last) registered)
      have count := accumulatedThinkTokens_eq first standard zero
      rw [Nat.zero_add, Nat.zero_add, firstEnd] at count
      rw [← count]
      refine uniform _ (List.mem_of_getElem? (i := 0) ?_)
      rw [List.getElem?_take_of_lt (Nat.succ_pos last), zero]
    · intro early info member
      obtain ⟨block, found⟩ := List.getElem?_of_mem member
      have lt : block < last + 1 := by
        have := (List.getElem?_eq_some_iff.mp found).1
        rw [List.length_take] at this
        omega
      rw [List.getElem?_take_of_lt lt] at found
      rw [accumulatedThinkTokens_eq first standard found, Nat.zero_add]
      have within : blocksToTokens sizes (block + 1) ≤ blocksToTokens sizes (last + 1) :=
        blocksToTokens_mono lt
      have upper := countP_rowsUpTo ⟨false, false⟩ within enough
      have lower := countP_rowsUpTo ⟨false, false⟩ (oneBlock block) (Nat.le_trans within enough)
      rw [firstEnd, early] at lower
      rw [← counted] at upper
      omega

end

end

theorem ordinaryTokens_plain (tokens : List UInt32) {token : UInt32}
    (member : token ∈ ordinaryTokens ids tokens) : kindOf ids false token = .ordinary := by
  induction tokens using List.reverseRecOn with
  | nil => simp [ordinaryTokens, rows, rowsFrom] at member
  | append_singleton tokens last ih =>
    rw [ordinaryTokens_concat, List.mem_append] at member
    rcases member with earlier | here
    · exact ih earlier
    · split at here
      next kind =>
        rw [List.mem_singleton.mp here, ← inThinking_ordinary kind]
        exact kind
      next => cases here

/-- A prompt that repeats the ordinary tokens of a slot's rows hits their blocks. -/
theorem promptHit_repeats (xxh64 : Xxh64) (first : 0 < sizes.firstBlockSize)
    (standard : 0 < sizes.blockSize)
    (enough : blocksToTokens sizes matchedBlocks ≤ (rows ids previousRows).countP Row.ordinary)
    (repeats : prompt.take (blocksToTokens sizes matchedBlocks) =
      (ordinaryTokens ids previousRows).take (blocksToTokens sizes matchedBlocks)) :
    PromptHit sizes xxh64 ids previousRows prompt matchedBlocks
      ((rowsUpTo ids previousRows (blocksToTokens sizes matchedBlocks)).countP
        (ThinkMarkersInHistory.drops ⟨false, false⟩)) := by
  have unmarked : ∀ token ∈ prompt.take (blocksToTokens sizes matchedBlocks),
      kindOf ids false token = .ordinary := by
    intro token member
    rw [repeats] at member
    exact ordinaryTokens_plain previousRows (List.mem_of_mem_take member)
  have heldOrdinary : (rows ids (previousRows.take (markEnd Row.ordinary (rows ids previousRows)
      (blocksToTokens sizes matchedBlocks)))).countP Row.ordinary =
      blocksToTokens sizes matchedBlocks := by
    rw [rows_take]
    exact countP_take_markEnd enough
  have promptOrdinary : (rows ids (prompt.take (blocksToTokens sizes matchedBlocks))).countP
      Row.ordinary = blocksToTokens sizes matchedBlocks := by
    rw [rows_ordinary_unmarked unmarked, repeats, List.length_take_of_le]
    rwa [ordinaryTokens, List.length_map, ← List.countP_eq_length_filter]
  have registered : matchedBlocks ≤ (getPrefixCacheHashesByBlocksWithThinking sizes xxh64 ids
      ⟨false, false⟩ previousRows 0 0).length :=
    (hashed_le_iff first standard previousRows matchedBlocks).mpr enough
  refine ⟨registered, ?_, ?_, last_count first standard registered, unmarked⟩
  · rw [hashed_le_iff first standard, ← promptOrdinary, rows_take]
    exact (List.take_sublist ..).countP_le
  · rw [← first_blocks first standard previousRows heldOrdinary,
      ← first_blocks first standard prompt promptOrdinary]
    refine hashes_of_ordinary first standard ?_
    rw [ordinaryTokens_unmarked unmarked, repeats, ordinaryTokens_take, countP_take_markEnd enough]

variable (sizes xxh64 ids) in
/-- What the session registers at the end of a turn that continues on its slot. -/
def reregistered (prompt generated : List UInt32) (thinkTokens : Nat) : List BlockHashInfo :=
  ((generated.foldl TokenAccumulator.addGeneratedToken
    (initTokenAccumulator prompt [] thinkTokens)).finalizeAndRegisterHashes sizes xxh64 ids
      ⟨false, false⟩).getD []

theorem reregistered_eq (generated : List UInt32) : reregistered sizes xxh64 ids prompt generated
    thinkTokens = getPrefixCacheHashesByBlocksWithThinking sizes xxh64 ids ⟨false, false⟩
      (prompt ++ generated) 0 thinkTokens := by
  rw [reregistered, addGeneratedTokens]
  simp only [initTokenAccumulator, TokenAccumulator.finalizeAndRegisterHashes, List.getLast?_nil,
    Option.map_none, Option.getD_none, List.nil_append]
  cases getPrefixCacheHashesByBlocksWithThinking sizes xxh64 ids ⟨false, false⟩
    (prompt ++ generated) 0 thinkTokens <;> rfl

/-- The turn registers what hashing the rows of its slot gives when the reasoning of
earlier turns is all in the first block. -/
theorem reregistered_blocks (hit : PromptHit sizes xxh64 ids previousRows prompt matchedBlocks
    thinkTokens) (first : 0 < sizes.firstBlockSize) (standard : 0 < sizes.blockSize)
    (generated : List UInt32) :
    reregistered sizes xxh64 ids prompt generated thinkTokens =
      getPrefixCacheHashesByBlocksWithThinking sizes xxh64 ids ⟨false, false⟩
        (slotRows previousRows prompt generated (blocksToTokens sizes matchedBlocks) thinkTokens)
        0 0 ↔
    ThinksInFirstBlock sizes ids previousRows matchedBlocks := by
  obtain ⟨heldFirst, sameHashes, sameState⟩ := hit.resumed first standard
  have whole : prompt ++ generated = prompt.take (blocksToTokens sizes matchedBlocks) ++
      (prompt.drop (blocksToTokens sizes matchedBlocks) ++ generated) := by
    rw [← List.append_assoc, List.take_append_drop]
  rw [reregistered_eq, hashes_eq first standard, hashes_eq first standard, whole, slotRows,
    List.append_assoc, hashAll_append, hashAll_append, sameState, List.append_left_inj,
    blocks_eq_iff sameHashes (hit.uniform first standard), heldFirst,
    hit.counts_iff first standard]

end Hit

/-- A slot with a think block between its two blocks. -/
def thinkBetweenBlocks : List UInt32 :=
  List.replicate 32 1000 ++ [90001, 70001, 90002] ++ List.replicate 32 2000

def promptOfTwoBlocks : List UInt32 := List.replicate 32 1000 ++ List.replicate 32 2000 ++ [3000]

/-- The first block is registered with the think rows that come after it. -/
theorem reregistered_blocks_differ : ¬∃ xxh64 : Xxh64, ∀ sizes ids previousRows prompt matchedBlocks
    thinkTokens generated, 0 < sizes.firstBlockSize → 0 < sizes.blockSize →
    PromptHit sizes xxh64 ids previousRows prompt matchedBlocks thinkTokens →
    reregistered sizes xxh64 ids prompt generated thinkTokens =
      getPrefixCacheHashesByBlocksWithThinking sizes xxh64 ids ⟨false, false⟩
        (slotRows previousRows prompt generated (blocksToTokens sizes matchedBlocks) thinkTokens)
        0 0 := by
  rintro ⟨xxh64, claim⟩
  have first : 0 < smallBlocks.firstBlockSize := by decide
  have standard : 0 < smallBlocks.blockSize := by decide
  have hit : PromptHit smallBlocks xxh64 thinkMarkers thinkBetweenBlocks promptOfTwoBlocks 2 _ :=
    promptHit_repeats xxh64 first standard (by decide) (by decide)
  have early := (reregistered_blocks hit first standard []).mp
    (claim smallBlocks thinkMarkers thinkBetweenBlocks promptOfTwoBlocks 2 _ [] first standard hit)
  revert early
  decide

/-- A slot whose think block comes before both blocks. -/
def thinkBeforeBlocks : List UInt32 :=
  [90001, 70001, 90002] ++ List.replicate 32 1000 ++ List.replicate 32 2000

theorem reregistered_blocks_thinkBefore :
    reregistered smallBlocks polynomialHash thinkMarkers promptOfTwoBlocks [3001] 3 =
      getPrefixCacheHashesByBlocksWithThinking smallBlocks polynomialHash thinkMarkers
        ⟨false, false⟩ (slotRows thinkBeforeBlocks promptOfTwoBlocks [3001] 64 3) 0 0 := by
  have hit : PromptHit smallBlocks polynomialHash thinkMarkers thinkBeforeBlocks promptOfTwoBlocks
      2 3 := promptHit_repeats polynomialHash (by decide) (by decide) (by decide) (by decide)
  exact (reregistered_blocks hit (by decide) (by decide) [3001]).mpr (by decide)

end InferenceServer.PrefixCache
