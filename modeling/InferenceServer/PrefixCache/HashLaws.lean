import InferenceServer.PrefixCache.BlockHashes

/-! Laws of the block hashes. Both hashers chain a seeded hash over the complete blocks of the
tokens, so complete blocks can be hashed in one go or in turns, equal tokens give equal hashes,
and without a collision only equal tokens do. -/
namespace InferenceServer.PrefixCache
open Machine

/-- The loop over the blocks of standard size from an offset on. Its callers have made sure that
the size is not zero. -/
def hashBlocksFrom (xxh64 : Xxh64) (blockSize : Nat) (tokens : List UInt32) (offset : Nat)
    (parentHash : UInt64) : List UInt64 :=
  if 0 < blockSize ∧ offset + blockSize ≤ tokens.length then
    let hash := xxh64 ((tokens.drop offset).take blockSize) parentHash
    hash :: hashBlocksFrom xxh64 blockSize tokens (offset + blockSize) hash
  else []
termination_by tokens.length - offset

/-- Where there is a parent hash, the blocks are the standard ones only. -/
def getPrefixCacheHashesByBlocks (sizes : BlockSizes) (xxh64 : Xxh64) (tokens : List UInt32)
    (parentHash : UInt64) : List UInt64 :=
  if parentHash ≠ 0 then
    if sizes.blockSize = 0 ∨ tokens.length < sizes.blockSize then []
    else hashBlocksFrom xxh64 sizes.blockSize tokens 0 parentHash
  else if sizes.firstBlockSize = 0 ∨ sizes.blockSize = 0 ∨
      tokens.length < sizes.firstBlockSize then []
  else
    let hash := xxh64 (tokens.take sizes.firstBlockSize) parentHash
    hash :: hashBlocksFrom xxh64 sizes.blockSize tokens sizes.firstBlockSize hash

section Chain

variable {Token Hash : Type} {first standard : Nat}

/-- The complete blocks of a list, the first of a size of its own. -/
def completeBlocks (first standard : Nat) (tokens : List Token) : List (List Token) :=
  if 0 < first ∧ first ≤ tokens.length then
    tokens.take first :: completeBlocks standard standard (tokens.drop first)
  else []
termination_by tokens.length
decreasing_by
  rw [List.length_drop]
  omega

/-- What a seeded hash is applied to when each hash seeds the next one. -/
def chainInputs (hash : List Token → Hash → Hash) : Hash → List (List Token) →
    List (List Token × Hash)
  | _, [] => []
  | seed, block :: rest => (block, seed) :: chainInputs hash (hash block seed) rest

def chain (hash : List Token → Hash → Hash) (seed : Hash) (blocks : List (List Token)) :
    List Hash :=
  (chainInputs hash seed blocks).map fun input => hash input.1 input.2

/-- No two of the inputs have the same hash. -/
def CollisionFree (hash : List Token → Hash → Hash) (inputs : List (List Token × Hash)) : Prop :=
  ∀ input ∈ inputs, ∀ other ∈ inputs, hash input.1 input.2 = hash other.1 other.2 → input = other

theorem completeBlocks_of_le {tokens : List Token} (positive : 0 < first)
    (enough : first ≤ tokens.length) : completeBlocks first standard tokens =
      tokens.take first :: completeBlocks standard standard (tokens.drop first) := by
  rw [completeBlocks, if_pos ⟨positive, enough⟩]

theorem completeBlocks_of_lt {tokens : List Token} (short : tokens.length < first) :
    completeBlocks first standard tokens = [] := by
  rw [completeBlocks, if_neg fun enough => Nat.not_lt.mpr enough.2 short]

variable {hash : List Token → Hash → Hash} (seed : Hash) (blocks : List (List Token))

theorem chainInputs_take (count : Nat) :
    (chainInputs hash seed blocks).take count = chainInputs hash seed (blocks.take count) := by
  induction blocks generalizing seed count with
  | nil => rw [chainInputs, List.take_nil, List.take_nil, chainInputs]
  | cons block rest ih =>
    cases count with
    | zero => rfl
    | succ count => rw [chainInputs, List.take_succ_cons, ih, List.take_succ_cons, chainInputs]

theorem chain_take (count : Nat) :
    (chain hash seed blocks).take count = chain hash seed (blocks.take count) := by
  rw [chain, chain, ← List.map_take, chainInputs_take]

theorem chainInputs_blocks : (chainInputs hash seed blocks).map Prod.fst = blocks := by
  induction blocks generalizing seed with
  | nil => rfl
  | cons block rest ih => rw [chainInputs, List.map_cons, ih]

@[simp] theorem chain_length : (chain hash seed blocks).length = blocks.length := by
  rw [chain, List.length_map, ← List.length_map Prod.fst, chainInputs_blocks]

/-- Without a collision equal hashes are those of equal inputs. -/
theorem CollisionFree.inputs_eq {inputs others : List (List Token × Hash)}
    (free : CollisionFree hash (inputs ++ others))
    (same : inputs.map (fun input => hash input.1 input.2) =
      others.map fun input => hash input.1 input.2) : inputs = others := by
  induction inputs generalizing others with
  | nil => exact (List.map_eq_nil_iff.mp same.symm).symm
  | cons input rest ih =>
    cases others with
    | nil => cases same
    | cons other more =>
      rw [List.map_cons, List.map_cons] at same
      obtain ⟨here, later⟩ := List.cons.inj same
      have apart : CollisionFree hash (rest ++ more) := by
        intro one oneIn two twoIn
        apply free
        · rcases List.mem_append.mp oneIn with left | right
          · exact List.mem_append_left _ (List.mem_cons_of_mem _ left)
          · exact List.mem_append_right _ (List.mem_cons_of_mem _ right)
        · rcases List.mem_append.mp twoIn with left | right
          · exact List.mem_append_left _ (List.mem_cons_of_mem _ left)
          · exact List.mem_append_right _ (List.mem_cons_of_mem _ right)
      rw [ih apart later, free input List.mem_cons_self other
        (List.mem_append_right _ List.mem_cons_self) here]

theorem CollisionFree.blocks_eq {seed : Hash} {blocks others : List (List Token)}
    (free : CollisionFree hash (chainInputs hash seed blocks ++ chainInputs hash seed others))
    (same : chain hash seed blocks = chain hash seed others) : blocks = others := by
  have inputs : (chainInputs hash seed blocks).map Prod.fst = blocks := chainInputs_blocks seed blocks
  rw [← inputs, free.inputs_eq same, chainInputs_blocks]

/-- So many tokens are in the first blocks. -/
theorem blocksToTokens_standard (blocks : Nat) :
    blocksToTokens ⟨standard, standard⟩ blocks = blocks * standard := by
  cases blocks with
  | zero => rw [blocksToTokens_zero, Nat.zero_mul]
  | succ blocks =>
    rw [blocksToTokens, if_neg (Nat.succ_ne_zero _), Nat.add_sub_cancel, Nat.succ_mul]
    exact Nat.add_comm ..

theorem blocksToTokens_first (blocks : Nat) :
    blocksToTokens ⟨first, standard⟩ (blocks + 1) = first + blocks * standard := by
  rw [blocksToTokens, if_neg (Nat.succ_ne_zero _), Nat.add_sub_cancel]

/-- The first blocks are those of the first tokens. -/
theorem completeBlocks_take (positive : 0 < first) (positives : 0 < standard)
    (tokens : List Token) (blocks : Nat) : (completeBlocks first standard tokens).take blocks =
      completeBlocks first standard (tokens.take (blocksToTokens ⟨first, standard⟩ blocks)) := by
  induction blocks generalizing first tokens with
  | zero =>
    rw [blocksToTokens_zero, List.take_zero, List.take_zero]
    exact (completeBlocks_of_lt positive).symm
  | succ blocks ih =>
    rw [blocksToTokens_first]
    by_cases enough : first ≤ tokens.length
    · have still : first ≤ (tokens.take (first + blocks * standard)).length := by
        rw [List.length_take]
        exact Nat.le_min.mpr ⟨Nat.le_add_right _ _, enough⟩
      rw [completeBlocks_of_le positive enough, completeBlocks_of_le positive still,
        List.take_succ_cons, ih positives, List.take_take, Nat.min_eq_left (Nat.le_add_right _ _),
        List.drop_take, Nat.add_sub_cancel_left, blocksToTokens_standard]
    · have short : tokens.length < first := Nat.not_le.mp enough
      rw [completeBlocks_of_lt short, List.take_nil, completeBlocks_of_lt]
      exact Nat.lt_of_le_of_lt (List.length_take_le' ..) short

theorem completeBlocks_flatten {tokens : List Token} {blocks : Nat}
    (complete : blocks ≤ (completeBlocks first standard tokens).length) :
    ((completeBlocks first standard tokens).take blocks).flatten =
      tokens.take (blocksToTokens ⟨first, standard⟩ blocks) := by
  induction blocks generalizing first tokens with
  | zero => rw [blocksToTokens_zero, List.take_zero, List.take_zero, List.flatten_nil]
  | succ blocks ih =>
    rw [completeBlocks] at complete ⊢
    split at complete
    · rename_i enough
      rw [List.length_cons] at complete
      rw [if_pos enough, List.take_succ_cons, List.flatten_cons,
        ih (Nat.le_of_succ_le_succ complete), blocksToTokens_standard, blocksToTokens_first,
        List.take_add]
    · cases complete

end Chain

variable {sizes : BlockSizes} {xxh64 : Xxh64} {ids : ThinkTokenIds}
variable {markersInHistory : ThinkMarkersInHistory}

/-- The loop completes the blocks of what it has already and of what comes. -/
theorem foldl_addToBlock (standard : 0 < sizes.blockSize) (tokens : List UInt32)
    {state : HashState} (filling : state.currentBlock.length < state.targetBlockSize) :
    (tokens.foldl (HashState.addToBlock sizes xxh64) state).result.map BlockHashInfo.hash =
      state.result.map BlockHashInfo.hash ++ chain xxh64 state.parentHash
        (completeBlocks state.targetBlockSize sizes.blockSize (state.currentBlock ++ tokens)) := by
  induction tokens generalizing state with
  | nil =>
    rw [List.append_nil, completeBlocks_of_lt filling]
    exact (List.append_nil _).symm
  | cons token rest ih =>
    rw [List.foldl_cons, List.append_cons]
    by_cases full : (state.currentBlock ++ [token]).length = state.targetBlockSize
    · have blocks : completeBlocks state.targetBlockSize sizes.blockSize
          (state.currentBlock ++ [token] ++ rest) =
            (state.currentBlock ++ [token]) ::
              completeBlocks sizes.blockSize sizes.blockSize rest := by
        rw [completeBlocks_of_le (by omega)
          (by rw [← full]; exact (List.prefix_append _ rest).length_le),
          List.take_left' full, List.drop_left' full]
      rw [HashState.addToBlock, if_pos full, blocks]
      refine (ih ?_).trans ?_
      · exact standard
      · rw [List.map_append, List.append_assoc]
        rfl
    · rw [HashState.addToBlock, if_neg full]
      refine ih ?_
      rw [List.length_append, List.length_singleton] at full ⊢
      exact Nat.lt_of_le_of_ne filling full

theorem hashBlocksFrom_eq (tokens : List UInt32) (offset : Nat) (parentHash : UInt64) :
    hashBlocksFrom xxh64 sizes.blockSize tokens offset parentHash = chain xxh64 parentHash
        (completeBlocks sizes.blockSize sizes.blockSize (tokens.drop offset)) := by
  induction offset, parentHash using hashBlocksFrom.induct xxh64 sizes.blockSize tokens with
  | case1 offset parentHash enough hash ih =>
    rw [hashBlocksFrom, if_pos enough, completeBlocks_of_le enough.1
      (by rw [List.length_drop]; omega), List.drop_drop]
    exact congrArg (hash :: ·) ih
  | case2 offset parentHash short =>
    rw [hashBlocksFrom, if_neg short, completeBlocks, if_neg]
    · rfl
    · rw [List.length_drop]
      omega

theorem getPrefixCacheHashesByBlocks_eq (first : 0 < sizes.firstBlockSize)
    (standard : 0 < sizes.blockSize) (tokens : List UInt32) (parentHash : UInt64) :
    getPrefixCacheHashesByBlocks sizes xxh64 tokens parentHash =
      chain xxh64 parentHash (completeBlocks
        (if parentHash = 0 then sizes.firstBlockSize else sizes.blockSize) sizes.blockSize
          tokens) := by
  unfold getPrefixCacheHashesByBlocks
  by_cases fresh : parentHash = 0
  · rw [if_neg (not_not.mpr fresh), if_pos fresh]
    by_cases short : tokens.length < sizes.firstBlockSize
    · rw [if_pos (.inr (.inr short)), completeBlocks_of_lt short]
      rfl
    · rw [if_neg (by omega), completeBlocks_of_le first (Nat.not_lt.mp short)]
      exact congrArg (_ :: ·) (hashBlocksFrom_eq ..)
  · rw [if_pos fresh, if_neg fresh]
    by_cases short : tokens.length < sizes.blockSize
    · rw [if_pos (.inr short), completeBlocks_of_lt short]
      rfl
    · rw [if_neg (by omega), hashBlocksFrom_eq, List.drop_zero]

/-- The hashes of a conversation from its start on. -/
theorem hashes_chain (first : 0 < sizes.firstBlockSize) (standard : 0 < sizes.blockSize)
    (tokens : List UInt32) (parentThinkCount : Nat) :
    (getPrefixCacheHashesByBlocksWithThinking sizes xxh64 ids markersInHistory tokens 0
        parentThinkCount).map BlockHashInfo.hash =
      chain xxh64 0 (completeBlocks sizes.firstBlockSize sizes.blockSize
        (ordinaryTokens ids tokens)) := by
  rw [hashes_eq first standard, (hashAll_ordinary first standard tokens).hashes]
  exact foldl_addToBlock standard _ first

/-- Tokens without markers all go into blocks. -/
theorem foldl_unmarked {state : HashState} (outside : state.inThinking = false)
    {tokens : List UInt32} (unmarked : ∀ token ∈ tokens, kindOf ids false token = .ordinary) :
    tokens.foldl (HashState.next sizes xxh64 ids markersInHistory) state =
      tokens.foldl (HashState.addToBlock sizes xxh64) state := by
  induction tokens generalizing state with
  | nil => rfl
  | cons token rest ih =>
    have here := unmarked token List.mem_cons_self
    have still : (state.addToBlock sizes xxh64 token).inThinking = false := by
      unfold HashState.addToBlock
      dsimp only
      split
      · exact outside
      · exact outside
    rw [List.foldl_cons, List.foldl_cons, HashState.next_eq, outside]
    dsimp only
    rw [if_pos here]
    exact ih still fun token member => unmarked token (List.mem_cons_of_mem _ member)

theorem kindOf_unmarked {token : UInt32} (start : token ≠ ids.thinkStartId)
    (end_ : token ≠ ids.thinkEndId) : kindOf ids false token = .ordinary := by
  unfold kindOf
  rw [if_neg start, if_neg end_]
  split
  · rfl
  · rfl

section Laws

variable (sizes xxh64 ids markersInHistory)

/-- Tokens that end with a complete block, outside of think blocks, can be hashed first and the
others from the last hash and the count on. Where the last token has completed the block, the count
is that of the block. -/
def Continues : Prop :=
  ∀ (seed : Nat) (tokens more : List UInt32) (last : BlockHashInfo),
    (hashAll sizes xxh64 ids markersInHistory seed tokens).currentBlock = [] →
    (hashAll sizes xxh64 ids markersInHistory seed tokens).inThinking = false →
    (hashAll sizes xxh64 ids markersInHistory seed tokens).result.getLast? = some last →
    last.hash ≠ 0 →
    getPrefixCacheHashesByBlocksWithThinking sizes xxh64 ids markersInHistory (tokens ++ more) 0
        seed =
      getPrefixCacheHashesByBlocksWithThinking sizes xxh64 ids markersInHistory tokens 0 seed ++
        getPrefixCacheHashesByBlocksWithThinking sizes xxh64 ids markersInHistory more last.hash
          (hashAll sizes xxh64 ids markersInHistory seed tokens).thinkCount ∧
    ∀ earlier token, tokens = earlier ++ [token] →
      kindOf ids (thinkingAfter ids earlier) token = .ordinary →
        (hashAll sizes xxh64 ids markersInHistory seed tokens).thinkCount =
          last.accumulatedThinkTokens

/-- The hashes of the first blocks are those of their tokens, and of no others where nothing
collides. -/
def HashesPrefixes : Prop :=
  ∀ (tokens others : List UInt32) (blocks : Nat),
    let hashes := fun tokens => (getPrefixCacheHashesByBlocksWithThinking sizes xxh64 ids
      markersInHistory tokens 0 0).map BlockHashInfo.hash
    let first := fun tokens => (ordinaryTokens ids tokens).take (blocksToTokens sizes blocks)
    let inputs := fun tokens => chainInputs xxh64 0
      (completeBlocks sizes.firstBlockSize sizes.blockSize (ordinaryTokens ids tokens))
    (first tokens = first others → (hashes tokens).take blocks = (hashes others).take blocks) ∧
    (CollisionFree xxh64 (inputs tokens ++ inputs others) →
      blocks ≤ (hashes tokens).length → blocks ≤ (hashes others).length →
      (hashes tokens).take blocks = (hashes others).take blocks → first tokens = first others)

/-- Without markers the two hashers agree. -/
def HashersAgree : Prop :=
  ∀ (tokens : List UInt32) (parentHash : UInt64) (parentThinkCount : Nat),
    (∀ token ∈ tokens, token ≠ ids.thinkStartId ∧ token ≠ ids.thinkEndId) →
    (getPrefixCacheHashesByBlocksWithThinking sizes xxh64 ids markersInHistory tokens parentHash
        parentThinkCount).map BlockHashInfo.hash =
      getPrefixCacheHashesByBlocks sizes xxh64 tokens parentHash

end Laws

section

variable (first : 0 < sizes.firstBlockSize)
include first

theorem continues (standard : 0 < sizes.blockSize) :
    Continues sizes xxh64 ids markersInHistory := by
  intro seed tokens more last complete outside found nonzero
  have tracks : Tracks sizes ids markersInHistory seed tokens
      (hashAll sizes xxh64 ids markersInHistory seed tokens) := tracks_hashAll first standard tokens
  have some_ : (hashAll sizes xxh64 ids markersInHistory seed tokens).result.length ≠ 0 := by
    intro none_
    rw [List.length_eq_zero_iff.mp none_] at found
    cases found
  constructor
  · have state : { hashAll sizes xxh64 ids markersInHistory seed tokens with result := [] } =
        HashState.initial sizes last.hash
          (hashAll sizes xxh64 ids markersInHistory seed tokens).thinkCount := by
      have parent := tracks.parent
      have target := tracks.target
      rw [found] at parent
      rw [if_neg some_] at target
      rw [HashState.initial, if_neg nonzero]
      dsimp only
      rw [complete, outside, target, parent]
      rfl
    rw [hashes_eq first standard, hashes_eq first standard, hashAll_append, state,
      getPrefixCacheHashesByBlocksWithThinking, if_neg (by omega)]
  · rintro earlier token rfl ordinary
    rw [List.getLast?_eq_getElem?] at found
    have counted := tracks.counts _ last found
    have ordinaryRow : (rows ids (earlier ++ [token])).countP Row.ordinary =
        (rows ids earlier).countP Row.ordinary + 1 := by
      rw [rows_concat, List.countP_append]
      simp [Row.ordinary, ordinary]
    have filled : (rows ids earlier).countP Row.ordinary + 1 = blocksToTokens sizes
        (hashAll sizes xxh64 ids markersInHistory seed (earlier ++ [token])).result.length := by
      rw [← ordinaryRow, tracks.ordinary, complete]
      rfl
    rw [Nat.sub_add_cancel (Nat.pos_of_ne_zero some_), ← filled, rowsUpTo_concat ordinary] at counted
    rw [tracks.thinkCount, counted]

theorem hashesPrefixes (standard : 0 < sizes.blockSize) :
    HashesPrefixes sizes xxh64 ids markersInHistory := by
  intro tokens others blocks
  dsimp only
  rw [hashes_chain first standard, hashes_chain first standard, chain_take, chain_take]
  constructor
  · intro same
    rw [completeBlocks_take first standard, completeBlocks_take first standard, same]
  · intro free enough enoughOthers same
    rw [chain_length] at enough enoughOthers
    rw [← completeBlocks_flatten enough, ← completeBlocks_flatten enoughOthers]
    refine congrArg List.flatten (CollisionFree.blocks_eq ?_ same)
    intro one oneIn two twoIn
    rw [← chainInputs_take, ← chainInputs_take] at oneIn twoIn
    have within_ := (List.take_sublist blocks (chainInputs xxh64 0 (completeBlocks
      sizes.firstBlockSize sizes.blockSize (ordinaryTokens ids tokens)))).append
      (List.take_sublist blocks (chainInputs xxh64 0 (completeBlocks
        sizes.firstBlockSize sizes.blockSize (ordinaryTokens ids others))))
    exact free one (within_.subset oneIn) two (within_.subset twoIn)

theorem hashersAgree (standard : 0 < sizes.blockSize) :
    HashersAgree sizes xxh64 ids markersInHistory := by
  intro tokens parentHash parentThinkCount unmarked
  rw [getPrefixCacheHashesByBlocksWithThinking, if_neg (by omega),
    getPrefixCacheHashesByBlocks_eq first standard, foldl_unmarked rfl fun token member =>
      kindOf_unmarked (unmarked token member).1 (unmarked token member).2,
    foldl_addToBlock standard]
  · rfl
  · unfold HashState.initial
    dsimp only
    split
    · exact first
    · exact standard

end

/-- The laws of the block hashes for blocks of any positive sizes. -/
theorem block_hash_laws (sizes : BlockSizes) (xxh64 : Xxh64) (ids : ThinkTokenIds)
    (markersInHistory : ThinkMarkersInHistory) (first : 0 < sizes.firstBlockSize)
    (standard : 0 < sizes.blockSize) :
    Continues sizes xxh64 ids markersInHistory ∧ HashesPrefixes sizes xxh64 ids markersInHistory ∧
      HashersAgree sizes xxh64 ids markersInHistory :=
  ⟨continues first standard, hashesPrefixes first standard, hashersAgree first standard⟩

section OneToken

/-- The hashes of a conversation in blocks of one token. -/
def oneTokenHashes (tokens : List UInt32) : List UInt64 :=
  (getPrefixCacheHashesByBlocksWithThinking ⟨1, 1⟩ polynomialHash thinkMarkers ⟨false, false⟩
    tokens 0 0).map BlockHashInfo.hash

theorem completeBlocks_seven : completeBlocks 1 1 [(7 : UInt32)] = [[7]] := by
  rw [completeBlocks_of_le (by decide) (by decide), completeBlocks_of_lt (by decide)]
  rfl

theorem block_hash_laws_single :
    getPrefixCacheHashesByBlocksWithThinking ⟨1, 1⟩ polynomialHash thinkMarkers ⟨false, false⟩
        [90001, 5, 90002, 7, 8] 0 0 =
      getPrefixCacheHashesByBlocksWithThinking ⟨1, 1⟩ polynomialHash thinkMarkers ⟨false, false⟩
        [90001, 5, 90002, 7] 0 0 ++
      getPrefixCacheHashesByBlocksWithThinking ⟨1, 1⟩ polynomialHash thinkMarkers ⟨false, false⟩
        [8] 38 3 ∧
    ((oneTokenHashes [7]).take 1 = (oneTokenHashes [90001, 5, 90002, 7]).take 1 ∧
      (ordinaryTokens thinkMarkers [7]).take 1 =
        (ordinaryTokens thinkMarkers [90001, 5, 90002, 7]).take 1) ∧
    (getPrefixCacheHashesByBlocksWithThinking ⟨1, 1⟩ polynomialHash thinkMarkers ⟨false, false⟩
        [7] 38 3).map BlockHashInfo.hash =
      getPrefixCacheHashesByBlocks ⟨1, 1⟩ polynomialHash [7] 38 := by
  obtain ⟨continues, prefixes, agree⟩ :=
    block_hash_laws ⟨1, 1⟩ polynomialHash thinkMarkers ⟨false, false⟩ (by decide) (by decide)
  refine ⟨?_, ?_, ?_⟩
  · exact (continues 0 [90001, 5, 90002, 7] [8] ⟨38, 3⟩ (by decide) (by decide) (by decide)
      (by decide)).1
  · have same := (prefixes [7] [90001, 5, 90002, 7] 1).1 (by decide)
    refine ⟨same, (prefixes [7] [90001, 5, 90002, 7] 1).2 ?_ (by decide) (by decide) same⟩
    have seven : ordinaryTokens thinkMarkers [7] = [7] := by decide
    have thought : ordinaryTokens thinkMarkers [90001, 5, 90002, 7] = [7] := by decide
    dsimp only
    rw [seven, thought, completeBlocks_seven]
    unfold CollisionFree
    decide
  · refine agree [7] 38 3 fun token member => ?_
    rw [List.mem_singleton.mp member]
    constructor <;> decide

end OneToken

end InferenceServer.PrefixCache
