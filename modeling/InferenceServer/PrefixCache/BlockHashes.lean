import InferenceServer.PrefixCache.HashLoop

/-! What the hashes of the blocks depend on. Only ordinary tokens are hashed, so
neither reasoning nor the history policy changes a hash; and the blocks of some
first tokens are the first blocks of all. -/
namespace InferenceServer.PrefixCache
open Machine

variable {sizes : BlockSizes} {xxh64 : Xxh64} {ids : ThinkTokenIds}
variable {markersInHistory : ThinkMarkersInHistory} {seed : Nat}

variable (ids) in
def ordinaryTokens (tokens : List UInt32) : List UInt32 :=
  ((rows ids tokens).filter Row.ordinary).map Row.token

theorem ordinaryTokens_concat (tokens : List UInt32) (token : UInt32) :
    ordinaryTokens ids (tokens ++ [token]) = ordinaryTokens ids tokens ++
      if kindOf ids (thinkingAfter ids tokens) token = .ordinary then [token] else [] := by
  rw [ordinaryTokens, rows_concat, List.filter_append, List.map_append, ordinaryTokens]
  split
  next kind => simp [Row.ordinary, kind]
  next kind => simp [Row.ordinary, kind]

theorem ordinaryTokens_take (tokens : List UInt32) (count : Nat) :
    ordinaryTokens ids (tokens.take count) = (ordinaryTokens ids tokens).take
      (((rows ids tokens).take count).countP Row.ordinary) := by
  rw [ordinaryTokens, rows_take, filter_take, List.map_take, ordinaryTokens]

/-- Two states of the loop that have hashed the same blocks. -/
structure SameHashes (state other : HashState) : Prop where
  hashes : state.result.map BlockHashInfo.hash = other.result.map BlockHashInfo.hash
  currentBlock : state.currentBlock = other.currentBlock
  target : state.targetBlockSize = other.targetBlockSize
  parent : state.parentHash = other.parentHash

theorem SameHashes.addToBlock {state other : HashState} (same : SameHashes state other)
    (token : UInt32) :
    SameHashes (state.addToBlock sizes xxh64 token) (other.addToBlock sizes xxh64 token) := by
  simp only [HashState.addToBlock, ← same.currentBlock, ← same.target, ← same.parent]
  split
  next => exact ⟨by simp [same.hashes], rfl, rfl, rfl⟩
  next => exact ⟨same.hashes, rfl, rfl, rfl⟩

/-- The loop hashes the ordinary tokens. -/
theorem hashAll_ordinary (first : 0 < sizes.firstBlockSize) (standard : 0 < sizes.blockSize)
    (tokens : List UInt32) : SameHashes (hashAll sizes xxh64 ids markersInHistory seed tokens)
      ((ordinaryTokens ids tokens).foldl (HashState.addToBlock sizes xxh64)
        (HashState.initial sizes 0 0)) := by
  induction tokens using List.reverseRecOn with
  | nil => exact ⟨rfl, rfl, rfl, rfl⟩
  | append_singleton tokens token ih =>
    have tracks : Tracks sizes ids markersInHistory seed tokens
        (hashAll sizes xxh64 ids markersInHistory seed tokens) := tracks_hashAll first standard tokens
    rw [hashAll_concat, ordinaryTokens_concat, HashState.next_eq, tracks.inThinking,
      List.foldl_append]
    by_cases kind : kindOf ids (thinkingAfter ids tokens) token = .ordinary
    · simp only [kind, ↓reduceIte]
      exact ih.addToBlock token
    · simp only [kind, ↓reduceIte]
      exact ⟨ih.hashes, ih.currentBlock, ih.target, ih.parent⟩

variable {tokens : List UInt32} {blocks : Nat}

/-- Neither the policy nor what is counted matters to the hashes. -/
theorem hashes_of_ordinary (first : 0 < sizes.firstBlockSize) (standard : 0 < sizes.blockSize)
    {others : List UInt32} {otherPolicy : ThinkMarkersInHistory} {otherSeed : Nat}
    (same : ordinaryTokens ids tokens = ordinaryTokens ids others) :
    (hashAll sizes xxh64 ids markersInHistory seed tokens).result.map BlockHashInfo.hash =
      (hashAll sizes xxh64 ids otherPolicy otherSeed others).result.map BlockHashInfo.hash := by
  rw [(hashAll_ordinary first standard tokens).hashes, same,
    (hashAll_ordinary first standard others).hashes]

/-- What the loop has completed does not matter to what it does next. -/
theorem next_result (state : HashState) (token : UInt32) :
    state.next sizes xxh64 ids markersInHistory token =
      let fresh := { state with result := [] }.next sizes xxh64 ids markersInHistory token
      { fresh with result := state.result ++ fresh.result } := by
  have added : state.addToBlock sizes xxh64 token =
      let fresh := { state with result := [] }.addToBlock sizes xxh64 token
      { fresh with result := state.result ++ fresh.result } := by
    simp only [HashState.addToBlock]
    split <;> simp
  rw [HashState.next_eq, HashState.next_eq]
  simp only
  split
  · exact added
  · simp

theorem foldl_result (state : HashState) (tokens : List UInt32) :
    tokens.foldl (HashState.next sizes xxh64 ids markersInHistory) state =
      let fresh := tokens.foldl (HashState.next sizes xxh64 ids markersInHistory)
        { state with result := [] }
      { fresh with result := state.result ++ fresh.result } := by
  induction tokens generalizing state with
  | nil => simp
  | cons token rest ih =>
    rw [List.foldl_cons, List.foldl_cons, next_result, ih]
    simp only
    conv => rhs; rw [ih]
    simp

/-- More tokens add blocks to those that are complete. -/
theorem hashAll_append (tokens more : List UInt32) :
    (hashAll sizes xxh64 ids markersInHistory seed (tokens ++ more)).result =
      (hashAll sizes xxh64 ids markersInHistory seed tokens).result ++
      (more.foldl (HashState.next sizes xxh64 ids markersInHistory)
        { hashAll sizes xxh64 ids markersInHistory seed tokens with result := [] }).result := by
  rw [hashAll, List.foldl_append, foldl_result]
  rfl

/-- Tokens without markers fill ordinary rows. -/
theorem rows_unmarked (unmarked : ∀ token ∈ tokens, kindOf ids false token = .ordinary) :
    thinkingAfter ids tokens = false ∧ ∀ row ∈ rows ids tokens, row.kind = .ordinary := by
  induction tokens using List.reverseRecOn with
  | nil => exact ⟨rfl, by simp [rows, rowsFrom]⟩
  | append_singleton tokens token ih =>
    obtain ⟨outside, ordinary⟩ := ih fun token member => unmarked token (by simp [member])
    have kind : kindOf ids (thinkingAfter ids tokens) token = .ordinary := by
      rw [outside]
      exact unmarked token (by simp)
    refine ⟨by rw [thinkingAfter_concat, kindOf_ordinary kind], ?_⟩
    intro row member
    rw [rows_concat, List.mem_append, List.mem_singleton] at member
    rcases member with earlier | rfl
    · exact ordinary row earlier
    · exact kind

theorem rowsFrom_tokens (inThinking : Bool) (tokens : List UInt32) :
    (rowsFrom ids inThinking tokens).map Row.token = tokens := by
  induction tokens generalizing inThinking with
  | nil => rfl
  | cons token rest ih => simp [rowsFrom, ih]

section

variable (unmarked : ∀ token ∈ tokens, kindOf ids false token = .ordinary)
include unmarked

theorem ordinaryTokens_unmarked : ordinaryTokens ids tokens = tokens := by
  obtain ⟨-, ordinary⟩ := rows_unmarked unmarked
  rw [ordinaryTokens, List.filter_eq_self.mpr fun row member => by
    simp [Row.ordinary, ordinary row member]]
  exact rowsFrom_tokens false tokens

theorem rows_ordinary_unmarked : (rows ids tokens).countP Row.ordinary = tokens.length := by
  obtain ⟨-, ordinary⟩ := rows_unmarked unmarked
  rw [List.countP_eq_length.mpr fun row member => by simp [Row.ordinary, ordinary row member],
    rows_length]

end

/-- A prefix that ends with an ordinary row ends outside of think blocks. -/
theorem thinkingAfter_markEnd (tokens : List UInt32) (ordinary : Nat)
    (enough : ordinary ≤ (rows ids tokens).countP Row.ordinary) :
    thinkingAfter ids (tokens.take (markEnd Row.ordinary (rows ids tokens) ordinary)) = false := by
  induction tokens using List.reverseRecOn with
  | nil => simp [thinkingAfter]
  | append_singleton tokens token ih =>
    by_cases earlier : ordinary ≤ (rows ids tokens).countP Row.ordinary
    · rw [rows_append, markEnd_append earlier, List.take_append_of_le_length]
      · exact ih earlier
      · simpa using markEnd_le_length Row.ordinary (rows ids tokens) ordinary
    · rw [rows_concat, List.countP_append, List.countP_singleton] at enough
      have kind : kindOf ids (thinkingAfter ids tokens) token = .ordinary := by
        by_contra other
        rw [if_neg (by simp [Row.ordinary, other])] at enough
        exact earlier enough
      obtain rfl : ordinary = (rows ids tokens).countP Row.ordinary + 1 := by
        rw [if_pos (by simp [Row.ordinary, kind])] at enough
        omega
      rw [rows_concat, markEnd_concat (by simp [Row.ordinary, kind]), rows_length,
        List.take_of_length_le (by simp), thinkingAfter_concat, kindOf_ordinary kind]

/-- Complete blocks have all been hashed. -/
theorem hashAll_length (xxh64 : Xxh64) (markersInHistory : ThinkMarkersInHistory) (seed : Nat)
    (first : 0 < sizes.firstBlockSize) (standard : 0 < sizes.blockSize)
    (complete : (rows ids tokens).countP Row.ordinary = blocksToTokens sizes blocks) :
    (hashAll sizes xxh64 ids markersInHistory seed tokens).result.length = blocks := by
  have tracks : Tracks sizes ids markersInHistory seed tokens
      (hashAll sizes xxh64 ids markersInHistory seed tokens) := tracks_hashAll first standard tokens
  generalize hashAll sizes xxh64 ids markersInHistory seed tokens = state at *
  have counted := tracks.ordinary
  rw [complete] at counted
  rcases Nat.lt_trichotomy state.result.length blocks with fewer | same | more
  · have further : blocksToTokens sizes (state.result.length + 1) ≤ blocksToTokens sizes blocks :=
      blocksToTokens_mono fewer
    have small := tracks.filling
    rw [tracks.target_end] at further
    omega
  · exact same
  · have less := blocksToTokens_lt first standard more
    omega

/-- After complete blocks the loop only remembers how many there are, the last hash
and the count. -/
theorem hashAll_complete (xxh64 : Xxh64) (markersInHistory : ThinkMarkersInHistory) (seed : Nat)
    (first : 0 < sizes.firstBlockSize) (standard : 0 < sizes.blockSize)
    (outside : thinkingAfter ids tokens = false)
    (complete : (rows ids tokens).countP Row.ordinary = blocksToTokens sizes blocks) :
    { hashAll sizes xxh64 ids markersInHistory seed tokens with result := [] } = {
      thinkCount := seed + (rows ids tokens).countP markersInHistory.drops
      targetBlockSize := if blocks = 0 then sizes.firstBlockSize else sizes.blockSize
      parentHash := ((hashAll sizes xxh64 ids markersInHistory seed tokens).result.getLast?.map
        BlockHashInfo.hash).getD 0 } := by
  have tracks : Tracks sizes ids markersInHistory seed tokens
      (hashAll sizes xxh64 ids markersInHistory seed tokens) := tracks_hashAll first standard tokens
  have exact := hashAll_length xxh64 markersInHistory seed first standard complete
  generalize hashAll sizes xxh64 ids markersInHistory seed tokens = state at *
  have counted := tracks.ordinary
  have noRest : state.currentBlock = [] :=
    List.eq_nil_of_length_eq_zero (by rw [complete, exact] at counted; omega)
  rw [← tracks.parent, ← tracks.thinkCount, ← exact, ← tracks.target, ← outside, ← tracks.inThinking,
    ← noRest]

/-- The blocks of some first tokens are the first blocks of all tokens. -/
theorem first_blocks (first : 0 < sizes.firstBlockSize) (standard : 0 < sizes.blockSize)
    (tokens : List UInt32) {count : Nat}
    (complete : (rows ids (tokens.take count)).countP Row.ordinary = blocksToTokens sizes blocks) :
    (hashAll sizes xxh64 ids markersInHistory 0 (tokens.take count)).result =
      (getPrefixCacheHashesByBlocksWithThinking sizes xxh64 ids markersInHistory tokens 0 0).take
        blocks := by
  conv => rhs; rw [hashes_eq first standard, ← List.take_append_drop count tokens]
  rw [hashAll_append,
    List.take_left' (hashAll_length xxh64 markersInHistory 0 first standard complete)]

end InferenceServer.PrefixCache
