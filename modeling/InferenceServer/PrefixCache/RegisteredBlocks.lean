import InferenceServer.PrefixCache.IndexMap

/-! The hashes that the index lists for a session, and how many of them a prompt has in common
with them. -/
namespace InferenceServer.PrefixCache
open Machine

section CommonPrefix

variable {Item : Type*} [DecidableEq Item]

/-- How far two lists agree from the start. -/
def commonPrefix : List Item → List Item → Nat
  | first :: left, second :: right => if first = second then commonPrefix left right + 1 else 0
  | _, _ => 0

theorem commonPrefix_le (left right : List Item) :
    commonPrefix left right ≤ left.length ∧ commonPrefix left right ≤ right.length := by
  induction left generalizing right with
  | nil => simp [commonPrefix]
  | cons first left ih =>
    cases right with
    | nil => simp [commonPrefix]
    | cons second right =>
      rw [commonPrefix]
      split
      · exact ⟨Nat.succ_le_succ (ih right).1, Nat.succ_le_succ (ih right).2⟩
      · exact ⟨Nat.zero_le _, Nat.zero_le _⟩

theorem take_commonPrefix (left right : List Item) :
    left.take (commonPrefix left right) = right.take (commonPrefix left right) := by
  induction left generalizing right with
  | nil => simp [commonPrefix]
  | cons first left ih =>
    cases right with
    | nil => simp [commonPrefix]
    | cons second right =>
      rw [commonPrefix]
      split
      · rename_i same
        rw [List.take_succ_cons, List.take_succ_cons, same, ih right]
      · rfl

/-- Lists that agree so far have no less in common. -/
theorem le_commonPrefix {left right : List Item} {count : Nat} (le : count ≤ right.length)
    (agrees : right.take count <+: left) : count ≤ commonPrefix left right := by
  induction right generalizing left count with
  | nil => exact Nat.le_trans le (Nat.zero_le _)
  | cons second right ih =>
    cases count with
    | zero => exact Nat.zero_le _
    | succ count =>
      cases left with
      | nil => simp at agrees
      | cons first left =>
        rw [List.take_succ_cons, List.cons_prefix_cons] at agrees
        rw [commonPrefix, if_pos agrees.1.symm]
        exact Nat.succ_le_succ (ih (Nat.le_of_succ_le_succ le) agrees.2)

end CommonPrefix

variable (blocks : List BlockHashInfo)

def blockHashes : List UInt64 :=
  blocks.map BlockHashInfo.hash

@[simp] theorem length_blockHashes : (blockHashes blocks).length = blocks.length :=
  List.length_map _

theorem blockHashes_cons (block : BlockHashInfo) (blocks : List BlockHashInfo) :
    blockHashes (block :: blocks) = block.hash :: blockHashes blocks := rfl

theorem blockHashes_take (count : Nat) (blocks : List BlockHashInfo) :
    blockHashes (blocks.take count) = (blockHashes blocks).take count :=
  List.map_take

theorem blockHashes_clear : blockHashes (blocks.map clearBlock) = blockHashes blocks := by
  rw [blockHashes, List.map_map]
  rfl

variable {Session : Type*} [DecidableEq Session]

/-- The index lists the session with these hashes, under their first. -/
def IndexMap.Registered (map : IndexMap Session) (sessionId : Session) (hashes : List UInt64) :
    Prop :=
  ∃ keyHash, ∃ blocks ∈ held keyHash sessionId (map.entries keyHash), blockHashes blocks = hashes

section Matches

theorem count_matchedBlocks (result : MatchedTokens)
    (callerRemaining entryRemaining : List RemainingBlockInfo) :
    (result.count callerRemaining entryRemaining).matchedBlocks = result.matchedBlocks +
      commonPrefix (blockHashes callerRemaining) (blockHashes entryRemaining) := by
  induction callerRemaining generalizing result entryRemaining with
  | nil => simp [MatchedTokens.count, blockHashes, commonPrefix]
  | cons caller callerRemaining ih =>
    cases entryRemaining with
    | nil => simp [MatchedTokens.count, blockHashes, commonPrefix]
    | cons block entryRemaining =>
      rw [MatchedTokens.count, blockHashes_cons, blockHashes_cons, commonPrefix]
      split
      · rw [ih]
        exact Nat.succ_add_eq_add_succ _ _
      · rfl

variable {front : BlockHashInfo} {remaining : List BlockHashInfo} {sessionId : Session}
  {entries : List (PrefixIndexEntry Session)}

/-- Blocks under the caller's key agree with it in the first. -/
theorem matchOf_matchedBlocks {block : BlockHashInfo} (key : block.hash = front.hash)
    (remaining others : List BlockHashInfo) :
    1 + (matchOf (front :: remaining) (block :: others)).matchedBlocks =
      commonPrefix (blockHashes (front :: remaining)) (blockHashes (block :: others)) := by
  rw [matchOf, countMatchedTokens, count_matchedBlocks, List.tail_cons, List.tail_cons,
    blockHashes_cons, blockHashes_cons, commonPrefix, if_pos key.symm, Nat.zero_add, Nat.add_comm]

/-- The match with blocks that are held under the caller's key. -/
theorem matchOf_held {own : List BlockHashInfo} (member : own ∈ held front.hash sessionId entries) :
    1 + (matchOf (front :: remaining) own).matchedBlocks =
      commonPrefix (blockHashes (front :: remaining)) (blockHashes own) := by
  obtain ⟨entry, -, -, rfl⟩ := mem_held.mp member
  exact matchOf_matchedBlocks rfl remaining entry.remainingBlocks

/-- A candidate is credited with what the prompt has in common with blocks of the session. -/
theorem candidate_held {candidate : Candidate Session}
    (member : candidate ∈ buildCandidates (front :: remaining) entries) :
    ∃ own ∈ held front.hash candidate.sessionId entries, candidate.matchedBlocks =
      commonPrefix (blockHashes (front :: remaining)) (blockHashes own) := by
  have listed : candidate ∈ (buildCandidates (front :: remaining) entries).filter
      (·.sessionId = candidate.sessionId) :=
    List.mem_filter.mpr ⟨member, decide_eq_true rfl⟩
  rw [buildCandidates_held (List.cons_ne_nil front remaining) front.hash] at listed
  obtain ⟨own, there, same⟩ := List.mem_flatMap.mp listed
  have credited := congrArg Candidate.matchedBlocks (List.mem_singleton.mp same)
  exact ⟨own, there, credited.trans (matchOf_held there)⟩

/-- The match of a session that holds its blocks once. -/
theorem computeMatchedBlocks_held {own : List BlockHashInfo}
    (only : held front.hash sessionId entries = [own]) :
    (computeMatchedBlocksForSession sessionId (front :: remaining) entries).1 =
      commonPrefix (blockHashes (front :: remaining)) (blockHashes own) := by
  rw [computeMatchedBlocksForSession, if_neg (List.cons_ne_nil front remaining),
    bestMatch_some only]
  exact matchOf_held (only ▸ List.mem_singleton_self own)

theorem computeMatchedBlocks_none {blockInfos : List BlockHashInfo} {keyHash : UInt64}
    (nothing : held keyHash sessionId entries = []) :
    (computeMatchedBlocksForSession sessionId blockInfos entries).1 = 0 := by
  rw [computeMatchedBlocksForSession]
  split
  · rfl
  · rw [bestMatch_none nothing]

end Matches

namespace IndexMap

variable {map : IndexMap Session} {sessionId other : Session} {hashes : List UInt64}

/-- A session that is not listed has no hashes. -/
theorem Registered.listed (registered : map.Registered sessionId hashes) :
    ∃ keyHash, map.count keyHash sessionId ≠ 0 := by
  obtain ⟨keyHash, blocks, member, -⟩ := registered
  exact ⟨keyHash, (List.length_pos_of_mem member).ne'⟩

theorem registered_remove {keyHash : UInt64}
    (registered : (map.remove sessionId keyHash).Registered other hashes) :
    map.Registered other hashes := by
  obtain ⟨key, blocks, member, same⟩ := registered
  refine ⟨key, blocks, ?_, same⟩
  rw [entries_remove, PrefixIndex.remove] at member
  split at member
  · exact member
  · by_cases here : key = keyHash
    · subst here
      rw [Function.update_self] at member
      by_cases own : other = sessionId
      · subst own
        rw [held_withoutSession_self] at member
        cases member
      · rwa [held_withoutSession_other own] at member
    · rwa [Function.update_of_ne here] at member

theorem registered_clear {keyHash : UInt64}
    (registered : (map.clearThinkTokens sessionId keyHash).Registered other hashes) :
    map.Registered other hashes := by
  obtain ⟨key, blocks, member, same⟩ := registered
  rw [entries_clear, PrefixIndex.clearThinkTokens] at member
  split at member
  · exact ⟨key, blocks, member, same⟩
  · by_cases here : key = keyHash
    · subst here
      rw [Function.update_self] at member
      obtain ⟨entry, listed, named, rfl⟩ := mem_held.mp member
      obtain ⟨old, there, rfl⟩ := List.mem_map.mp listed
      rw [clearEntry_sessionIds] at named
      refine ⟨key, old.blocks key, mem_held.mpr ⟨old, there, named, rfl⟩, ?_⟩
      rw [← same, clearEntry]
      split
      · exact (blockHashes_clear (old.blocks key)).symm
      · rfl
    · rw [Function.update_of_ne here] at member
      exact ⟨key, blocks, member, same⟩

/-- Under its first hash a session then has the hashes that it has registered. -/
theorem held_registerPrefixHash {front : BlockHashInfo} {remaining blocks : List BlockHashInfo}
    {key : UInt64} (member : blocks ∈
      held key other ((map.registerPrefixHash sessionId (front :: remaining)).entries key)) :
    if key = front.hash ∧ other = sessionId then
      blockHashes blocks = blockHashes (front :: remaining)
    else blocks ∈ held key other (map.entries key) := by
  rw [entries_register, PrefixIndex.registerPrefixHash] at member
  by_cases here : key = front.hash
  · subst here
    rw [Function.update_self] at member
    by_cases own : other = sessionId
    · subst own
      rw [buildCallerRemaining, List.tail_cons, held_register] at member
      rw [if_pos ⟨rfl, rfl⟩, List.mem_singleton.mp member]
      cases found : (withoutSession other (map.entries front.hash)).find? fun entry =>
          remainingHashesMatch entry.remainingBlocks remaining with
      | none => rfl
      | some entry =>
        have joined := List.find?_some found
        rw [remainingHashesMatch, decide_eq_true_eq] at joined
        exact congrArg (front.hash :: ·) joined
    · rw [held_joinEntry_other own, held_withoutSession_other own] at member
      rwa [if_neg fun both => own both.2]
  · rw [Function.update_of_ne here] at member
    rwa [if_neg fun both => here both.1]

end IndexMap

end InferenceServer.PrefixCache
