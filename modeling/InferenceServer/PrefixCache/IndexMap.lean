import InferenceServer.PrefixCache.ConcurrentIndex

/-! The prefix index between whole calls. A key is there as long as a session is registered
under it, and no two of its entries have the same remaining hashes. -/
namespace InferenceServer.PrefixCache
open Machine

variable {Session : Type*} [DecidableEq Session]

abbrev IndexMap (Session : Type*) := Table UInt64 (List (PrefixIndexEntry Session))

namespace IndexMap

variable (map : IndexMap Session) (sessionId : Session)

def registerPrefixHash :
    List BlockHashInfo → IndexMap Session
  | [] => map
  | front :: remaining =>
    match map.lookup front.hash with
    | some entries => map.insert front.hash (joinEntry sessionId remaining
        front.accumulatedThinkTokens (withoutSession sessionId entries))
    | none => map.insert front.hash
        [{ sessionIds := [sessionId]
           remainingBlocks := remaining
           keyBlockThinkTokens := front.accumulatedThinkTokens }]

def remove (keyHash : UInt64) : IndexMap Session :=
  if keyHash = 0 then map
  else
    match map.lookup keyHash with
    | none => map
    | some entries =>
      if withoutSession sessionId entries = [] then map.erase keyHash
      else map.insert keyHash (withoutSession sessionId entries)

def clearThinkTokens (keyHash : UInt64) : IndexMap Session :=
  if keyHash = 0 then map
  else Table.modify keyHash (List.map (clearEntry sessionId)) map

/-- A key that the map lacks has no entries. -/
def entries : PrefixIndex Session :=
  fun keyHash => (map.lookup keyHash).getD []

/-- How often a session is registered under a key. -/
def count (keyHash : UInt64) (sessionId : Session) : Nat :=
  (held keyHash sessionId (map.entries keyHash)).length

/-- How often a session is in an entry, over the whole index. -/
def occurrences : Nat :=
  map.total fun _ entries => (entries.map fun entry => entry.sessionIds.count sessionId).sum

end IndexMap

/-- The remaining hashes of the entries under a key. -/
def remainingHashes (entries : List (PrefixIndexEntry Session)) : List (List UInt64) :=
  entries.map fun entry => entry.remainingBlocks.map BlockHashInfo.hash

/-- Every entry has a session, and no two have the same remaining hashes. -/
structure Tidy (entries : List (PrefixIndexEntry Session)) : Prop where
  named : ∀ entry ∈ entries, entry.sessionIds ≠ []
  distinct : (remainingHashes entries).Nodup

/-- Every key has an entry, and its entries are in order. -/
structure IndexMap.WellFormed (map : IndexMap Session) : Prop where
  nonempty : ∀ keyHash, map.lookup keyHash ≠ some []
  tidy : ∀ keyHash entries, map.lookup keyHash = some entries → Tidy entries

section Entries

variable {entries : List (PrefixIndexEntry Session)}

theorem remainingHashes_withoutSession (sessionId : Session)
    (entries : List (PrefixIndexEntry Session)) :
    (remainingHashes (withoutSession sessionId entries)).Sublist (remainingHashes entries) := by
  have kept : remainingHashes entries = remainingHashes (entries.map fun entry =>
      { entry with sessionIds := entry.sessionIds.filter (· ≠ sessionId) }) := by
    rw [remainingHashes, remainingHashes, List.map_map]
    rfl
  rw [kept]
  exact List.filter_sublist.map _

omit [DecidableEq Session] in
/-- A session that joins adds its own hashes when no entry has them. -/
theorem remainingHashes_joinEntry (sessionId : Session) (remaining : List RemainingBlockInfo)
    (keyThinkCount : Nat) (entries : List (PrefixIndexEntry Session)) :
    remainingHashes (joinEntry sessionId remaining keyThinkCount entries) =
      if remaining.map BlockHashInfo.hash ∈ remainingHashes entries then remainingHashes entries
      else remainingHashes entries ++ [remaining.map BlockHashInfo.hash] := by
  induction entries with
  | nil => rfl
  | cons entry entries ih =>
    rw [joinEntry]
    by_cases same : entry.remainingBlocks.map BlockHashInfo.hash =
        remaining.map BlockHashInfo.hash
    · simp [remainingHashesMatch, remainingHashes, same]
    · have head : remainingHashes (entry :: joinEntry sessionId remaining keyThinkCount entries) =
          entry.remainingBlocks.map BlockHashInfo.hash ::
            remainingHashes (joinEntry sessionId remaining keyThinkCount entries) := rfl
      have tail : remainingHashes (entry :: entries) =
          entry.remainingBlocks.map BlockHashInfo.hash :: remainingHashes entries := rfl
      rw [if_neg (by simpa [remainingHashesMatch] using same), head, ih, tail]
      simp only [List.mem_cons, Ne.symm same, false_or]
      split <;> rfl

theorem Tidy.withoutSession (tidy : Tidy entries) (sessionId : Session) :
    Tidy (withoutSession sessionId entries) where
  named entry member := by
    simpa using (List.mem_filter.mp member).2
  distinct := tidy.distinct.sublist (remainingHashes_withoutSession sessionId entries)

omit [DecidableEq Session] in
theorem Tidy.joinEntry (tidy : Tidy entries) (sessionId : Session)
    (remaining : List RemainingBlockInfo) (keyThinkCount : Nat) :
    Tidy (joinEntry sessionId remaining keyThinkCount entries) where
  named := by
    have named := tidy.named
    clear tidy
    induction entries with
    | nil => simp [PrefixCache.joinEntry]
    | cons entry entries ih =>
      rw [PrefixCache.joinEntry]
      split
      · rw [List.forall_mem_cons] at named ⊢
        exact ⟨by simp, named.2⟩
      · rw [List.forall_mem_cons] at named ⊢
        exact ⟨named.1, ih named.2⟩
  distinct := by
    rw [remainingHashes_joinEntry]
    split
    · exact tidy.distinct
    · rename_i absent
      exact List.Nodup.append tidy.distinct (List.nodup_singleton _) (by simpa using absent)

theorem Tidy.clear (tidy : Tidy entries) (sessionId : Session) :
    Tidy (entries.map (clearEntry sessionId)) where
  named := by
    intro entry member
    obtain ⟨old, there, rfl⟩ := List.mem_map.mp member
    rw [clearEntry_sessionIds]
    exact tidy.named old there
  distinct := by
    have same : remainingHashes (entries.map (clearEntry sessionId)) = remainingHashes entries := by
      rw [remainingHashes, remainingHashes, List.map_map]
      refine List.map_congr_left fun entry _ => ?_
      simp only [Function.comp_apply, clearEntry]
      split
      · rw [List.map_map]
        rfl
      · rfl
    rw [same]
    exact tidy.distinct

theorem length_held (keyHash : UInt64) (sessionId : Session)
    (entries : List (PrefixIndexEntry Session)) : (held keyHash sessionId entries).length =
      (entries.map fun entry => entry.sessionIds.count sessionId).sum := by
  induction entries with
  | nil => rfl
  | cons entry entries ih =>
    rw [held_cons, List.length_append, List.length_replicate, ih, List.map_cons, List.sum_cons]

theorem length_held_clear (keyHash : UInt64) (sessionId other : Session)
    (entries : List (PrefixIndexEntry Session)) :
    (held keyHash other (entries.map (clearEntry sessionId))).length =
      (held keyHash other entries).length := by
  rw [length_held, length_held, List.map_map]
  refine congrArg List.sum (List.map_congr_left fun entry _ => ?_)
  rw [Function.comp_apply, clearEntry_sessionIds]

omit [DecidableEq Session] in
theorem joinEntry_ne_nil (sessionId : Session) (remaining : List RemainingBlockInfo)
    (keyThinkCount : Nat) (entries : List (PrefixIndexEntry Session)) :
    joinEntry sessionId remaining keyThinkCount entries ≠ [] := by
  cases entries with
  | nil => exact List.cons_ne_nil _ _
  | cons entry entries =>
    rw [joinEntry]
    split <;> exact List.cons_ne_nil _ _

end Entries

namespace IndexMap

section Lookup

omit [DecidableEq Session]

theorem entries_insert (map : IndexMap Session) (keyHash : UInt64)
    (entries : List (PrefixIndexEntry Session)) :
    IndexMap.entries (AList.insert keyHash entries map) =
      Function.update map.entries keyHash entries := by
  funext key
  by_cases same : key = keyHash
  · subst same
    rw [Function.update_self, IndexMap.entries, AList.lookup_insert, Option.getD_some]
  · rw [Function.update_of_ne same, IndexMap.entries, AList.lookup_insert_ne same, IndexMap.entries]

theorem entries_erase (map : IndexMap Session) (keyHash : UInt64) :
    IndexMap.entries (AList.erase keyHash map) = Function.update map.entries keyHash [] := by
  funext key
  by_cases same : key = keyHash
  · subst same
    rw [Function.update_self, IndexMap.entries, AList.lookup_erase, Option.getD_none]
  · rw [Function.update_of_ne same, IndexMap.entries, AList.lookup_erase_ne same, IndexMap.entries]

theorem entries_absent {map : IndexMap Session} {keyHash : UInt64}
    (absent : map.lookup keyHash = none) : map.entries keyHash = [] := by
  rw [IndexMap.entries, absent, Option.getD_none]

theorem entries_present {map : IndexMap Session} {keyHash : UInt64}
    {entries : List (PrefixIndexEntry Session)} (present : map.lookup keyHash = some entries) : map.entries keyHash = entries := by
  rw [IndexMap.entries, present, Option.getD_some]

end Lookup

section

variable (map : IndexMap Session)
include map

theorem entries_register (sessionId : Session) (blockInfos : List BlockHashInfo) :
    (map.registerPrefixHash sessionId blockInfos).entries =
      map.entries.registerPrefixHash sessionId blockInfos := by
  cases blockInfos with
  | nil => rfl
  | cons front remaining =>
    simp only [registerPrefixHash, PrefixIndex.registerPrefixHash]
    cases found : map.lookup front.hash with
    | none =>
      simp only [entries_insert, entries_absent found]
      rfl
    | some entries =>
      simp only [entries_insert, entries_present found]
      rfl

theorem entries_remove (sessionId : Session) (keyHash : UInt64) :
    (map.remove sessionId keyHash).entries = map.entries.remove sessionId keyHash := by
  simp only [remove, PrefixIndex.remove]
  split
  · rfl
  · cases found : map.lookup keyHash with
    | none =>
      rw [entries_absent found]
      exact (Function.update_eq_self_iff.mpr (entries_absent found).symm).symm
    | some entries =>
      rw [entries_present found]
      simp only
      split
      · rename_i empty
        rw [entries_erase, empty]
      · rw [entries_insert]

theorem entries_clear (sessionId : Session) (keyHash : UInt64) :
    (map.clearThinkTokens sessionId keyHash).entries =
      map.entries.clearThinkTokens sessionId keyHash := by
  simp only [clearThinkTokens, PrefixIndex.clearThinkTokens, Table.modify]
  split
  · rfl
  · cases found : map.lookup keyHash with
    | none =>
      rw [entries_absent found]
      exact (Function.update_eq_self_iff.mpr (entries_absent found).symm).symm
    | some entries =>
      rw [entries_present found]
      exact entries_insert ..

theorem count_register (sessionId : Session) (front : BlockHashInfo)
    (remaining : List BlockHashInfo) (keyHash : UInt64) (other : Session) :
    (map.registerPrefixHash sessionId (front :: remaining)).count keyHash other =
      if keyHash = front.hash ∧ other = sessionId then 1 else map.count keyHash other := by
  rw [count, entries_register, PrefixIndex.registerPrefixHash]
  by_cases key : keyHash = front.hash
  · subst key
    rw [Function.update_self]
    by_cases same : other = sessionId
    · subst same
      rw [if_pos ⟨rfl, rfl⟩, buildCallerRemaining, List.tail_cons, held_register]
      rfl
    · rw [if_neg fun both => same both.2, held_joinEntry_other same,
        held_withoutSession_other same, count]
  · rw [if_neg fun both => key both.1, Function.update_of_ne key, count]

end

variable {keyHash : UInt64} {sessionId : Session}

section

variable (map : IndexMap Session)
include map

theorem count_remove (sessionId : Session) (nonzero : keyHash ≠ 0) (key : UInt64) (other : Session) :
    (map.remove sessionId keyHash).count key other =
      if key = keyHash ∧ other = sessionId then 0 else map.count key other := by
  rw [count, entries_remove, PrefixIndex.remove, if_neg nonzero]
  by_cases same : key = keyHash
  · subst same
    rw [Function.update_self]
    by_cases own : other = sessionId
    · subst own
      rw [if_pos ⟨rfl, rfl⟩, held_withoutSession_self, List.length_nil]
    · rw [if_neg fun both => own both.2, held_withoutSession_other own, count]
  · rw [if_neg fun both => same both.1, Function.update_of_ne same, count]

theorem count_remove_other {other : Session} (different : other ≠ sessionId) (keyHash key : UInt64) :
    (map.remove sessionId keyHash).count key other = map.count key other := by
  by_cases zero : keyHash = 0
  · rw [remove, if_pos zero]
  · rw [count_remove map sessionId zero, if_neg fun both => different both.2]

theorem count_remove_le (sessionId other : Session) (keyHash key : UInt64) :
    (map.remove sessionId keyHash).count key other ≤ map.count key other := by
  by_cases zero : keyHash = 0
  · rw [remove, if_pos zero]
  · rw [count_remove map sessionId zero]
    split
    · exact Nat.zero_le _
    · exact Nat.le_refl _

theorem count_clear (sessionId : Session) (keyHash key : UInt64) (other : Session) :
    (map.clearThinkTokens sessionId keyHash).count key other = map.count key other := by
  rw [count, entries_clear, PrefixIndex.clearThinkTokens]
  split
  · rfl
  · by_cases same : key = keyHash
    · subst same
      rw [Function.update_self, length_held_clear, count]
    · rw [Function.update_of_ne same, count]

end

/-- A session that is under one key only occurs there. -/
theorem occurrences_eq {map : IndexMap Session}
    (others : ∀ other, other ≠ keyHash → map.count other sessionId = 0) :
    map.occurrences sessionId = map.count keyHash sessionId := by
  have share : ∀ key entries, map.lookup key = some entries →
      (entries.map fun entry => entry.sessionIds.count sessionId).sum = map.count key sessionId := by
    intro key entries present
    rw [count, length_held, entries_present present]
  rw [occurrences, Table.total_single fun other entries member different =>
    (share other entries (Table.mem_entries.mp member)).trans (others other different)]
  cases found : map.lookup keyHash with
  | none => rw [Option.elim_none, count, entries_absent found]; rfl
  | some entries => exact share keyHash entries found

theorem count_ne_zero {map : IndexMap Session} {entries : List (PrefixIndexEntry Session)}
    {entry : PrefixIndexEntry Session} (present : map.lookup keyHash = some entries)
    (listed : entry ∈ entries) (named : sessionId ∈ entry.sessionIds) :
    map.count keyHash sessionId ≠ 0 := by
  have member : entry.blocks keyHash ∈ held keyHash sessionId (map.entries keyHash) := by
    rw [entries_present present]
    exact mem_held.mpr ⟨entry, listed, named, rfl⟩
  exact (List.length_pos_of_mem member).ne'

namespace WellFormed

omit [DecidableEq Session] in
theorem empty : WellFormed (∅ : IndexMap Session) where
  nonempty _ := by simp
  tidy _ _ present := by simp at present

variable {map : IndexMap Session}

omit [DecidableEq Session] in
theorem insert (wellFormed : map.WellFormed) (keyHash : UInt64)
    {entries : List (PrefixIndexEntry Session)} (nonempty : entries ≠ []) (tidy : Tidy entries) :
    WellFormed (AList.insert keyHash entries map) where
  nonempty key := by
    by_cases same : key = keyHash
    · subst same
      rw [AList.lookup_insert]
      exact fun empty => nonempty (Option.some.inj empty)
    · rw [AList.lookup_insert_ne same]
      exact wellFormed.nonempty key
  tidy key found present := by
    by_cases same : key = keyHash
    · subst same
      rw [AList.lookup_insert] at present
      exact Option.some.inj present ▸ tidy
    · rw [AList.lookup_insert_ne same] at present
      exact wellFormed.tidy key found present

omit [DecidableEq Session] in
theorem erase (wellFormed : map.WellFormed) (keyHash : UInt64) :
    WellFormed (AList.erase keyHash map) where
  nonempty key := by
    by_cases same : key = keyHash
    · subst same
      rw [AList.lookup_erase]
      exact fun empty => by cases empty
    · rw [AList.lookup_erase_ne same]
      exact wellFormed.nonempty key
  tidy key found present := by
    by_cases same : key = keyHash
    · subst same
      rw [AList.lookup_erase] at present
      cases present
    · rw [AList.lookup_erase_ne same] at present
      exact wellFormed.tidy key found present

section

variable (wellFormed : map.WellFormed)
include wellFormed

theorem registerPrefixHash (sessionId : Session) (blockInfos : List BlockHashInfo) :
    (IndexMap.registerPrefixHash map sessionId blockInfos).WellFormed := by
  cases blockInfos with
  | nil => exact wellFormed
  | cons front remaining =>
    rw [IndexMap.registerPrefixHash]
    cases found : map.lookup front.hash with
    | none =>
      refine wellFormed.insert _ (List.cons_ne_nil _ _) ⟨?_, List.nodup_singleton _⟩
      simp only [List.mem_singleton, forall_eq]
      exact List.cons_ne_nil _ _
    | some entries =>
      have tidy := (wellFormed.tidy _ _ found).withoutSession sessionId
      exact wellFormed.insert _ (joinEntry_ne_nil _ _ _ _) (tidy.joinEntry _ _ _)

theorem remove (sessionId : Session) (keyHash : UInt64) :
    (IndexMap.remove map sessionId keyHash).WellFormed := by
  rw [IndexMap.remove]
  split
  · exact wellFormed
  · cases found : map.lookup keyHash with
    | none => exact wellFormed
    | some entries =>
      simp only
      split
      · exact wellFormed.erase keyHash
      · rename_i nonempty
        exact wellFormed.insert _ nonempty ((wellFormed.tidy _ _ found).withoutSession sessionId)

theorem clearThinkTokens (sessionId : Session) (keyHash : UInt64) :
    (IndexMap.clearThinkTokens map sessionId keyHash).WellFormed := by
  rw [IndexMap.clearThinkTokens, Table.modify]
  split
  · exact wellFormed
  · cases found : map.lookup keyHash with
    | none => exact wellFormed
    | some entries =>
      refine wellFormed.insert _ (fun empty => wellFormed.nonempty keyHash ?_)
        ((wellFormed.tidy _ _ found).clear sessionId)
      rw [found, List.map_eq_nil_iff.mp empty]

end

end WellFormed

end IndexMap

end InferenceServer.PrefixCache
