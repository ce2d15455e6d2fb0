import InferenceServer.Sessions.CopyProtection

/-! Which sessions an eviction removes that nothing comes between: those that were active longest
ago among the idle ones with an unlocked slot, up to a number, and only when there are too many
sessions. -/
namespace InferenceServer.Sessions
open Machine PrefixCache

/-- `std::nth_element` on the first components: so many entries that come no later than any other
are moved to the front. In which order it leaves them is its own affair. -/
structure NthElement (Time : Type) [LinearOrder Time] where
  arrange : Nat → List (Time × String) → List (Time × String)
  perm : ∀ count entries, (arrange count entries).Perm entries
  parted : ∀ count entries, ∀ early ∈ (arrange count entries).take count,
    ∀ late ∈ (arrange count entries).drop count, early.1 ≤ late.1

section Policy

variable {Time : Type} [LinearOrder Time]

namespace SessionManager

/-- The candidates that the call goes through. -/
def oldestCandidates (config : SessionConfig) (nthElement : NthElement Time)
    (lastActivity : String → Time) (manager : SessionManager) : List String :=
  let candidates := manager.candidatesForEviction.map fun sessionId =>
    (lastActivity sessionId, sessionId)
  let count := min config.sessionEvictionCount candidates.length
  ((nthElement.arrange count candidates).take count).map Prod.snd

/-- `evictOldSessions`, with the times at which the sessions were active last. -/
def evictOldSessionsByActivity (config : SessionConfig) (nthElement : NthElement Time)
    (lastActivity : String → Time) (manager : SessionManager) : SessionManager :=
  if manager.sessions.entries.length * 100 ≤
      config.maxSessionsCount * config.sessionEvictionRate then manager
  else (manager.oldestCandidates config nthElement lastActivity).foldl evictSession manager

end SessionManager

/-- These sessions have been taken out of the map and of both indexes, and their slots have been
given back; nothing else has changed. -/
structure Removes (before after : SessionManager) (removed : List String) : Prop where
  sessions : ∀ sessionId, after.sessions.lookup sessionId =
    if sessionId ∈ removed then none else before.sessions.lookup sessionId
  lockedSlots : after.lockedSlots = before.lockedSlots
  allocations : after.allocations = before.allocations
  unlisted : ∀ sessionId ∈ removed, ∀ session ∈ before.sessions.lookup sessionId,
    session.hash ≠ 0 → after.prefixIndex.count session.hash sessionId = 0
  unnamed : ∀ sessionId ∈ removed, ∀ session ∈ before.sessions.lookup sessionId,
    session.responseId ≠ "" → after.responseIdIndex.lookup session.responseId ≠ some sessionId
  listed : ∀ keyHash sessionId, after.prefixIndex.count keyHash sessionId ≤
    before.prefixIndex.count keyHash sessionId
  named : ∀ responseId sessionId, after.responseIdIndex.lookup responseId = some sessionId →
    before.responseIdIndex.lookup responseId = some sessionId
  listedOthers : ∀ keyHash, ∀ sessionId ∉ removed, after.prefixIndex.count keyHash sessionId =
    before.prefixIndex.count keyHash sessionId
  namedOthers : ∀ responseId, ∀ sessionId ∉ removed,
    before.responseIdIndex.lookup responseId = some sessionId →
      after.responseIdIndex.lookup responseId = some sessionId
  deallocated : after.deallocated = before.deallocated ++
    (removed.filterMap fun sessionId => (before.sessions.lookup sessionId).map
      Session.slotId).filter (· ≠ invalidSlotId)

namespace Removes

theorem none_ (manager : SessionManager) : Removes manager manager [] where
  sessions _ := rfl
  lockedSlots := rfl
  allocations := rfl
  unlisted _ member := nomatch member
  unnamed _ member := nomatch member
  listed _ _ := Nat.le_refl _
  named _ _ indexed := indexed
  listedOthers _ _ _ := rfl
  namedOthers _ _ _ indexed := indexed
  deallocated := (List.append_nil _).symm

variable {before middle after : SessionManager} {sessionId : String} {session : Session}

theorem takeOut (found : before.sessions.lookup sessionId = some session) :
    Removes before (before.takeOut sessionId session) [sessionId] := by
  have own : ∀ responseId, session.responseId ≠ "" ∧
      before.responseIdIndex.lookup session.responseId = some sessionId →
      (before.responseIdIndex.erase session.responseId).lookup responseId =
        if responseId = session.responseId then none
        else before.responseIdIndex.lookup responseId := by
    intro responseId _
    exact Table.lookup_erase_if ..
  rw [takeOut_eq]
  refine ⟨fun other => ?_, rfl, rfl, ?_, ?_, fun keyHash other => ?_, ?_,
    fun keyHash other outside => ?_, ?_, ?_⟩
  · rw [Table.lookup_erase_if]
    simp only [List.mem_singleton]
  · intro other member found' present nonzero
    obtain rfl := List.mem_singleton.mp member
    obtain rfl := Option.some.inj (found.symm.trans present)
    rw [IndexMap.count_remove _ _ nonzero, if_pos ⟨rfl, rfl⟩]
  · intro other member found' present nonempty
    obtain rfl := List.mem_singleton.mp member
    obtain rfl := Option.some.inj (found.symm.trans present)
    dsimp only
    split
    · rename_i indexed
      rw [own _ indexed, if_pos rfl]
      nofun
    · rename_i other
      exact fun indexed => other ⟨nonempty, indexed⟩
  · exact IndexMap.count_remove_le ..
  · intro responseId other indexed
    dsimp only at indexed
    split at indexed
    · rename_i led
      rw [own _ led] at indexed
      split at indexed
      · cases indexed
      · exact indexed
    · exact indexed
  · exact IndexMap.count_remove_other _ (mt List.mem_singleton.mpr outside) _ _
  · intro responseId other outside indexed
    dsimp only
    split
    · rename_i led
      rw [own _ led, if_neg]
      · exact indexed
      · rintro rfl
        exact outside (List.mem_singleton.mpr (Option.some.inj (indexed.symm.trans led.2)))
    · exact indexed
  · simp only [List.filterMap_cons, found, Option.map_some, List.filterMap_nil, List.filter_cons,
      List.filter_nil, decide_eq_true_eq]
    split
    · rfl
    · exact (List.append_nil _).symm

theorem cons {removed : List String} (first : Removes before middle [sessionId])
    (others : Removes middle after removed) (fresh : sessionId ∉ removed) :
    Removes before after (sessionId :: removed) := by
  have kept : ∀ other ∈ removed, middle.sessions.lookup other = before.sessions.lookup other := by
    intro other member
    rw [first.sessions, if_neg]
    intro same
    exact fresh (List.mem_singleton.mp same ▸ member)
  refine ⟨fun other => ?_, others.lockedSlots.trans first.lockedSlots,
    others.allocations.trans first.allocations, ?_, ?_,
    fun keyHash other => (others.listed keyHash other).trans (first.listed keyHash other),
    fun responseId other indexed => first.named _ _ (others.named _ _ indexed), ?_, ?_, ?_⟩
  · rw [others.sessions, first.sessions]
    by_cases here : other = sessionId
    · simp [here]
    · simp [here]
  · intro other member gone present nonzero
    rcases List.mem_cons.mp member with rfl | member
    · have none_ := first.unlisted other (List.mem_singleton_self _) gone present nonzero
      exact Nat.le_zero.mp ((others.listed _ _).trans_eq none_)
    · rw [← kept other member] at present
      exact others.unlisted other member gone present nonzero
  · intro other member gone present nonempty
    rcases List.mem_cons.mp member with rfl | member
    · exact fun indexed => first.unnamed other (List.mem_singleton_self _) gone present nonempty
        (others.named _ _ indexed)
    · rw [← kept other member] at present
      exact others.unnamed other member gone present nonempty
  · intro keyHash other outside
    rw [List.mem_cons, not_or] at outside
    rw [others.listedOthers keyHash other outside.2,
      first.listedOthers keyHash other (mt List.mem_singleton.mp outside.1)]
  · intro responseId other outside indexed
    rw [List.mem_cons, not_or] at outside
    exact others.namedOthers _ _ outside.2
      (first.namedOthers _ _ (mt List.mem_singleton.mp outside.1) indexed)
  · have slots : (removed.filterMap fun other => (middle.sessions.lookup other).map
        Session.slotId) = removed.filterMap fun other => (before.sessions.lookup other).map
          Session.slotId := by
      apply List.filterMap_congr
      intro other member
      rw [kept other member]
    rw [others.deallocated, first.deallocated, slots, List.append_assoc, ← List.filter_append,
      ← List.filterMap_append]
    rfl

/-- The loop over sessions that may all be evicted. -/
theorem evictEach {removed : List String} (once : removed.Nodup) (manager : SessionManager)
    (idle : ∀ sessionId ∈ removed, ∃ session ∈ manager.sessions.lookup sessionId,
      manager.Idle session) :
    Removes manager (removed.foldl SessionManager.evictSession manager) removed := by
  induction removed generalizing manager with
  | nil => exact .none_ manager
  | cons sessionId removed ih =>
    obtain ⟨fresh, once⟩ := List.nodup_cons.mp once
    obtain ⟨session, found, free⟩ := idle sessionId List.mem_cons_self
    have taken : manager.evictSession sessionId = manager.takeOut sessionId session := by
      rw [SessionManager.evictSession, found]
      exact if_pos free
    have first := takeOut found
    rw [List.foldl_cons, taken]
    refine first.cons (ih once _ fun other member => ?_) fresh
    obtain ⟨another, there, free⟩ := idle other (List.mem_cons_of_mem _ member)
    refine ⟨another, ?_, free.1, by rw [first.lockedSlots]; exact free.2⟩
    rw [first.sessions, if_neg]
    · exact there
    · intro same
      exact fresh (List.mem_singleton.mp same ▸ member)

end Removes

section Candidates

variable {manager : SessionManager}

theorem mem_candidatesForEviction {sessionId : String} : sessionId ∈ manager.candidatesForEviction ↔
      ∃ session ∈ manager.sessions.lookup sessionId, manager.Idle session := by
  constructor
  · intro member
    obtain ⟨⟨_, session⟩, selected, rfl⟩ := List.mem_map.mp member
    obtain ⟨present, idle⟩ := (Table.mem_select _ _).mp selected
    exact ⟨session, Table.mem_entries.mp present, of_decide_eq_true idle⟩
  · rintro ⟨session, found, idle⟩
    exact List.mem_map.mpr ⟨(sessionId, session),
      (Table.mem_select _ _).mpr ⟨Table.mem_entries.mpr found, decide_eq_true idle⟩, rfl⟩

theorem nodup_candidatesForEviction (manager : SessionManager) :
    manager.candidatesForEviction.Nodup := by
  rw [SessionManager.candidatesForEviction, Table.select, List.map_map]
  exact List.Nodup.sublist (List.filter_sublist.map Sigma.fst) manager.sessions.nodupKeys

variable {config : SessionConfig} {nthElement : NthElement Time} {lastActivity : String → Time}

/-- What is selected and what is left are the candidates. -/
theorem oldestCandidates_perm : ∃ left : List String,
    (manager.oldestCandidates config nthElement lastActivity ++ left).Perm
      manager.candidatesForEviction ∧
    ∀ early ∈ manager.oldestCandidates config nthElement lastActivity, ∀ late ∈ left,
      lastActivity early ≤ lastActivity late := by
  have timed : ∀ count entry, entry ∈ nthElement.arrange count
      (manager.candidatesForEviction.map fun sessionId => (lastActivity sessionId, sessionId)) →
        entry.1 = lastActivity entry.2 := by
    intro count entry member
    obtain ⟨_, _, rfl⟩ := List.mem_map.mp ((nthElement.perm _ _).mem_iff.mp member)
    rfl
  unfold SessionManager.oldestCandidates
  dsimp only
  generalize min config.sessionEvictionCount (manager.candidatesForEviction.map fun sessionId =>
    (lastActivity sessionId, sessionId)).length = count
  refine ⟨((nthElement.arrange count (manager.candidatesForEviction.map fun sessionId =>
    (lastActivity sessionId, sessionId))).drop count).map Prod.snd, ?_, ?_⟩
  · rw [← List.map_append, List.take_append_drop]
    refine ((nthElement.perm _ _).map Prod.snd).trans ?_
    rw [List.map_map]
    exact .of_eq (List.map_id _)
  · intro early earlyIn late lateIn
    obtain ⟨first, firstIn, rfl⟩ := List.mem_map.mp earlyIn
    obtain ⟨second, secondIn, rfl⟩ := List.mem_map.mp lateIn
    rw [← timed count first (List.mem_of_mem_take firstIn),
      ← timed count second (List.mem_of_mem_drop secondIn)]
    exact nthElement.parted _ _ first firstIn second secondIn

theorem oldestCandidates_length : (manager.oldestCandidates config nthElement lastActivity).length =
      min config.sessionEvictionCount manager.candidatesForEviction.length := by
  rw [SessionManager.oldestCandidates, List.length_map, List.length_take,
    (nthElement.perm _ _).length_eq, List.length_map]
  exact Nat.min_eq_left (Nat.min_le_right _ _)

/-- With these sessions in front the call is the one that is told who was active when. -/
theorem evictOldSessionsByActivity_eq :
    manager.evictOldSessionsByActivity config nthElement lastActivity =
      manager.evictOldSessions config
        (manager.oldestCandidates config nthElement lastActivity) := by
  obtain ⟨left, perm, -⟩ := @oldestCandidates_perm Time _ manager config nthElement lastActivity
  have among : (manager.oldestCandidates config nthElement lastActivity).filter
      (· ∈ manager.candidatesForEviction) =
        manager.oldestCandidates config nthElement lastActivity := by
    apply List.filter_eq_self.mpr
    intro sessionId member
    exact decide_eq_true (perm.mem_iff.mp (List.mem_append_left _ member))
  rw [SessionManager.evictOldSessionsByActivity, SessionManager.evictOldSessions, among,
    List.take_of_length_le (by rw [oldestCandidates_length]; exact Nat.min_le_left _ _)]

/-- The call, taken in its steps and with nothing in between. -/
theorem evictOldSessionsByActivity_uninterrupted :
    Reaches (copyHandlers config).step (Evicting none)
      { shared := { manager }, frames := [.evicting .entering none] }
      { shared := {
          manager := manager.evictOldSessionsByActivity config nthElement lastActivity }
        frames := [] } := by
  rw [evictOldSessionsByActivity_eq]
  exact evictOldSessions_uninterrupted manager _

end Candidates

/-- These sessions have been evicted: as many as there may be of those that are idle with an
unlocked slot, none of them active after one that is kept. Where the indexes agree with the
sessions, they have nothing left of those that are gone. -/
structure Evicts (config : SessionConfig) (lastActivity : String → Time)
    (before after : SessionManager) (evicted : List String) : Prop where
  once : evicted.Nodup
  number : evicted.length = min config.sessionEvictionCount before.candidatesForEviction.length
  idle : ∀ sessionId ∈ evicted, ∃ session ∈ before.sessions.lookup sessionId,
    before.Idle session
  oldest : ∀ sessionId ∈ evicted, ∀ other ∉ evicted,
    ∀ session ∈ before.sessions.lookup other, before.Idle session →
      lastActivity sessionId ≤ lastActivity other
  removes : Removes before after evicted
  busy : ∀ sessionId, ∀ session ∈ before.sessions.lookup sessionId, ¬ before.Idle session →
    after.sessions.lookup sessionId = some session
  traceless : Sound True before → ∀ sessionId ∈ evicted,
    (∀ keyHash, after.prefixIndex.count keyHash sessionId = 0) ∧
      ∀ responseId, after.responseIdIndex.lookup responseId ≠ some sessionId

end Policy

section Unslotted

/-- Sorting does more than is asked for. -/
def sortByTime : NthElement Nat where
  arrange _ entries := entries.insertionSort fun early late => early.1 ≤ late.1
  perm _ entries := List.perm_insertionSort _ entries
  parted count entries early earlyIn late lateIn := by
    have total : Std.Total fun early late : Nat × String => early.1 ≤ late.1 :=
      ⟨fun _ _ => Nat.le_total _ _⟩
    have trans : IsTrans (Nat × String) fun early late => early.1 ≤ late.1 :=
      ⟨fun _ _ _ => Nat.le_trans⟩
    have sorted := List.pairwise_insertionSort
      (fun early late : Nat × String => early.1 ≤ late.1) entries
    rw [← List.take_append_drop count (entries.insertionSort _)] at sorted
    exact (List.pairwise_append.mp sorted).2.2 early earlyIn late lateIn

/-- Any session is one too many. -/
def noSessionsConfig : SessionConfig := { decodeConfig with maxSessionsCount := 0 }

/-- A session that its creator has given no slot. -/
def unslotted : SessionManager :=
  SessionManager.perform noSessionsConfig {} (.createSession { sessionId := "a" } []
    (some invalidSlotId) none)

end Unslotted

end InferenceServer.Sessions
