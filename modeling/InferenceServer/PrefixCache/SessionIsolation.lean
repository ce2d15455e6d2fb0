import Mathlib.Data.List.Induction
import InferenceServer.PrefixCache.Index

/-! What the index reports for a session depends on its own registrations when no
entry is shared by sessions with other counts. The registrations of one session are
the abstract index; the entries are shown to hold them. -/
namespace InferenceServer.PrefixCache

variable {Session : Type*} [DecidableEq Session]

inductive Operation (Session : Type*) where
  | registerPrefixHash (sessionId : Session) (blockInfos : List BlockHashInfo)
  | remove (sessionId : Session) (keyHash : UInt64)
  | clearThinkTokens (sessionId : Session) (keyHash : UInt64)

def Operation.sessionId : Operation Session → Session
  | .registerPrefixHash sessionId _ | .remove sessionId _ | .clearThinkTokens sessionId _ => sessionId

def PrefixIndex.apply (index : PrefixIndex Session) : Operation Session → PrefixIndex Session
  | .registerPrefixHash sessionId blockInfos => index.registerPrefixHash sessionId blockInfos
  | .remove sessionId keyHash => index.remove sessionId keyHash
  | .clearThinkTokens sessionId keyHash => index.clearThinkTokens sessionId keyHash

def run (operations : List (Operation Session)) : PrefixIndex Session :=
  operations.foldl PrefixIndex.apply PrefixIndex.empty

theorem run_concat (operations : List (Operation Session)) (operation : Operation Session) :
    run (operations ++ [operation]) = (run operations).apply operation := by
  simp [run]

/-- What is reported for a session that asks with these blocks. -/
def reports (index : PrefixIndex Session) (sessionId : Session) (blockInfos : List BlockHashInfo) :
    (Nat × Nat) × List (Candidate Session) :=
  let entries := (blockInfos.head?.map fun front => index front.hash).getD []
  (computeMatchedBlocksForSession sessionId blockInfos entries,
    (buildCandidates blockInfos entries).filter (·.sessionId = sessionId))

/-- Every session gets the reports that its own operations lead to. In particular it
gets its own count for blocks that it has just registered, and clearing the counts of
another session changes nothing for it. -/
structure Isolated (operations : List (Operation Session)) : Prop where
  replay : ∀ sessionId blockInfos, reports (run operations) sessionId blockInfos =
    reports (run (operations.filter (·.sessionId = sessionId))) sessionId blockInfos
  registered : ∀ before sessionId blockInfos last,
    operations = before ++ [.registerPrefixHash sessionId blockInfos] →
    blockInfos.getLast? = some last →
    (reports (run operations) sessionId blockInfos).1 =
      (blockInfos.length, last.accumulatedThinkTokens)
  cleared : ∀ before sessionId keyHash other blockInfos,
    operations = before ++ [.clearThinkTokens sessionId keyHash] → other ≠ sessionId →
    reports (run operations) other blockInfos = reports (run before) other blockInfos

def PrefixIndexEntry.blocks (keyHash : UInt64) (entry : PrefixIndexEntry Session) :
    List BlockHashInfo :=
  ⟨keyHash, entry.keyBlockThinkTokens⟩ :: entry.remainingBlocks

/-- An operation that leaves every session with its own counts: an entry is joined only
with the counts that it has, and cleared only for all of its sessions. -/
def KeepsCounts (index : PrefixIndex Session) : Operation Session → Prop
  | .registerPrefixHash _ [] => True
  | .registerPrefixHash sessionId (front :: remaining) =>
    ∀ entry, (withoutSession sessionId (index front.hash)).find?
        (fun entry => remainingHashesMatch entry.remainingBlocks remaining) = some entry →
      entry.blocks front.hash = front :: remaining
  | .remove _ _ => True
  | .clearThinkTokens sessionId keyHash =>
    keyHash ≠ 0 → ∀ entry ∈ index keyHash, sessionId ∈ entry.sessionIds →
      (∀ other ∈ entry.sessionIds, other = sessionId) ∨
      (entry.blocks keyHash).map clearBlock = entry.blocks keyHash

/-- Every operation leaves the counts as they should be. -/
def AllKeepCounts (operations : List (Operation Session)) : Prop :=
  ∀ before operation after, operations = before ++ operation :: after →
    KeepsCounts (run before) operation

/-- The blocks that each session has registered under each key. -/
abbrev Registrations (Session : Type*) := Session → UInt64 → Option (List BlockHashInfo)

def Registrations.apply (registrations : Registrations Session) :
    Operation Session → Registrations Session
  | .registerPrefixHash _ [] => registrations
  | .registerPrefixHash sessionId (front :: remaining) =>
    Function.update registrations sessionId
      (Function.update (registrations sessionId) front.hash (some (front :: remaining)))
  | .remove sessionId keyHash =>
    if keyHash = 0 then registrations
    else Function.update registrations sessionId
      (Function.update (registrations sessionId) keyHash none)
  | .clearThinkTokens sessionId keyHash =>
    if keyHash = 0 then registrations
    else Function.update registrations sessionId
      (Function.update (registrations sessionId) keyHash
        ((registrations sessionId keyHash).map (List.map clearBlock)))

def registered (operations : List (Operation Session)) : Registrations Session :=
  operations.foldl Registrations.apply fun _ _ => none

theorem registered_concat (operations : List (Operation Session)) (operation : Operation Session) :
    registered (operations ++ [operation]) = (registered operations).apply operation := by
  simp [registered]

variable {registrations : Registrations Session} {operation : Operation Session} {keyHash : UInt64}
  {entries : List (PrefixIndexEntry Session)} {other : Session}
  {remaining : List RemainingBlockInfo} {index : PrefixIndex Session}
  {operations : List (Operation Session)} {blockInfos : List BlockHashInfo}
variable {others : List RemainingBlockInfo} {own : Option (List BlockHashInfo)}
  {front : BlockHashInfo}

theorem Registrations.apply_own {others : Registrations Session}
    (same : registrations operation.sessionId = others operation.sessionId) :
    registrations.apply operation operation.sessionId =
      others.apply operation operation.sessionId := by
  cases operation with
  | registerPrefixHash sessionId blockInfos =>
    cases blockInfos with
    | nil => exact same
    | cons front remaining =>
      simp only [Operation.sessionId, Registrations.apply, Function.update_self] at same ⊢
      rw [same]
  | remove sessionId keyHash | clearThinkTokens sessionId keyHash =>
    simp only [Operation.sessionId, Registrations.apply] at same ⊢
    split
    · exact same
    · rw [Function.update_self, Function.update_self, same]

theorem Registrations.apply_other (registrations : Registrations Session) {sessionId : Session}
    (other : operation.sessionId ≠ sessionId) :
    registrations.apply operation sessionId = registrations sessionId := by
  cases operation with
  | registerPrefixHash named blockInfos =>
    cases blockInfos with
    | nil => rfl
    | cons front remaining => exact Function.update_of_ne (Ne.symm other) ..
  | remove named keyHash | clearThinkTokens named keyHash =>
    simp only [Registrations.apply]
    split
    · rfl
    · exact Function.update_of_ne (Ne.symm other) ..

/-- The blocks of the entries that name a session, as often as they name it. -/
def held (keyHash : UInt64) (sessionId : Session) (entries : List (PrefixIndexEntry Session)) :
    List (List BlockHashInfo) :=
  entries.flatMap fun entry =>
    List.replicate (entry.sessionIds.count sessionId) (entry.blocks keyHash)

/-- The entries hold what the sessions have registered. -/
def Holds (index : PrefixIndex Session) (registrations : Registrations Session) : Prop :=
  ∀ keyHash sessionId, held keyHash sessionId (index keyHash) =
    (registrations sessionId keyHash).toList

theorem held_cons (keyHash : UInt64) (sessionId : Session) (entry : PrefixIndexEntry Session)
    (entries : List (PrefixIndexEntry Session)) : held keyHash sessionId (entry :: entries) =
      List.replicate (entry.sessionIds.count sessionId) (entry.blocks keyHash) ++
        held keyHash sessionId entries := by
  rw [held, List.flatMap_cons, held]

theorem mem_held {sessionId : Session} {blocks : List BlockHashInfo} :
    blocks ∈ held keyHash sessionId entries ↔
      ∃ entry ∈ entries, sessionId ∈ entry.sessionIds ∧ entry.blocks keyHash = blocks := by
  simp [held, ← Nat.pos_iff_ne_zero, eq_comm]

theorem withoutSession_cons (sessionId : Session) (entry : PrefixIndexEntry Session)
    (entries : List (PrefixIndexEntry Session)) : withoutSession sessionId (entry :: entries) =
      if entry.sessionIds.filter (· ≠ sessionId) = [] then withoutSession sessionId entries
      else { entry with sessionIds := entry.sessionIds.filter (· ≠ sessionId) } ::
        withoutSession sessionId entries := by
  by_cases gone : entry.sessionIds.filter (· ≠ sessionId) = []
  · rw [if_pos gone, withoutSession, List.map_cons, List.filter_cons_of_neg (by simpa using gone)]
    rfl
  · rw [if_neg gone, withoutSession, List.map_cons, List.filter_cons_of_pos (by simpa using gone)]
    rfl

theorem held_withoutSession_self (keyHash : UInt64) (sessionId : Session)
    (entries : List (PrefixIndexEntry Session)) :
    held keyHash sessionId (withoutSession sessionId entries) = [] := by
  induction entries with
  | nil => rfl
  | cons entry entries ih =>
    rw [withoutSession_cons]
    split
    · exact ih
    · rw [held_cons, ih, List.count_eq_zero_of_not_mem (by simp), List.replicate_zero,
        List.append_nil]

theorem held_withoutSession_other {sessionId : Session} (ne : other ≠ sessionId) (keyHash : UInt64)
    (entries : List (PrefixIndexEntry Session)) :
    held keyHash other (withoutSession sessionId entries) = held keyHash other entries := by
  induction entries with
  | nil => rfl
  | cons entry entries ih =>
    have same : (entry.sessionIds.filter (· ≠ sessionId)).count other =
        entry.sessionIds.count other := List.count_filter (by simpa using ne)
    rw [withoutSession_cons, held_cons, ← same]
    split
    next gone => rw [ih, gone, List.count_nil, List.replicate_zero, List.nil_append]
    next => rw [held_cons, ih]; rfl

theorem held_joinEntry_other {sessionId : Session} (ne : other ≠ sessionId) (keyHash : UInt64)
    (remaining : List RemainingBlockInfo) (keyThinkCount : Nat)
    (entries : List (PrefixIndexEntry Session)) :
    held keyHash other (joinEntry sessionId remaining keyThinkCount entries) =
      held keyHash other entries := by
  have absent : [sessionId].count other = 0 := List.count_eq_zero_of_not_mem (by simpa using ne)
  induction entries with
  | nil => simp only [joinEntry, held_cons, absent, List.replicate_zero, List.nil_append]
  | cons entry entries ih =>
    rw [joinEntry]
    split
    · rw [held_cons, held_cons, List.count_append, absent]
      rfl
    · rw [held_cons, held_cons, ih]

/-- The session holds the blocks of the entry that it joined. -/
theorem held_joinEntry_self {sessionId : Session} {keyThinkCount : Nat}
    (absent : held keyHash sessionId entries = []) :
    held keyHash sessionId (joinEntry sessionId remaining keyThinkCount entries) =
      [((entries.find? fun entry => remainingHashesMatch entry.remainingBlocks remaining).map
        (PrefixIndexEntry.blocks keyHash)).getD (⟨keyHash, keyThinkCount⟩ :: remaining)] := by
  induction entries with
  | nil => simp [joinEntry, held, PrefixIndexEntry.blocks]
  | cons entry entries ih =>
    rw [held_cons, List.append_eq_nil_iff] at absent
    have notHere : entry.sessionIds.count sessionId = 0 := by
      simpa using absent.1
    rw [joinEntry, List.find?_cons]
    cases found : remainingHashesMatch entry.remainingBlocks remaining with
    | true =>
      simp only [↓reduceIte, held_cons, List.count_append, notHere, absent.2, List.append_nil]
      simp [PrefixIndexEntry.blocks]
    | false =>
      simp only [Bool.false_eq_true, ↓reduceIte, held_cons, notHere, List.replicate_zero,
        List.nil_append]
      exact ih absent.2

theorem held_clear_self (keyHash : UInt64) (sessionId : Session)
    (entries : List (PrefixIndexEntry Session)) :
    held keyHash sessionId (entries.map (clearEntry sessionId)) =
      (held keyHash sessionId entries).map (List.map clearBlock) := by
  induction entries with
  | nil => rfl
  | cons entry entries ih =>
    rw [List.map_cons, held_cons, held_cons, List.map_append, ih, List.map_replicate, clearEntry]
    split
    next => rfl
    next absent => rw [List.count_eq_zero_of_not_mem absent, List.replicate_zero, List.replicate_zero]

theorem clearEntry_sessionIds (sessionId : Session) (entry : PrefixIndexEntry Session) :
    (clearEntry sessionId entry).sessionIds = entry.sessionIds := by
  rw [clearEntry]
  split <;> rfl

theorem clearEntry_blocks {sessionId : Session} {entry : PrefixIndexEntry Session}
    (member : sessionId ∈ entry.sessionIds) (keyHash : UInt64) :
    (clearEntry sessionId entry).blocks keyHash = (entry.blocks keyHash).map clearBlock := by
  rw [clearEntry, if_pos member]
  rfl

/-- Clearing leaves the other sessions what they hold when it changes no shared entry. -/
theorem held_clear_other {sessionId : Session} (ne : other ≠ sessionId)
    (kept : ∀ entry ∈ entries, sessionId ∈ entry.sessionIds →
      (∀ other ∈ entry.sessionIds, other = sessionId) ∨
      (entry.blocks keyHash).map clearBlock = entry.blocks keyHash) :
    held keyHash other (entries.map (clearEntry sessionId)) = held keyHash other entries := by
  induction entries with
  | nil => rfl
  | cons entry entries ih =>
    rw [List.forall_mem_cons] at kept
    rw [List.map_cons, held_cons, held_cons, ih kept.2, clearEntry_sessionIds]
    by_cases member : sessionId ∈ entry.sessionIds
    · rw [clearEntry_blocks member]
      rcases kept.1 member with alone | same
      · have absent : other ∉ entry.sessionIds := fun here => ne (alone other here)
        rw [List.count_eq_zero_of_not_mem absent, List.replicate_zero, List.replicate_zero]
      · rw [same]
    · rw [clearEntry, if_neg member]

/-- New entries under a key, of which one session holds something else. -/
theorem Holds.update (holds : Holds index registrations) {sessionId : Session}
    (self : held keyHash sessionId entries = own.toList) (others : ∀ other, other ≠ sessionId →
      held keyHash other entries = held keyHash other (index keyHash)) :
    Holds (Function.update index keyHash entries) (Function.update registrations sessionId
      (Function.update (registrations sessionId) keyHash own)) := by
  intro key session
  by_cases mine : session = sessionId <;> by_cases here : key = keyHash
  · subst mine here
    rw [Function.update_self, Function.update_self, Function.update_self, self]
  · subst mine
    rw [Function.update_of_ne here, Function.update_self, Function.update_of_ne here, holds]
  · subst here
    rw [Function.update_self, Function.update_of_ne mine, others session mine, holds]
  · rw [Function.update_of_ne here, Function.update_of_ne mine, holds]

/-- What the session that registers blocks holds afterwards. -/
theorem held_register (sessionId : Session) (front : BlockHashInfo)
    (remaining : List RemainingBlockInfo) (entries : List (PrefixIndexEntry Session)) :
    held front.hash sessionId (joinEntry sessionId remaining front.accumulatedThinkTokens
      (withoutSession sessionId entries)) =
    [(((withoutSession sessionId entries).find? fun entry =>
      remainingHashesMatch entry.remainingBlocks remaining).map
        (PrefixIndexEntry.blocks front.hash)).getD (front :: remaining)] :=
  held_joinEntry_self (held_withoutSession_self ..)

/-- One operation keeps what the sessions hold when it leaves their counts. -/
theorem Holds.apply (holds : Holds index registrations) (keeps : KeepsCounts index operation) :
    Holds (index.apply operation) (registrations.apply operation) := by
  cases operation with
  | registerPrefixHash sessionId blockInfos =>
    cases blockInfos with
    | nil => exact holds
    | cons front remaining =>
      refine holds.update ?_ fun other ne => ?_
      · rw [buildCallerRemaining, List.tail_cons, held_register]
        cases found : (withoutSession sessionId (index front.hash)).find?
            fun entry => remainingHashesMatch entry.remainingBlocks remaining with
        | none => rfl
        | some entry =>
          rw [Option.map_some, Option.getD_some, keeps entry found]
          rfl
      · rw [held_joinEntry_other ne, held_withoutSession_other ne]
  | remove sessionId keyHash =>
    simp only [PrefixIndex.apply, PrefixIndex.remove, Registrations.apply]
    split
    · exact holds
    · exact holds.update (held_withoutSession_self ..) fun other ne =>
        held_withoutSession_other ne ..
  | clearThinkTokens sessionId keyHash =>
    simp only [PrefixIndex.apply, PrefixIndex.clearThinkTokens, Registrations.apply]
    split
    · exact holds
    next present =>
      refine holds.update ?_ fun other ne => held_clear_other ne (keeps present)
      rw [held_clear_self, holds, Option.toList_map]

/-- All operations that keep the counts, by induction from the last one. -/
theorem holds_run (keeps : AllKeepCounts operations) :
    Holds (run operations) (registered operations) := by
  induction operations using List.reverseRecOn with
  | nil => exact fun _ _ => rfl
  | append_singleton operations operation ih =>
    have earlier : AllKeepCounts operations := fun before middle after split =>
      keeps before middle (after ++ [operation]) (by simp [split])
    rw [run_concat, registered_concat]
    exact (ih earlier).apply (keeps operations operation [] rfl)

/-- Nobody else is named by the entries. -/
def Alone (index : PrefixIndex Session) (sessionId : Session) : Prop :=
  ∀ keyHash, ∀ entry ∈ index keyHash, ∀ other ∈ entry.sessionIds, other = sessionId

theorem Alone.withoutSession {sessionId : Session} (alone : Alone index sessionId)
    (keyHash : UInt64) : withoutSession sessionId (index keyHash) = [] := by
  rw [PrefixCache.withoutSession, List.filter_eq_nil_iff]
  intro entry member
  obtain ⟨before, here, rfl⟩ := List.mem_map.mp member
  simpa using alone keyHash before here

/-- A session that is alone in the index keeps its counts. -/
theorem Alone.keeps (alone : Alone index operation.sessionId) : KeepsCounts index operation := by
  cases operation with
  | registerPrefixHash sessionId blockInfos =>
    cases blockInfos with
    | nil => trivial
    | cons front remaining =>
      have nobody : PrefixCache.withoutSession sessionId (index front.hash) = [] :=
        alone.withoutSession front.hash
      intro entry found
      rw [nobody] at found
      cases found
  | remove => trivial
  | clearThinkTokens sessionId keyHash =>
    exact fun _ entry member _ => .inl (alone keyHash entry member)

theorem Alone.apply (alone : Alone index operation.sessionId) :
    Alone (index.apply operation) operation.sessionId := by
  have update {keyHash : UInt64} {entries : List (PrefixIndexEntry Session)}
      (only : ∀ entry ∈ entries, ∀ other ∈ entry.sessionIds, other = operation.sessionId) :
      Alone (Function.update index keyHash entries) operation.sessionId := by
    intro key
    by_cases here : key = keyHash
    · subst here
      rwa [Function.update_self]
    · rw [Function.update_of_ne here]
      exact alone key
  cases operation with
  | registerPrefixHash sessionId blockInfos =>
    cases blockInfos with
    | nil => exact alone
    | cons front remaining =>
      have nobody : PrefixCache.withoutSession sessionId (index front.hash) = [] :=
        alone.withoutSession front.hash
      refine update ?_
      rw [nobody]
      simp [joinEntry, Operation.sessionId]
  | remove sessionId keyHash =>
    simp only [PrefixIndex.apply, PrefixIndex.remove]
    split
    · exact alone
    · have nobody : PrefixCache.withoutSession sessionId (index keyHash) = [] :=
        alone.withoutSession keyHash
      refine update ?_
      rw [nobody]
      simp
  | clearThinkTokens sessionId keyHash =>
    simp only [PrefixIndex.apply, PrefixIndex.clearThinkTokens]
    split
    · exact alone
    · refine update fun entry member => ?_
      obtain ⟨before, here, rfl⟩ := List.mem_map.mp member
      rw [clearEntry_sessionIds]
      exact alone keyHash before here

/-- The operations of one session leave it alone in the index. -/
theorem alone_run {sessionId : Session}
    (own : ∀ operation ∈ operations, operation.sessionId = sessionId) :
    Alone (run operations) sessionId := by
  induction operations using List.reverseRecOn with
  | nil => exact fun _ _ member => nomatch member
  | append_singleton operations operation ih =>
    have alone := ih fun earlier member => own earlier (by simp [member])
    have last := own operation (by simp)
    subst last
    rw [run_concat]
    exact alone.apply

theorem alone_keepCounts {sessionId : Session}
    (own : ∀ operation ∈ operations, operation.sessionId = sessionId) :
    AllKeepCounts operations := by
  rintro before operation after rfl
  have last := own operation (by simp)
  subst last
  exact (alone_run fun earlier member => own earlier (by simp [member])).keeps

/-- What a session has registered is up to its own operations. -/
theorem registered_own (operations : List (Operation Session)) (sessionId : Session) :
    registered (operations.filter (·.sessionId = sessionId)) sessionId =
      registered operations sessionId := by
  induction operations using List.reverseRecOn with
  | nil => rfl
  | append_singleton operations operation ih =>
    rw [List.filter_append, registered_concat]
    by_cases own : operation.sessionId = sessionId
    · rw [List.filter_cons_of_pos (by simpa using own), List.filter_nil, registered_concat]
      subst own
      exact Registrations.apply_own ih
    · rw [List.filter_cons_of_neg (by simpa using own), List.filter_nil, List.append_nil, ih,
        Registrations.apply_other _ own]

/-- The match of a caller with blocks that are registered. -/
def matchOf (blockInfos own : List BlockHashInfo) : MatchedTokens :=
  countMatchedTokens blockInfos.tail own.tail
    ((own.head?.map BlockHashInfo.accumulatedThinkTokens).getD 0)

/-- The report for a session with these blocks, or none, under the caller's key. -/
def reportFrom (sessionId : Session) (blockInfos : List BlockHashInfo) :
    Option (List BlockHashInfo) → (Nat × Nat) × List (Candidate Session)
  | none => ((0, 0), [])
  | some own =>
    ((1 + (matchOf blockInfos own).matchedBlocks, (matchOf blockInfos own).matchedThinkTokens),
      [{ sessionId
         matchedBlocks := 1 + (matchOf blockInfos own).matchedBlocks
         sessionBlocks := 1 + own.tail.length
         thinkTokens := (matchOf blockInfos own).matchedThinkTokens }])

theorem buildCandidates_held (some : blockInfos ≠ []) (keyHash : UInt64) (sessionId : Session)
    (entries : List (PrefixIndexEntry Session)) :
    (buildCandidates blockInfos entries).filter (·.sessionId = sessionId) =
      (held keyHash sessionId entries).flatMap fun own =>
        (reportFrom sessionId blockInfos (.some own)).2 := by
  rw [buildCandidates, if_neg some]
  induction entries with
  | nil => rfl
  | cons entry entries ih =>
    rw [List.flatMap_cons, List.filter_append, ih, held_cons, List.flatMap_append]
    congr 1
    generalize entry.sessionIds = ids
    induction ids with
    | nil => rfl
    | cons id ids ih =>
      rw [List.map_cons, List.filter_cons, ih, List.count_cons]
      by_cases here : id = sessionId
      · subst here
        simp only [decide_true, ↓reduceIte, BEq.rfl, List.replicate_succ, List.flatMap_cons]
        rfl
      · simp [here]

theorem bestMatch_none {sessionId : Session} (nothing : held keyHash sessionId entries = [])
    (best : Nat × Nat) : entries.foldl (bestMatch sessionId blockInfos) best = best := by
  induction entries generalizing best with
  | nil => rfl
  | cons entry entries ih =>
    rw [held_cons, List.append_eq_nil_iff, List.replicate_eq_nil_iff, List.count_eq_zero] at nothing
    rw [List.foldl_cons, bestMatch, if_neg nothing.1, ih nothing.2]

/-- The best match is the only one. -/
theorem bestMatch_some {sessionId : Session} {own : List BlockHashInfo}
    (only : held keyHash sessionId entries = [own]) :
    entries.foldl (bestMatch sessionId blockInfos) (0, 0) =
      (1 + (matchOf blockInfos own).matchedBlocks, (matchOf blockInfos own).matchedThinkTokens) := by
  induction entries with
  | nil => cases only
  | cons entry entries ih =>
    rw [held_cons] at only
    rw [List.foldl_cons, bestMatch]
    by_cases member : sessionId ∈ entry.sessionIds
    · obtain ⟨more, count⟩ : ∃ more, entry.sessionIds.count sessionId = more + 1 :=
        Nat.exists_eq_add_one.mpr (List.count_pos_iff.mpr member)
      rw [count, List.replicate_succ, List.cons_append, List.cons.injEq,
        List.append_eq_nil_iff] at only
      obtain ⟨rfl, -, nothing⟩ := only
      rw [if_pos member]
      simp only [Nat.add_pos_left, Nat.one_pos, ↓reduceIte]
      exact bestMatch_none nothing _
    · rw [List.count_eq_zero_of_not_mem member, List.replicate_zero, List.nil_append] at only
      rw [if_neg member, ih only]

/-- An index reports what its entries hold. -/
theorem reports_held {sessionId : Session} {remaining : List BlockHashInfo}
    (holds : held front.hash sessionId (index front.hash) = own.toList) :
    reports index sessionId (front :: remaining) =
      reportFrom sessionId (front :: remaining) own := by
  have candidates := buildCandidates_held (List.cons_ne_nil front remaining) front.hash sessionId
    (index front.hash)
  rw [holds] at candidates
  have pair : computeMatchedBlocksForSession sessionId (front :: remaining) (index front.hash) =
      (reportFrom sessionId (front :: remaining) own).1 := by
    rw [computeMatchedBlocksForSession, if_neg (List.cons_ne_nil front remaining)]
    cases own with
    | none => exact bestMatch_none holds _
    | some own => exact bestMatch_some holds
  have listed : (buildCandidates (front :: remaining) (index front.hash)).filter
      (·.sessionId = sessionId) = (reportFrom sessionId (front :: remaining) own).2 := by
    rw [candidates]
    cases own with
    | none => rfl
    | some own => exact List.flatMap_singleton _ _
  rw [reports, List.head?_cons, Option.map_some, Option.getD_some]
  exact Prod.ext pair listed

/-- Blocks with the same hashes and the same matches have the same counts. -/
theorem remaining_eq_of_matches {result : MatchedTokens}
    (same : remaining.map BlockHashInfo.hash = others.map BlockHashInfo.hash)
    (matches_ : ∀ callerRemaining,
      result.count callerRemaining remaining = result.count callerRemaining others) :
    remaining = others := by
  induction remaining generalizing others result with
  | nil =>
    rw [List.map_nil, eq_comm, List.map_eq_nil_iff] at same
    exact same.symm
  | cons block remaining ih =>
    cases others with
    | nil => cases same
    | cons other others =>
      rw [List.map_cons, List.map_cons, List.cons.injEq] at same
      -- a caller that asks for this block alone sees its count
      have count := matches_ [block]
      simp only [MatchedTokens.count, ↓reduceIte, same.1, MatchedTokens.mk.injEq, true_and] at count
      obtain rfl : block = other := by
        cases block
        cases other
        simp_all
      have later (callerRemaining : List RemainingBlockInfo) :
          MatchedTokens.count { matchedBlocks := result.matchedBlocks + 1
                                matchedThinkTokens := block.accumulatedThinkTokens }
            callerRemaining remaining =
          MatchedTokens.count { matchedBlocks := result.matchedBlocks + 1
                                matchedThinkTokens := block.accumulatedThinkTokens }
            callerRemaining others := by
        simpa only [MatchedTokens.count, ↓reduceIte] using matches_ (block :: callerRemaining)
      rw [ih same.2 later]

omit [DecidableEq Session] in
theorem blocks_eq_of_reports (sessionId : Session) {other : BlockHashInfo}
    (key : front.hash = other.hash)
    (same : remaining.map BlockHashInfo.hash = others.map BlockHashInfo.hash)
    (equal : ∀ callerRemaining,
      reportFrom sessionId (front :: callerRemaining) (some (front :: remaining)) =
        reportFrom sessionId (front :: callerRemaining) (some (other :: others))) :
    front :: remaining = other :: others := by
  have matches_ (callerRemaining : List RemainingBlockInfo) :
      countMatchedTokens callerRemaining remaining front.accumulatedThinkTokens =
        countMatchedTokens callerRemaining others other.accumulatedThinkTokens := by
    have pair := congrArg Prod.fst (equal callerRemaining)
    simp only [reportFrom, Prod.mk.injEq, Nat.add_left_cancel_iff] at pair
    cases left : countMatchedTokens callerRemaining remaining front.accumulatedThinkTokens
    cases right : countMatchedTokens callerRemaining others other.accumulatedThinkTokens
    simp_all [matchOf]
  have count := congrArg MatchedTokens.matchedThinkTokens (matches_ [])
  simp only [countMatchedTokens, MatchedTokens.count] at count
  obtain rfl : front = other := by
    cases front
    cases other
    simp_all
  rw [remaining_eq_of_matches same matches_]

theorem AllKeepCounts.before {more : List (Operation Session)}
    (keeps : AllKeepCounts (operations ++ more)) : AllKeepCounts operations :=
  fun before middle after split => keeps before middle (after ++ more) (by simp [split])

/-- Reports are about what the session has registered. -/
theorem reports_registered (keeps : AllKeepCounts operations) (sessionId : Session)
    (front : BlockHashInfo) (remaining : List BlockHashInfo) :
    reports (run operations) sessionId (front :: remaining) =
      reportFrom sessionId (front :: remaining) (registered operations sessionId front.hash) :=
  reports_held (holds_run keeps ..)

/-- The match of blocks with themselves. -/
theorem count_self (result : MatchedTokens) (blocks : List RemainingBlockInfo) :
    result.count blocks blocks = {
      matchedBlocks := result.matchedBlocks + blocks.length
      matchedThinkTokens := (blocks.getLast?.map BlockHashInfo.accumulatedThinkTokens).getD
        result.matchedThinkTokens } := by
  induction blocks generalizing result with
  | nil => rfl
  | cons block blocks ih =>
    rw [MatchedTokens.count, if_pos rfl, ih, List.length_cons, List.getLast?_cons]
    have length : result.matchedBlocks + 1 + blocks.length =
        result.matchedBlocks + (blocks.length + 1) := by omega
    cases blocks.getLast? <;> simp [length]

theorem replay_of_keepCounts (keeps : AllKeepCounts operations) (sessionId : Session)
    (blockInfos : List BlockHashInfo) :
    reports (run operations) sessionId blockInfos =
      reports (run (operations.filter (·.sessionId = sessionId))) sessionId blockInfos := by
  cases blockInfos with
  | nil => rfl
  | cons front remaining =>
    have own : ∀ operation ∈ operations.filter (·.sessionId = sessionId),
        operation.sessionId = sessionId := by
      intro operation member
      simpa using (List.mem_filter.mp member).2
    rw [reports_registered keeps, reports_registered (alone_keepCounts own), registered_own]

/-- Every session gets its own reports when all operations keep the counts. -/
theorem isolated_of_keepCounts (keeps : AllKeepCounts operations) : Isolated operations where
  replay := replay_of_keepCounts keeps
  registered := by
    rintro before sessionId blockInfos last rfl atEnd
    cases blockInfos with
    | nil => cases atEnd
    | cons front remaining =>
      have own : registered (before ++ [.registerPrefixHash sessionId (front :: remaining)])
          sessionId front.hash = some (front :: remaining) := by
        simp [registered_concat, Registrations.apply]
      rw [List.getLast?_cons, Option.some.injEq] at atEnd
      rw [reports_registered keeps, own, reportFrom, matchOf, List.tail_cons, List.head?_cons,
        Option.map_some, Option.getD_some, countMatchedTokens, count_self, ← atEnd]
      cases remaining.getLast? <;> simp [Nat.add_comm]
  cleared := by
    rintro before sessionId keyHash other blockInfos rfl ne
    cases blockInfos with
    | nil => rfl
    | cons front remaining =>
      rw [reports_registered keeps, reports_registered keeps.before, registered_concat,
        Registrations.apply_other _ (Ne.symm ne)]

theorem held_clear_length (keyHash : UInt64) (sessionId other : Session)
    (entries : List (PrefixIndexEntry Session)) :
    (held keyHash other (entries.map (clearEntry sessionId))).length =
      (held keyHash other entries).length := by
  induction entries with
  | nil => rfl
  | cons entry entries ih =>
    rw [List.map_cons, held_cons, held_cons, List.length_append, List.length_append, ih,
      List.length_replicate, List.length_replicate, clearEntry_sessionIds]

section Converse
variable {operations : List (Operation Session)} {operation : Operation Session}

/-- After an operation a session holds something, and it reports what it registered. -/
theorem reports_after (isolated : Isolated (operations ++ [operation])) (sessionId : Session)
    {front other : BlockHashInfo} {remaining others : List RemainingBlockInfo}
    (holds : held front.hash sessionId ((run operations).apply operation front.hash) =
      [front :: remaining])
    (own : (registered operations).apply operation sessionId front.hash = some (other :: others))
    (key : front.hash = other.hash)
    (same : remaining.map BlockHashInfo.hash = others.map BlockHashInfo.hash) :
    front :: remaining = other :: others := by
  refine blocks_eq_of_reports sessionId key same fun callerRemaining => ?_
  have report := isolated.replay sessionId (front :: callerRemaining)
  have named : ∀ own ∈ (operations ++ [operation]).filter (·.sessionId = sessionId),
      own.sessionId = sessionId := fun own member => by simpa using (List.mem_filter.mp member).2
  have alone := holds_run (alone_keepCounts named) front.hash sessionId
  rw [registered_own, registered_concat, own] at alone
  have shared : held front.hash sessionId ((run operations).apply operation front.hash) =
      (some (front :: remaining)).toList := holds
  rw [run_concat, reports_held shared, reports_held alone] at report
  exact report

/-- An operation after which sessions are isolated has kept their counts. -/
theorem keepsCounts_of_isolated (holds : Holds (run operations) (registered operations))
    (isolated : Isolated (operations ++ [operation])) : KeepsCounts (run operations) operation := by
  cases operation with
  | registerPrefixHash sessionId blockInfos =>
    cases blockInfos with
    | nil => trivial
    | cons front remaining =>
      intro entry found
      refine reports_after isolated sessionId (show held front.hash sessionId _ =
        [⟨front.hash, entry.keyBlockThinkTokens⟩ :: entry.remainingBlocks] from ?_) ?_ rfl ?_
      · simp only [PrefixIndex.apply, PrefixIndex.registerPrefixHash, Function.update_self,
          buildCallerRemaining, List.tail_cons]
        rw [held_register, found]
        rfl
      · simp [Registrations.apply]
      · simpa [remainingHashesMatch] using List.find?_some found
  | remove => trivial
  | clearThinkTokens sessionId keyHash =>
    intro present entry member named
    by_cases alone : ∀ other ∈ entry.sessionIds, other = sessionId
    · exact .inl alone
    · right
      obtain ⟨other, shares, ne⟩ : ∃ other ∈ entry.sessionIds, other ≠ sessionId := by
        simpa using alone
      have before : entry.blocks keyHash ∈ held keyHash other (run operations keyHash) :=
        mem_held.mpr ⟨entry, member, shares, rfl⟩
      rw [holds, Option.mem_toList] at before
      have after : (entry.blocks keyHash).map clearBlock ∈
          held keyHash other ((run operations keyHash).map (clearEntry sessionId)) :=
        mem_held.mpr ⟨clearEntry sessionId entry, List.mem_map_of_mem member,
          by rwa [clearEntry_sessionIds], clearEntry_blocks named keyHash⟩
      have one := held_clear_length keyHash sessionId other (run operations keyHash)
      rw [holds, before, Option.toList_some, List.length_singleton] at one
      obtain ⟨blocks, only⟩ := List.length_eq_one_iff.mp one
      rw [only, List.mem_singleton] at after
      have cleared : held keyHash other
          ((run operations).apply (.clearThinkTokens sessionId keyHash) keyHash) =
          [⟨keyHash, 0⟩ :: entry.remainingBlocks.map clearBlock] := by
        simp only [PrefixIndex.apply, PrefixIndex.clearThinkTokens, present, ↓reduceIte,
          Function.update_self]
        rw [only, ← after]
        rfl
      have own : (registered operations).apply (.clearThinkTokens sessionId keyHash) other keyHash =
          some (⟨keyHash, entry.keyBlockThinkTokens⟩ :: entry.remainingBlocks) := by
        rw [Registrations.apply_other _ (Ne.symm ne)]
        exact before
      have equal : (⟨keyHash, 0⟩ :: entry.remainingBlocks.map clearBlock : List BlockHashInfo) =
          ⟨keyHash, entry.keyBlockThinkTokens⟩ :: entry.remainingBlocks :=
        reports_after isolated other cleared own rfl (by rw [List.map_map]; rfl)
      exact equal

end Converse

/-- Sessions are isolated in every state of a run when every operation keeps the counts
of the sessions that share an entry. -/
theorem sessions_isolated (operations : List (Operation Session)) :
    (∀ before, before <+: operations → Isolated before) ↔ AllKeepCounts operations := by
  constructor
  · intro isolated
    induction operations using List.reverseRecOn with
    | nil => exact fun before middle after split => by simp at split
    | append_singleton operations operation ih =>
      have keeps := ih fun before earlier =>
        isolated before (earlier.trans (List.prefix_append operations [operation]))
      intro before middle after split
      rcases List.eq_nil_or_concat after with rfl | ⟨later, last, rfl⟩
      · obtain ⟨rfl, same⟩ := List.append_inj' split rfl
        obtain rfl : operation = middle := by simpa using same
        exact keepsCounts_of_isolated (holds_run keeps) (isolated _ List.prefix_rfl)
      · rw [List.concat_eq_append, ← List.cons_append, ← List.append_assoc] at split
        exact keeps before middle later (List.append_inj' split rfl).1
  · rintro keeps before ⟨after, rfl⟩
    exact isolated_of_keepCounts keeps.before

/-- Two sessions with the same hashes and other counts. -/
def sharedEntry : List (Operation Nat) :=
  [.registerPrefixHash 0 [⟨1, 0⟩, ⟨2, 3⟩], .registerPrefixHash 1 [⟨1, 0⟩, ⟨2, 7⟩]]

/-- The second session gets the counts of the first. -/
theorem sessions_not_isolated : ¬∀ operations : List (Operation Nat), Isolated operations := by
  intro claim
  have report := (claim sharedEntry).replay 1 [⟨1, 0⟩, ⟨2, 7⟩]
  revert report
  decide

end InferenceServer.PrefixCache
