import InferenceServer.Sessions.SlotRows

/-! What calls of the session manager do to the slots of sessions, to the blocks that are marked
resident, and to the hashes that are registered. Most of them keep all three, or take away. -/
namespace InferenceServer.Sessions
open Machine PrefixCache Pipeline

/-- No session is new or has another slot or more resident blocks. -/
def Spares (before after : SessionManager) : Prop :=
  ∀ sessionId later, after.sessions.lookup sessionId = some later →
    ∃ earlier, before.sessions.lookup sessionId = some earlier ∧
      later.slotId = earlier.slotId ∧ later.committedBlocks ≤ earlier.committedBlocks

theorem Spares.refl (manager : SessionManager) : Spares manager manager :=
  fun _ later found => ⟨later, found, rfl, Nat.le_refl _⟩

theorem Spares.modify {change : Session → Session}
    (slot : ∀ session, (change session).slotId = session.slotId)
    (fewer : ∀ session, (change session).committedBlocks ≤ session.committedBlocks)
    (manager : SessionManager) (sessionId : String) :
    Spares manager (manager.modify sessionId change) := by
  intro other later found
  rw [SessionManager.modify, Table.lookup_modify] at found
  split at found
  · rename_i own
    obtain ⟨earlier, present, rfl⟩ := Option.map_eq_some_iff.mp found
    exact ⟨earlier, own ▸ present, slot earlier, fewer earlier⟩
  · exact ⟨later, found, rfl, Nat.le_refl _⟩

theorem Spares.trans {before middle after : SessionManager} (first : Spares before middle)
    (second : Spares middle after) : Spares before after := by
  intro sessionId later found
  obtain ⟨session, between, slot, fewer⟩ := second sessionId later found
  obtain ⟨earlier, present, same, fewest⟩ := first sessionId session between
  exact ⟨earlier, present, slot.trans same, Nat.le_trans fewer fewest⟩

/-- Nor is anything more registered. At most one allocation is new. -/
structure Keeps (added : Option String) (before after : SessionManager) : Prop where
  sessions : Spares before after
  registered : ∀ sessionId hashes, after.prefixIndex.Registered sessionId hashes →
    before.prefixIndex.Registered sessionId hashes
  allocations : ∀ sessionId, after.allocations.lookup sessionId ≠ none →
    before.allocations.lookup sessionId ≠ none ∨ sessionId ∈ added

namespace Keeps

variable {added : Option String} {before middle after manager : SessionManager}
variable {sessionId : String}

theorem refl (manager : SessionManager) : Keeps added manager manager where
  sessions := .refl _
  registered _ _ := id
  allocations _ := .inl

theorem trans (first : Keeps added before middle) (second : Keeps added middle after) :
    Keeps added before after where
  sessions := first.sessions.trans second.sessions
  registered sessionId hashes registered :=
    first.registered sessionId hashes (second.registered sessionId hashes registered)
  allocations sessionId waits := by
    rcases second.allocations sessionId waits with earlier | new
    · exact first.allocations sessionId earlier
    · exact .inr new

theorem of_eq (sessions : after.sessions = before.sessions)
    (prefixIndex : after.prefixIndex = before.prefixIndex)
    (allocations : after.allocations = before.allocations) : Keeps added before after where
  sessions _ later found := ⟨later, sessions ▸ found, rfl, Nat.le_refl _⟩
  registered _ _ registered := prefixIndex ▸ registered
  allocations _ waits := .inl (allocations ▸ waits)

section Parts

theorem modify {change : Session → Session}
    (slot : ∀ session, (change session).slotId = session.slotId)
    (fewer : ∀ session, (change session).committedBlocks ≤ session.committedBlocks)
    (manager : SessionManager) (sessionId : String) :
    Keeps added manager (manager.modify sessionId change) where
  sessions := .modify slot fewer manager sessionId
  registered _ _ := id
  allocations _ := .inl

theorem markInFlight (manager : SessionManager) (sessionId : String) :
    Keeps added manager (manager.modify sessionId Session.markInFlight) := by
  have kept (session : Session) : session.markInFlight.slotId = session.slotId ∧
      session.markInFlight.committedBlocks = session.committedBlocks := by
    rw [Session.markInFlight]
    split <;> exact ⟨rfl, rfl⟩
  exact modify (fun session => (kept session).1) (fun session => (kept session).2.le) manager
    sessionId

theorem releaseInFlight (manager : SessionManager) (sessionId : String) :
    Keeps added manager (manager.releaseInFlight sessionId) := by
  have kept (session : Session) : session.clearInFlight.slotId = session.slotId ∧
      session.clearInFlight.committedBlocks = session.committedBlocks := by
    rw [Session.clearInFlight]
    split <;> exact ⟨rfl, rfl⟩
  exact modify (fun session => (kept session).1) (fun session => (kept session).2.le) manager
    sessionId

theorem shrink (config : SessionConfig) (manager : SessionManager) (sessionId : String)
    (matchedTokens : Nat) : Keeps added manager
      (manager.shrinkResidentPrefixToMatchedTokens config sessionId matchedTokens) := by
  refine modify (fun session => ?_) (fun session => ?_) manager sessionId
  · rw [Session.shrinkCommittedBlocks]
    split <;> rfl
  · rw [Session.shrinkCommittedBlocks]
    split
    · rename_i less
      exact Nat.le_of_lt less
    · exact Nat.le_refl _

theorem initTokenAccumulator (manager : SessionManager) (sessionId : String) :
    Keeps added manager
      (manager.modify sessionId fun session => { session with beingGenerated := true }) := by
  refine modify ?_ ?_ manager sessionId
  · exact fun _ => rfl
  · exact fun _ => Nat.le_refl _

theorem setResponseId (manager : SessionManager) (sessionId responseId : String) :
    Keeps added manager (manager.modify sessionId fun session => { session with responseId }) := by
  refine modify ?_ ?_ manager sessionId
  · exact fun _ => rfl
  · exact fun _ => Nat.le_refl _

theorem removePrefix (manager : SessionManager) (sessionId : String) (keyHash : UInt64) :
    Keeps added manager
      { manager with prefixIndex := manager.prefixIndex.remove sessionId keyHash } where
  sessions := .refl _
  registered _ _ := IndexMap.registered_remove
  allocations _ := .inl

theorem clearThinkTokens (manager : SessionManager) (sessionId : String) :
    Keeps added manager (manager.clearSessionBlockThinkTokens sessionId) := by
  rw [SessionManager.clearSessionBlockThinkTokens]
  split
  · exact refl manager
  · exact ⟨.refl _, fun _ _ => IndexMap.registered_clear, fun _ => .inl⟩

theorem removeResponseId (manager : SessionManager) (sessionId id : String) :
    Keeps added manager (manager.removeResponseId sessionId id) := by
  rw [SessionManager.removeResponseId]
  split
  · exact of_eq rfl rfl rfl
  · exact refl manager

theorem registerResponseId (manager : SessionManager) (sessionId responseId : String) :
    Keeps added manager (manager.registerResponseId sessionId responseId) := by
  rw [SessionManager.registerResponseId]
  split
  · exact refl manager
  · exact (setResponseId manager sessionId responseId).trans (of_eq rfl rfl rfl)

theorem updateResponseId (manager : SessionManager) (previousResponseId responseId : String) :
    Keeps added manager (manager.updateResponseId previousResponseId responseId) := by
  rw [SessionManager.updateResponseId]
  split
  · exact refl manager
  · split
    · exact refl manager
    · rename_i sessionId _
      exact (setResponseId manager sessionId responseId).trans (of_eq rfl rfl rfl)

theorem lockSlot (manager : SessionManager) (slotId : Option UInt32) :
    Keeps added manager (slotId.elim manager manager.lockSlot) := by
  cases slotId with
  | none => exact refl manager
  | some slotId => exact of_eq rfl rfl rfl

end Parts

section Closing

theorem takeOut (manager : SessionManager) (sessionId : String) (session : Session) :
    Keeps added manager (manager.takeOut sessionId session) := by
  rw [takeOut_eq]
  refine ⟨fun other later found => ⟨later, ?_, rfl, Nat.le_refl _⟩,
    fun _ _ => IndexMap.registered_remove, fun _ => .inl⟩
  exact Table.mem_entries.mp (Table.mem_entries_erase (Table.mem_entries.mpr found))

theorem closeSession (manager : SessionManager) (sessionId : String) :
    Keeps added manager (manager.closeSession sessionId) := by
  rw [SessionManager.closeSession]
  split
  · exact refl manager
  · exact takeOut manager sessionId _

theorem evictSession (manager : SessionManager) (sessionId : String) :
    Keeps added manager (manager.evictSession sessionId) := by
  rw [SessionManager.evictSession]
  split
  · exact refl manager
  · split
    · exact takeOut manager sessionId _
    · exact refl manager

theorem evictOldSessions (config : SessionConfig) (manager : SessionManager)
    (leastRecent : List String) :
    Keeps added manager (manager.evictOldSessions config leastRecent) := by
  rw [SessionManager.evictOldSessions]
  split
  · exact refl manager
  · refine List.foldlRecOn _ _ (refl manager) fun evicted kept sessionId _ => ?_
    exact kept.trans (evictSession evicted sessionId)

end Closing

section Acquiring

theorem mark (manager : SessionManager) (sessionId : String) (expectedKeyHash : Option UInt64)
    (expectedResponseId : Option String) : Keeps added manager
      (manager.tryMarkInFlight sessionId expectedKeyHash expectedResponseId).1 := by
  have spec := tryMarkInFlight_spec manager sessionId expectedKeyHash expectedResponseId
  generalize manager.tryMarkInFlight sessionId expectedKeyHash expectedResponseId = marks at spec ⊢
  cases spec with
  | notFound | stale | busy => exact refl manager
  | marked => exact markInFlight manager sessionId

theorem acquireInFlight (manager : SessionManager) (sessionId : String) :
    Keeps added manager (manager.acquireInFlight sessionId).1 := by
  rcases acquireInFlight_fst manager sessionId with same | marked
  · rw [same]
    exact refl manager
  · rw [marked]
    exact markInFlight manager sessionId

theorem acquireCandidate (config : SessionConfig) (keyHash : UInt64) (manager : SessionManager)
    (candidates : List (Candidate String)) :
    Keeps added manager (manager.acquireCandidate config keyHash candidates).1 := by
  induction candidates generalizing manager with
  | nil => exact refl manager
  | cons candidate candidates ih =>
    rw [SessionManager.acquireCandidate]
    split
    · have marked : Keeps added _ _ := mark manager candidate.sessionId (some keyHash) none
      split
      · rename_i both
        rw [both] at marked
        exact marked
      · exact ih manager
      · exact (removePrefix manager candidate.sessionId keyHash).trans (ih _)
    · exact ih manager

theorem tryAcquireByPrefixHash (config : SessionConfig) (manager : SessionManager)
    (blockInfos : List BlockHashInfo) :
    Keeps added manager (manager.tryAcquireByPrefixHash config blockInfos).1 := by
  cases blockInfos with
  | nil => exact refl manager
  | cons front remaining =>
    rw [SessionManager.tryAcquireByPrefixHash]
    split
    · exact refl manager
    · exact acquireCandidate config front.hash manager _

theorem tryAcquireByResponseId (manager : SessionManager) (previousResponseId : String) :
    Keeps added manager (manager.tryAcquireByResponseId previousResponseId).1 := by
  have spec := tryAcquireByResponseId_spec manager previousResponseId
  generalize manager.tryAcquireByResponseId previousResponseId = result at spec ⊢
  cases spec with
  | hit => exact markInFlight manager _
  | inFlight | unknown => exact refl manager
  | stale => exact removeResponseId manager _ _

end Acquiring

section Allocating

theorem place (listed : manager.allocations.lookup sessionId ≠ none ∨ sessionId ∈ added)
    (allocation : PendingAllocation) (stage : Stage) :
    Keeps added manager (manager.place sessionId allocation stage) where
  sessions := .refl _
  registered _ _ := id
  allocations other waits := by
    by_cases own : other = sessionId
    · exact own ▸ listed
    · exact .inl ((AList.lookup_insert_ne own) ▸ waits)

theorem retryOrFail (listed : manager.allocations.lookup sessionId ≠ none ∨ sessionId ∈ added)
    (allocation : PendingAllocation) :
    Keeps added manager (manager.retryOrFail sessionId allocation) := by
  rw [SessionManager.retryOrFail]
  split
  · exact place listed allocation _
  · exact place listed _ _

theorem sendAsyncAllocationRequest
    (listed : manager.allocations.lookup sessionId ≠ none ∨ sessionId ∈ added)
    (config : SessionConfig) (allocation : PendingAllocation) (queueFull : Bool) :
    Keeps added manager
      (manager.sendAsyncAllocationRequest config sessionId allocation queueFull) := by
  rw [SessionManager.sendAsyncAllocationRequest]
  split
  · exact retryOrFail listed allocation
  · exact place listed allocation _

variable (config : SessionConfig)

theorem createSession (manager : SessionManager) (creation : Creation)
    (initialBlockInfos : List BlockHashInfo) (slotIdToCopyFrom : Option UInt32) (caller : Caller) :
    Keeps (some creation.sessionId) manager
      (manager.createSession config creation initialBlockInfos slotIdToCopyFrom caller) :=
  (evictOldSessions config manager creation.leastRecent).trans
    (sendAsyncAllocationRequest (.inr rfl) config _ _)

theorem allocate (manager : SessionManager) (creation : Creation)
    (initialBlockInfos : List BlockHashInfo) (plan : Option SlotCopyPlan) (caller : Nat → Caller) :
    Keeps (some creation.sessionId) manager
      (manager.allocate config creation initialBlockInfos plan caller) :=
  (lockSlot manager _).trans (createSession config _ creation initialBlockInfos _ _)

theorem retryFailedAllocation (manager : SessionManager) (sessionId : String) (queueFull : Bool) :
    Keeps added manager (manager.retryFailedAllocation config sessionId queueFull) := by
  rw [SessionManager.retryFailedAllocation]
  cases found : manager.allocations.lookup sessionId with
  | none => exact refl manager
  | some allocation =>
    have listed : manager.allocations.lookup sessionId ≠ none := by simp [found]
    simp only
    split
    · exact sendAsyncAllocationRequest (.inl listed) config allocation queueFull
    · exact refl manager

theorem finishAllocation (manager : SessionManager) (sessionId : String)
    (slotIdToCopyFrom : Option UInt32) :
    Keeps added manager (manager.finishAllocation sessionId slotIdToCopyFrom) where
  sessions := .refl _
  registered _ _ := id
  allocations other waits := by
    refine .inl fun absent => waits ?_
    by_cases own : other = sessionId
    · rw [SessionManager.finishAllocation, own, AList.lookup_erase]
    · rw [SessionManager.finishAllocation, AList.lookup_erase_ne own, absent]

end Allocating

end Keeps

section Registering

variable {manager : SessionManager} {sessionId other : String} {session : Session}
variable {hashes : List UInt64}

theorem Sound.registered_present (sound : Sound True manager)
    (registered : manager.prefixIndex.Registered sessionId hashes) :
    manager.sessions.lookup sessionId ≠ none := by
  intro absent
  obtain ⟨keyHash, positive⟩ := registered.listed
  have own := (sound.listed trivial keyHash sessionId positive).2
  rw [SessionManager.keysOf, absent] at own
  cases own

/-- A session that registers blocks has no others. -/
theorem registered_registerPrefixHash (sound : Sound True manager)
    (found : manager.sessions.lookup sessionId = some session) {front : BlockHashInfo}
    {remaining : List BlockHashInfo} {clearBeingGenerated : Bool}
    (registered : (manager.registerPrefixHash sessionId (front :: remaining)
      clearBeingGenerated).prefixIndex.Registered other hashes) :
    if other = sessionId then hashes = blockHashes (front :: remaining)
    else manager.prefixIndex.Registered other hashes := by
  obtain ⟨key, blocks, member, same⟩ := registered
  have positive := (List.length_pos_of_mem member).ne'
  have count := count_registerPrefixHash sound trivial found front remaining clearBeingGenerated key
    other
  rw [IndexMap.count] at count
  rw [count] at positive
  simp only [SessionManager.registerPrefixHash, found] at member
  have listed := IndexMap.held_registerPrefixHash member
  by_cases own : other = sessionId
  · rw [if_pos own] at positive ⊢
    have here : key = front.hash := by
      by_contra elsewhere
      exact positive (if_neg elsewhere)
    rw [if_pos ⟨here, own⟩] at listed
    exact same ▸ listed
  · rw [if_neg fun both => own both.2] at listed
    rw [if_neg own]
    split at listed
    · exact IndexMap.registered_remove ⟨key, blocks, listed, same⟩
    · exact ⟨key, blocks, listed, same⟩

theorem Spares.registerPrefixHash (manager : SessionManager) (sessionId : String)
    (blockInfos : List BlockHashInfo) (clearBeingGenerated : Bool) :
    Spares manager (manager.registerPrefixHash sessionId blockInfos clearBeingGenerated) := by
  unfold SessionManager.registerPrefixHash
  split
  · refine Spares.modify ?_ ?_ manager sessionId
    · exact fun _ => rfl
    · exact fun _ => Nat.le_refl _
  · exact .refl manager

/-- What the session that is registered has in common with the prompt. -/
theorem Sound.matchedBlocks (sound : Sound True manager) (sessionId : String)
    (blocks : List BlockHashInfo) : manager.matchedBlocks sessionId blocks = 0 ∨
      ∃ own, manager.prefixIndex.Registered sessionId own ∧
        manager.matchedBlocks sessionId blocks = commonPrefix (blockHashes blocks) own := by
  cases blocks with
  | nil => exact .inl rfl
  | cons front remaining =>
    rw [SessionManager.matchedBlocks]
    cases listed : held front.hash sessionId (manager.prefixIndex.entries front.hash) with
    | nil => exact .inl (computeMatchedBlocks_none listed)
    | cons own others =>
      have once := sound.once trivial front.hash sessionId
      rw [IndexMap.count, listed, List.length_cons] at once
      obtain rfl : others = [] := List.length_eq_zero_iff.mp (by omega)
      refine .inr ⟨blockHashes own, ⟨front.hash, own, ?_, rfl⟩, computeMatchedBlocks_held listed⟩
      rw [listed]
      exact List.mem_singleton_self own

/-- A candidate is credited with what it has in common with the prompt. -/
theorem Sound.candidate (sound : Sound True manager) {config : SessionConfig}
    {blocks : List BlockHashInfo} {candidate : Candidate String}
    (member : candidate ∈ manager.candidatesFor config blocks) :
    candidate.matchedBlocks = manager.matchedBlocks candidate.sessionId blocks ∧
      ∃ own, manager.prefixIndex.Registered candidate.sessionId own ∧
        candidate.matchedBlocks = commonPrefix (blockHashes blocks) own := by
  cases blocks with
  | nil => cases member
  | cons front remaining =>
    obtain ⟨own, listed, credited⟩ := candidate_held ((config.perm _).mem_iff.mp member)
    refine ⟨credited.trans ?_, blockHashes own, ⟨front.hash, own, listed, rfl⟩, credited⟩
    have once := sound.once trivial front.hash candidate.sessionId
    obtain ⟨blocks, only⟩ := List.length_eq_one_iff.mp
      (Nat.le_antisymm once (List.length_pos_of_mem listed))
    rw [only] at listed
    rw [SessionManager.matchedBlocks, computeMatchedBlocks_held only, List.mem_singleton.mp listed]

end Registering

/-- A request has got a session: the hashes of its prompt are registered, and no more blocks are
resident than it takes to be there. -/
structure Starts (before after : SessionManager) (turn : SlotTurn) : Prop where
  sessions : Spares before after
  slot : ∀ earlier, before.sessions.lookup turn.sessionId = some earlier →
    earlier.slotId = turn.slotId
  gone : before.sessions.lookup turn.sessionId = none → turn.slotId = invalidSlotId
  fewer : ∀ later, after.sessions.lookup turn.sessionId = some later →
    later.committedBlocks ≤ turn.credited
  others : ∀ sessionId hashes, sessionId ≠ turn.sessionId →
    after.prefixIndex.Registered sessionId hashes → before.prefixIndex.Registered sessionId hashes
  registered : ∀ hashes, after.prefixIndex.Registered turn.sessionId hashes →
    blockHashes turn.blocks <+: hashes
  agrees : ∀ later hashes, after.sessions.lookup turn.sessionId = some later →
    after.prefixIndex.Registered turn.sessionId hashes → later.committedBlocks ≠ 0 →
    ∃ earlier, before.prefixIndex.Registered turn.sessionId earlier ∧
      hashes.take later.committedBlocks = earlier.take later.committedBlocks
  allocations : ∀ sessionId, after.allocations.lookup sessionId ≠ none →
    before.allocations.lookup sessionId ≠ none

section Starting

variable {before acquired after : SessionManager} {sessionId : String} {session : Session}
variable {blocks : List BlockHashInfo} {credited : Nat} {clearBeingGenerated : Bool}

/-- A session that is there has registered the blocks, and has kept what it has in common with
them. -/
theorem Starts.of_found (keeps : Keeps none before acquired) (sound : Sound True acquired)
    (found : acquired.sessions.lookup sessionId = some session)
    (later : Keeps none (acquired.registerPrefixHash sessionId blocks clearBeingGenerated) after)
    (fewer : ∀ later, after.sessions.lookup sessionId = some later →
      later.committedBlocks ≤ credited)
    (agrees : ∀ later, after.sessions.lookup sessionId = some later → later.committedBlocks ≠ 0 →
      ∃ own, before.prefixIndex.Registered sessionId own ∧
        (blockHashes blocks).take later.committedBlocks = own.take later.committedBlocks) :
    Starts before after { sessionId, slotId := session.slotId, blocks, credited } := by
  have spares : Spares acquired after :=
    (Spares.registerPrefixHash acquired sessionId blocks clearBeingGenerated).trans later.sessions
  have registered (other : String) (hashes : List UInt64)
      (listed : after.prefixIndex.Registered other hashes) :
      acquired.prefixIndex.Registered other hashes ∧ (other = sessionId → blocks = []) ∨
        other = sessionId ∧ hashes = blockHashes blocks := by
    have earlier := later.registered other hashes listed
    cases blocks with
    | nil => exact .inl ⟨earlier, fun _ => rfl⟩
    | cons front remaining =>
      have spec := registered_registerPrefixHash sound found earlier
      split at spec
      · rename_i own
        exact .inr ⟨own, spec⟩
      · rename_i different
        exact .inl ⟨spec, fun own => absurd own different⟩
  obtain ⟨first, there, slot, -⟩ := keeps.sessions sessionId session found
  refine ⟨keeps.sessions.trans spares, fun earlier same => ?_,
    fun gone => (by rw [there] at gone; cases gone), fewer, fun other hashes different listed => ?_,
    fun hashes listed => ?_, fun last hashes there listed positive => ?_, fun other waits => ?_⟩
  · exact Option.some.inj (there.symm.trans same) ▸ slot.symm
  · rcases registered other hashes listed with ⟨kept, -⟩ | ⟨own, -⟩
    · exact keeps.registered other hashes kept
    · exact absurd own different
  · rcases registered sessionId hashes listed with ⟨-, empty⟩ | ⟨-, same⟩
    · rw [empty rfl]
      exact List.nil_prefix
    · rw [same]
  · rcases registered sessionId hashes listed with ⟨kept, -⟩ | ⟨-, same⟩
    · exact ⟨hashes, keeps.registered sessionId hashes kept, rfl⟩
    · rw [same]
      exact agrees last there positive
  · rcases later.allocations other waits with waited | none
    · rw [allocations_registerPrefixHash] at waited
      exact (keeps.allocations other waited).elim id nofun
    · cases none

/-- A session that is gone has no slot. -/
theorem Starts.of_gone (keeps : Keeps none before after) (sound : Sound True after)
    (absent : before.sessions.lookup sessionId = none) :
    Starts before after { sessionId, slotId := invalidSlotId, blocks, credited } := by
  have gone : after.sessions.lookup sessionId = none := by
    cases found : after.sessions.lookup sessionId with
    | none => rfl
    | some later =>
      obtain ⟨earlier, present, -⟩ := keeps.sessions sessionId later found
      rw [absent] at present
      cases present
  refine ⟨keeps.sessions, fun earlier found => ?_, fun _ => rfl, fun later found => ?_,
    fun other hashes _ => keeps.registered other hashes,
    fun hashes listed => absurd gone (sound.registered_present listed),
    fun later hashes found => ?_, fun other waits => (keeps.allocations other waits).elim id nofun⟩
  · rw [absent] at found
    cases found
  · rw [gone] at found
    cases found
  · rw [gone] at found
    cases found

end Starting

/-- What a call comes to for the slots: a request has got one, or none has. A callback may register
its blocks for a session that it then cannot have. -/
inductive Handled (added : Option String) (before after : SessionManager) : Option SlotTurn → Prop
  | started {turn : SlotTurn} (starts : Starts before after turn)
      (idle : after.allocations.lookup turn.sessionId = none) :
      Handled added before after (some turn)
  | kept (keeps : Keeps added before after) : Handled added before after none
  | registered {turn : SlotTurn} (starts : Starts before after turn)
      (idle : after.allocations.lookup turn.sessionId = none)
      (waited : before.allocations.lookup turn.sessionId ≠ none) (nothing : turn.credited = 0) :
      Handled added before after none

section Congruence

variable {added : Option String} {before same after : SessionManager}

theorem Starts.congr {turn : SlotTurn} (sessions : same.sessions = before.sessions)
    (prefixIndex : same.prefixIndex = before.prefixIndex)
    (allocations : ∀ sessionId, same.allocations.lookup sessionId ≠ none →
      before.allocations.lookup sessionId ≠ none) (starts : Starts same after turn) :
    Starts before after turn where
  sessions sessionId later found := sessions ▸ starts.sessions sessionId later found
  slot earlier found := starts.slot earlier (sessions ▸ found)
  gone absent := starts.gone (sessions ▸ absent)
  fewer := starts.fewer
  others sessionId hashes different listed :=
    prefixIndex ▸ starts.others sessionId hashes different listed
  registered := starts.registered
  agrees later hashes found listed positive :=
    prefixIndex ▸ starts.agrees later hashes found listed positive
  allocations sessionId waits := allocations sessionId (starts.allocations sessionId waits)

/-- Only sessions, registrations and what waits matter. -/
theorem Handled.congr {turn : Option SlotTurn} (sessions : same.sessions = before.sessions)
    (prefixIndex : same.prefixIndex = before.prefixIndex)
    (allocations : ∀ sessionId, same.allocations.lookup sessionId ≠ none →
      before.allocations.lookup sessionId ≠ none)
    (handled : Handled added same after turn) : Handled added before after turn := by
  cases handled with
  | started starts idle => exact .started (starts.congr sessions prefixIndex allocations) idle
  | kept keeps =>
    refine .kept ⟨fun sessionId later found => ?_, fun sessionId hashes listed => ?_,
      fun sessionId waits => (keeps.allocations sessionId waits).imp_left (allocations sessionId)⟩
    · exact sessions ▸ keeps.sessions sessionId later found
    · exact prefixIndex ▸ keeps.registered sessionId hashes listed
  | registered starts idle waited nothing =>
    exact .registered (starts.congr sessions prefixIndex allocations) idle
      (allocations _ waited) nothing

end Congruence

section Matching

variable {config : SessionConfig} {manager : SessionManager} {sessionId : String}
variable {blocks : List BlockHashInfo}

theorem tokensToBlocks_le (sizes : BlockSizes) (blocks : Nat) :
    tokensToBlocks sizes (blocksToTokens sizes blocks) ≤ blocks := by
  cases blocks with
  | zero => exact Nat.le_refl 0
  | succ blocks =>
    simp only [blocksToTokens, tokensToBlocks, Nat.add_one_ne_zero, ↓reduceIte, Nat.add_sub_cancel]
    split
    · exact Nat.zero_le _
    · split
      · exact Nat.succ_le_succ (Nat.zero_le _)
      · rename_i several
        have positive : 0 < sizes.blockSize := by omega
        rw [Nat.add_comm 1]
        refine Nat.succ_le_succ ((Nat.div_le_iff_le_mul_add_pred positive).mpr ?_)
        rw [Nat.mul_comm]
        omega

/-- So many blocks of the prompt are blocks of the session. -/
theorem Sound.agrees (sound : Sound True manager) {count : Nat}
    (le : count ≤ manager.matchedBlocks sessionId blocks) (positive : count ≠ 0) :
    ∃ own, manager.prefixIndex.Registered sessionId own ∧
      (blockHashes blocks).take count = own.take count := by
  rcases sound.matchedBlocks sessionId blocks with none | ⟨own, registered, common⟩
  · omega
  · refine ⟨own, registered, ?_⟩
    have same := congrArg (List.take count) (take_commonPrefix (blockHashes blocks) own)
    rwa [← common, List.take_take, List.take_take, Nat.min_eq_left le] at same

end Matching

end InferenceServer.Sessions
