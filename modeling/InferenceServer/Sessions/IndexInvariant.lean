import InferenceServer.Sessions.SlotResolution

/-! The two indexes beside the sessions. Under the prefix index a session is listed once, under
its hash; a response id leads to a session that has it. The parts of a call keep this, also
when they change a session before the index, and when the session is gone. -/
namespace InferenceServer.Sessions
open Machine PrefixCache Pipeline

def Caller.blocks : Caller → List BlockHashInfo
  | other => []
  | getSlot blocks _ _ | decodeDestinationSlot blocks _ | prefillSession blocks _ => blocks

namespace SessionManager

variable (manager : SessionManager) (sessionId : String)

/-- No session has the id, nor will one that is being created. -/
def Fresh : Prop :=
  manager.sessions.lookup sessionId = none ∧ manager.allocations.lookup sessionId = none

instance (manager : SessionManager) (sessionId : String) : Decidable (manager.Fresh sessionId) :=
  inferInstanceAs (Decidable (_ ∧ _))

/-- The session has no response id, and no callback is to give it one. -/
def New : Prop :=
  (∀ session ∈ manager.sessions.lookup sessionId, session.responseId = "") ∧
    manager.allocations.lookup sessionId = none

instance (manager : SessionManager) (sessionId : String) : Decidable (manager.New sessionId) :=
  inferInstanceAs (Decidable (_ ∧ _))

/-- What the indexes are to know of a session. -/
def keysOf : Option (UInt64 × String) :=
  (manager.sessions.lookup sessionId).map fun session => (session.hash, session.responseId)

end SessionManager

variable {hashed : Prop}

/-- A session that is being created is not there yet, or has no response id. -/
structure Awaited (hashed : Prop) (keys : Option (UInt64 × String))
    (allocation : PendingAllocation) : Prop where
  nonzero : hashed → ∀ block ∈ allocation.caller.blocks, block.hash ≠ 0
  absent : allocation.stage ≠ .allocated → keys = none
  new : ∀ key ∈ keys, key.2 = ""

/-- Its hash does not matter. -/
theorem Awaited.rekey {hash : UInt64} {responseId : String} {allocation : PendingAllocation}
    (awaited : Awaited hashed (some (hash, responseId)) allocation) (newHash : UInt64) :
    Awaited hashed (some (newHash, responseId)) allocation where
  nonzero := awaited.nonzero
  absent early := by cases awaited.absent early
  new key member := Option.some.inj member ▸ awaited.new (hash, responseId) rfl

theorem Awaited.gone {keys : Option (UInt64 × String)} {allocation : PendingAllocation}
    (awaited : Awaited hashed keys allocation) : Awaited hashed none allocation where
  nonzero := awaited.nonzero
  absent _ := rfl
  new _ member := by cases member

/-- A session is listed at most once, and only under its hash, if hashes are not zero. -/
structure Sound (hashed : Prop) (manager : SessionManager) : Prop where
  once : hashed → ∀ keyHash sessionId, manager.prefixIndex.count keyHash sessionId ≤ 1
  listed : hashed → ∀ keyHash sessionId, manager.prefixIndex.count keyHash sessionId ≠ 0 →
    keyHash ≠ 0 ∧ (manager.keysOf sessionId).map Prod.fst = some keyHash
  wellFormed : manager.prefixIndex.WellFormed
  named : ∀ responseId sessionId, manager.responseIdIndex.lookup responseId = some sessionId →
    responseId ≠ "" ∧ (manager.keysOf sessionId).map Prod.snd = some responseId
  awaited : ∀ sessionId, ∀ allocation ∈ manager.allocations.lookup sessionId,
    Awaited hashed (manager.keysOf sessionId) allocation

theorem Sound.empty : Sound hashed {} where
  once _ _ _ := Nat.zero_le _
  listed _ _ _ positive := absurd rfl positive
  wellFormed := .empty
  named _ _ indexed := by cases indexed
  awaited _ _ allocated := by cases allocated

/-- Nothing that the indexes know has changed. -/
theorem Sound.congr {before after : SessionManager} (sound : Sound hashed before)
    (keys : ∀ sessionId, after.keysOf sessionId = before.keysOf sessionId)
    (prefixIndex : after.prefixIndex = before.prefixIndex)
    (responseIdIndex : after.responseIdIndex = before.responseIdIndex)
    (allocations : after.allocations = before.allocations) : Sound hashed after where
  once := prefixIndex ▸ sound.once
  listed nonzero keyHash sessionId positive := by
    rw [prefixIndex] at positive
    rw [keys]
    exact sound.listed nonzero keyHash sessionId positive
  wellFormed := prefixIndex ▸ sound.wellFormed
  named responseId sessionId indexed := by
    rw [responseIdIndex] at indexed
    rw [keys]
    exact sound.named responseId sessionId indexed
  awaited sessionId allocation allocated := by
    rw [allocations] at allocated
    rw [keys]
    exact sound.awaited sessionId allocation allocated

/-- The keys of one session have changed, and the indexes with them. -/
theorem Sound.update {before after : SessionManager} (sound : Sound hashed before) {sessionId : String}
    (keys : Option (UInt64 × String))
    (keysOf : ∀ other, after.keysOf other = if other = sessionId then keys else before.keysOf other)
    (wellFormed : after.prefixIndex.WellFormed)
    (counts : hashed → ∀ key other, other ≠ sessionId →
      after.prefixIndex.count key other = before.prefixIndex.count key other)
    (once : hashed → ∀ key, after.prefixIndex.count key sessionId ≤ 1)
    (listed : hashed → ∀ key, after.prefixIndex.count key sessionId ≠ 0 →
      key ≠ 0 ∧ keys.map Prod.fst = some key)
    (kept : ∀ responseId other, after.responseIdIndex.lookup responseId = some other →
      other ≠ sessionId → before.responseIdIndex.lookup responseId = some other)
    (named : ∀ responseId, after.responseIdIndex.lookup responseId = some sessionId →
      responseId ≠ "" ∧ keys.map Prod.snd = some responseId)
    (allocations : after.allocations = before.allocations)
    (awaited : ∀ allocation ∈ before.allocations.lookup sessionId, Awaited hashed keys allocation) :
    Sound hashed after where
  once nonzero key other := by
    by_cases own : other = sessionId
    · exact own ▸ once nonzero key
    · exact counts nonzero key other own ▸ sound.once nonzero key other
  listed nonzero key other positive := by
    rw [keysOf]
    by_cases own : other = sessionId
    · rw [if_pos own]
      exact listed nonzero key (own ▸ positive)
    · rw [if_neg own]
      exact sound.listed nonzero key other (counts nonzero key other own ▸ positive)
  wellFormed := wellFormed
  named responseId other indexed := by
    rw [keysOf]
    by_cases own : other = sessionId
    · rw [if_pos own]
      exact named responseId (own ▸ indexed)
    · rw [if_neg own]
      exact sound.named responseId other (kept responseId other indexed own)
  awaited other allocation allocated := by
    rw [allocations] at allocated
    rw [keysOf]
    by_cases own : other = sessionId
    · rw [if_pos own]
      exact awaited allocation (own ▸ allocated)
    · rw [if_neg own]
      exact sound.awaited other allocation allocated

/-- A part of a call that neither creates a session nor takes note of an allocation. -/
structure Preserves (hashed : Prop) (before after : SessionManager) : Prop where
  sound : Sound hashed before → Sound hashed after
  allocations : after.allocations = before.allocations
  absent : ∀ sessionId, before.keysOf sessionId = none → after.keysOf sessionId = none

namespace Preserves

variable {before middle after : SessionManager}

theorem refl (manager : SessionManager) : Preserves hashed manager manager :=
  ⟨id, rfl, fun _ => id⟩

theorem trans (first : Preserves hashed before middle) (second : Preserves hashed middle after) :
    Preserves hashed before after where
  sound := second.sound ∘ first.sound
  allocations := second.allocations.trans first.allocations
  absent sessionId := second.absent sessionId ∘ first.absent sessionId

theorem of_keys (keys : ∀ sessionId, after.keysOf sessionId = before.keysOf sessionId)
    (prefixIndex : after.prefixIndex = before.prefixIndex)
    (responseIdIndex : after.responseIdIndex = before.responseIdIndex)
    (allocations : after.allocations = before.allocations) : Preserves hashed before after where
  sound sound := sound.congr keys prefixIndex responseIdIndex allocations
  allocations := allocations
  absent sessionId none := (keys sessionId).trans none

theorem fresh (preserves : Preserves hashed before after) {sessionId : String}
    (fresh : before.Fresh sessionId) : after.Fresh sessionId := by
  have keys : before.keysOf sessionId = none := by
    rw [SessionManager.keysOf, fresh.1, Option.map_none]
  exact ⟨Option.map_eq_none_iff.mp (preserves.absent sessionId keys),
    by rw [preserves.allocations, fresh.2]⟩

end Preserves

section Parts

variable {manager : SessionManager}

theorem keysOf_modify {change : Session → Session} (rename : UInt64 × String → UInt64 × String)
    (renames : ∀ session, ((change session).hash, (change session).responseId) =
      rename (session.hash, session.responseId))
    (manager : SessionManager) (sessionId other : String) :
    (manager.modify sessionId change).keysOf other =
      if other = sessionId then (manager.keysOf sessionId).map rename else manager.keysOf other := by
  rw [SessionManager.keysOf, SessionManager.modify, Table.lookup_modify]
  split
  · rw [SessionManager.keysOf, Option.map_map, Option.map_map]
    exact congrArg (fun keys => (manager.sessions.lookup sessionId).map keys) (funext renames)
  · rfl

/-- A change of a session that keeps its hash and its response id. -/
theorem Preserves.modify {change : Session → Session}
    (kept : ∀ session, ((change session).hash, (change session).responseId) =
      (session.hash, session.responseId)) (manager : SessionManager) (sessionId : String) :
    Preserves hashed manager (manager.modify sessionId change) := by
  refine .of_keys (fun other => ?_) rfl rfl rfl
  exact Table.map_lookup_modify (fun session : Session => (session.hash, session.responseId)) kept
    manager.sessions other

theorem markInFlight_keys (session : Session) :
    (session.markInFlight.hash, session.markInFlight.responseId) =
      (session.hash, session.responseId) := by
  rw [Session.markInFlight]
  split <;> rfl

theorem clearInFlight_keys (session : Session) :
    (session.clearInFlight.hash, session.clearInFlight.responseId) =
      (session.hash, session.responseId) := by
  rw [Session.clearInFlight]
  split <;> rfl

theorem shrinkCommittedBlocks_keys (blocks : Nat) (session : Session) :
    ((session.shrinkCommittedBlocks blocks).hash,
      (session.shrinkCommittedBlocks blocks).responseId) = (session.hash, session.responseId) := by
  rw [Session.shrinkCommittedBlocks]
  split <;> rfl

/-- What marking a session comes to. -/
inductive Marks (manager : SessionManager) (sessionId : String) (expectedKeyHash : Option UInt64)
    (expectedResponseId : Option String) : SessionManager × MarkInFlightResult → Prop
  | notFound (absent : manager.sessions.lookup sessionId = none) :
      Marks manager sessionId expectedKeyHash expectedResponseId
        (manager, { outcome := .notFound })
  | stale {session : Session} (found : manager.sessions.lookup sessionId = some session)
      (other : (∃ keyHash ∈ expectedKeyHash, session.hash ≠ keyHash) ∨
        ∃ responseId ∈ expectedResponseId, session.responseId ≠ responseId) :
      Marks manager sessionId expectedKeyHash expectedResponseId (manager, { outcome := .stale })
  | busy {session : Session} (found : manager.sessions.lookup sessionId = some session)
      (inFlight : session.state = .inFlight) :
      Marks manager sessionId expectedKeyHash expectedResponseId (manager, { outcome := .busy })
  | marked {session : Session} (found : manager.sessions.lookup sessionId = some session)
      (free : session.state ≠ .inFlight)
      (keyHash : ∀ keyHash ∈ expectedKeyHash, session.hash = keyHash)
      (responseId : ∀ responseId ∈ expectedResponseId, session.responseId = responseId) :
      Marks manager sessionId expectedKeyHash expectedResponseId
        (manager.modify sessionId Session.markInFlight,
          { outcome := .marked, slotId := session.slotId })

theorem tryMarkInFlight_spec (manager : SessionManager) (sessionId : String)
    (expectedKeyHash : Option UInt64) (expectedResponseId : Option String) :
    Marks manager sessionId expectedKeyHash expectedResponseId
      (manager.tryMarkInFlight sessionId expectedKeyHash expectedResponseId) := by
  rw [SessionManager.tryMarkInFlight]
  cases found : manager.sessions.lookup sessionId with
  | none => exact .notFound found
  | some session =>
    simp only
    split
    · rename_i stale
      exact .stale found (.inl stale)
    · rename_i hash
      split
      · rename_i stale
        exact .stale found (.inr stale)
      · rename_i responseId
        split
        · rename_i inFlight
          exact .busy found inFlight
        · rename_i free
          refine .marked found free (fun keyHash expected => ?_) fun id expected => ?_
          · exact not_not.mp fun other => hash ⟨keyHash, expected, other⟩
          · exact not_not.mp fun other => responseId ⟨id, expected, other⟩

/-- The session keeps its keys whether or not it is acquired. -/
theorem acquireInFlight_fst (manager : SessionManager) (sessionId : String) :
    (manager.acquireInFlight sessionId).1 = manager ∨ (manager.acquireInFlight sessionId).1 =
        manager.modify sessionId Session.markInFlight := by
  rw [SessionManager.acquireInFlight]
  have spec := tryMarkInFlight_spec manager sessionId none none
  generalize manager.tryMarkInFlight sessionId none none = marks at spec ⊢
  cases spec with
  | notFound | stale | busy => exact .inl rfl
  | marked => exact .inr rfl

theorem Preserves.acquire (manager : SessionManager) (sessionId : String) :
    Preserves hashed manager (manager.acquireInFlight sessionId).1 := by
  rcases acquireInFlight_fst manager sessionId with same | marked
  · rw [same]
    exact .refl manager
  · rw [marked]
    exact .modify markInFlight_keys manager sessionId

theorem keysOf_acquireInFlight (manager : SessionManager) (sessionId other : String) :
    (manager.acquireInFlight sessionId).1.keysOf other = manager.keysOf other := by
  rcases acquireInFlight_fst manager sessionId with same | marked
  · rw [same]
  · rw [marked]
    exact Table.map_lookup_modify (fun session : Session => (session.hash, session.responseId))
      markInFlight_keys manager.sessions other

/-- An entry that is not to be there may go. -/
theorem Preserves.removePrefix (manager : SessionManager) (sessionId : String)
    (keyHash : UInt64) :
    Preserves hashed manager
      { manager with prefixIndex := manager.prefixIndex.remove sessionId keyHash } where
  sound sound := by
    have fewer : ∀ key other, IndexMap.count (manager.prefixIndex.remove sessionId keyHash) key
        other ≤ manager.prefixIndex.count key other :=
      fun key other => IndexMap.count_remove_le manager.prefixIndex sessionId other keyHash key
    refine ⟨fun nonzero key other => Nat.le_trans (fewer key other) (sound.once nonzero key other),
      fun nonzero key other positive => sound.listed nonzero key other fun none => positive ?_,
      sound.wellFormed.remove sessionId keyHash, sound.named, sound.awaited⟩
    exact Nat.le_zero.mp (none ▸ fewer key other)
  allocations := rfl
  absent _ := id

theorem Preserves.removeResponseId (manager : SessionManager) (sessionId id : String) :
    Preserves hashed manager (manager.removeResponseId sessionId id) := by
  rw [SessionManager.removeResponseId]
  split
  · refine ⟨fun sound => ⟨sound.once, sound.listed, sound.wellFormed, ?_, sound.awaited⟩, rfl,
      fun _ none => none⟩
    intro responseId other indexed
    exact sound.named responseId other (Table.mem_entries.mp (Table.mem_entries_erase
      (Table.mem_entries.mpr indexed)))
  · exact .refl manager

theorem Preserves.clearThinkTokens (manager : SessionManager) (sessionId : String) :
    Preserves hashed manager (manager.clearSessionBlockThinkTokens sessionId) := by
  rw [SessionManager.clearSessionBlockThinkTokens]
  cases manager.sessions.lookup sessionId with
  | none => exact .refl manager
  | some session =>
    have same : ∀ key other, IndexMap.count (manager.prefixIndex.clearThinkTokens sessionId
        session.hash) key other = manager.prefixIndex.count key other :=
      fun key other => IndexMap.count_clear manager.prefixIndex sessionId session.hash key other
    refine ⟨fun sound => ⟨fun nonzero key other =>
        (same key other).trans_le (sound.once nonzero key other),
      fun nonzero key other positive => sound.listed nonzero key other ((same key other) ▸ positive),
      sound.wellFormed.clearThinkTokens _ _, sound.named, sound.awaited⟩, rfl,
      fun _ none => none⟩

end Parts

section Registrations

variable {manager : SessionManager} {sessionId : String} {session : Session}

theorem keysOf_found (found : manager.sessions.lookup sessionId = some session) :
    manager.keysOf sessionId = some (session.hash, session.responseId) := by
  rw [SessionManager.keysOf, found, Option.map_some]

theorem registerPrefixHash_absent (absent : manager.sessions.lookup sessionId = none)
    (blockInfos : List BlockHashInfo) (clearBeingGenerated : Bool) :
    manager.registerPrefixHash sessionId blockInfos clearBeingGenerated = manager := by
  cases blockInfos with
  | nil => rfl
  | cons front remaining => simp only [SessionManager.registerPrefixHash, absent]

theorem responseIdIndex_registerPrefixHash (manager : SessionManager) (sessionId : String)
    (blockInfos : List BlockHashInfo) (clearBeingGenerated : Bool) :
    (manager.registerPrefixHash sessionId blockInfos clearBeingGenerated).responseIdIndex =
      manager.responseIdIndex := by
  unfold SessionManager.registerPrefixHash
  split <;> rfl

theorem allocations_registerPrefixHash (manager : SessionManager) (sessionId : String)
    (blockInfos : List BlockHashInfo) (clearBeingGenerated : Bool) :
    (manager.registerPrefixHash sessionId blockInfos clearBeingGenerated).allocations =
      manager.allocations := by
  unfold SessionManager.registerPrefixHash
  split <;> rfl

theorem keysOf_registerPrefixHash (found : manager.sessions.lookup sessionId = some session)
    (front : BlockHashInfo) (remaining : List BlockHashInfo) (clearBeingGenerated : Bool)
    (other : String) :
    (manager.registerPrefixHash sessionId (front :: remaining) clearBeingGenerated).keysOf other =
      if other = sessionId then some (front.hash, session.responseId) else manager.keysOf other := by
  simp only [SessionManager.registerPrefixHash, found]
  refine (keysOf_modify (fun key => (front.hash, key.2)) (fun _ => rfl) manager sessionId
    other).trans ?_
  rw [keysOf_found found, Option.map_some]

/-- The session is listed under the first hash that it registers, and no longer under another. -/
theorem count_registerPrefixHash (sound : Sound hashed manager) (hashes : hashed)
    (found : manager.sessions.lookup sessionId = some session) (front : BlockHashInfo)
    (remaining : List BlockHashInfo) (clearBeingGenerated : Bool) (key : UInt64) (other : String) :
    (manager.registerPrefixHash sessionId (front :: remaining)
      clearBeingGenerated).prefixIndex.count key other =
      if other = sessionId then if key = front.hash then 1 else 0
      else manager.prefixIndex.count key other := by
  have listed : manager.prefixIndex.count key sessionId ≠ 0 → key ≠ 0 ∧ key = session.hash := by
    intro positive
    have own := sound.listed hashes key sessionId positive
    rw [keysOf_found found, Option.map_some] at own
    exact ⟨own.1, (Option.some.inj own.2).symm⟩
  simp only [SessionManager.registerPrefixHash, found]
  rw [IndexMap.count_register]
  by_cases own : other = sessionId
  · subst own
    by_cases here : key = front.hash
    · rw [if_pos ⟨here, rfl⟩, if_pos rfl, if_pos here]
    · rw [if_neg fun both => here both.1, if_pos rfl, if_neg here]
      by_contra positive
      split at positive
      · rename_i moves
        rw [IndexMap.count_remove _ _ moves.1] at positive
        split at positive
        · exact positive rfl
        · rename_i elsewhere
          exact elsewhere ⟨(listed positive).2, rfl⟩
      · rename_i stays
        obtain ⟨nonzero, rfl⟩ := listed positive
        exact stays ⟨nonzero, here⟩
  · rw [if_neg fun both => own both.2, if_neg own]
    split
    · rename_i moves
      rw [IndexMap.count_remove _ _ moves.1, if_neg fun both => own both.2]
    · rfl

theorem Preserves.registerPrefixHash {blockInfos : List BlockHashInfo}
    (nonzero : hashed → ∀ block ∈ blockInfos, block.hash ≠ 0) (manager : SessionManager)
    (sessionId : String) (clearBeingGenerated : Bool) :
    Preserves hashed manager (manager.registerPrefixHash sessionId blockInfos clearBeingGenerated) := by
  cases found : manager.sessions.lookup sessionId with
  | none =>
    rw [registerPrefixHash_absent found]
    exact .refl manager
  | some session =>
    cases blockInfos with
    | nil => exact .refl manager
    | cons front remaining =>
      have keys := keysOf_registerPrefixHash found front remaining clearBeingGenerated
      have unlisted := responseIdIndex_registerPrefixHash manager sessionId (front :: remaining)
        clearBeingGenerated
      have allocations := allocations_registerPrefixHash manager sessionId (front :: remaining)
        clearBeingGenerated
      refine ⟨fun sound => ?_, allocations, fun other none => ?_⟩
      · have counts := fun hashes : hashed =>
          count_registerPrefixHash sound hashes found front remaining clearBeingGenerated
        refine sound.update _ keys ?_ (fun hashes key other different => ?_) (fun hashes key => ?_)
          (fun hashes key positive => ?_) (fun responseId other indexed _ => unlisted ▸ indexed)
          (fun responseId indexed => ?_) allocations fun allocation allocated => ?_
        · simp only [SessionManager.registerPrefixHash, found]
          refine IndexMap.WellFormed.registerPrefixHash ?_ sessionId (front :: remaining)
          split
          · exact sound.wellFormed.remove sessionId session.hash
          · exact sound.wellFormed
        · rw [counts hashes, if_neg different]
        · rw [counts hashes, if_pos rfl]
          split <;> decide
        · rw [counts hashes, if_pos rfl] at positive
          split at positive
          · rename_i here
            exact ⟨here ▸ nonzero hashes front List.mem_cons_self, by rw [here, Option.map_some]⟩
          · exact absurd rfl positive
        · rw [unlisted] at indexed
          have named := sound.named responseId sessionId indexed
          rwa [keysOf_found found] at named
        · have awaited := sound.awaited sessionId allocation allocated
          rw [keysOf_found found] at awaited
          exact awaited.rekey front.hash
      · rw [keys]
        split
        · rename_i own
          subst own
          rw [keysOf_found found] at none
          cases none
        · exact none

end Registrations

section ResponseIds

variable {manager : SessionManager} {sessionId : String}

theorem Sound.registerResponseId (sound : Sound hashed manager) (new : manager.New sessionId)
    (responseId : String) : Sound hashed (manager.registerResponseId sessionId responseId) := by
  rw [SessionManager.registerResponseId]
  split
  · exact sound
  · rename_i registers
    obtain ⟨nonempty, present⟩ := not_or.mp registers
    obtain ⟨session, found⟩ := Option.ne_none_iff_exists'.mp present
    refine sound.update _ (keysOf_modify (fun key => (key.1, responseId)) (fun _ => rfl)
      manager sessionId) sound.wellFormed (fun _ _ _ _ => rfl)
      (fun hashes key => sound.once hashes key sessionId)
      (fun hashes key positive => ?_) (fun other found indexed different => ?_)
      (fun other indexed => ?_) rfl fun allocation allocated => ?_
    · rw [Option.map_map]
      exact sound.listed hashes key sessionId positive
    · by_cases same : other = responseId
      · subst same
        rw [AList.lookup_insert] at indexed
        exact absurd (Option.some.inj indexed).symm different
      · rwa [AList.lookup_insert_ne same] at indexed
    · by_cases same : other = responseId
      · subst same
        rw [keysOf_found found]
        exact ⟨nonempty, rfl⟩
      · rw [AList.lookup_insert_ne same] at indexed
        have named := sound.named other sessionId indexed
        rw [keysOf_found found, Option.map_some, new.1 session found] at named
        exact absurd (Option.some.inj named.2).symm named.1
    · rw [new.2] at allocated
      cases allocated

theorem Preserves.updateResponseId (manager : SessionManager)
    (previousResponseId responseId : String) :
    Preserves hashed manager (manager.updateResponseId previousResponseId responseId) := by
  rw [SessionManager.updateResponseId]
  split
  · exact .refl manager
  · rename_i updates
    obtain ⟨nonempty, -⟩ := not_or.mp (not_or.mp updates).2
    cases indexed : manager.responseIdIndex.lookup previousResponseId with
    | none => exact .refl manager
    | some sessionId =>
      have keys : ∀ other, (manager.modify sessionId fun session =>
          { session with responseId }).keysOf other =
          if other = sessionId then (manager.keysOf sessionId).map fun key => (key.1, responseId)
          else manager.keysOf other :=
        keysOf_modify (fun key => (key.1, responseId)) (fun _ => rfl) manager sessionId
      refine ⟨fun sound => ?_, rfl, fun other none => (keys other).trans ?_⟩
      · obtain ⟨previous, own⟩ := sound.named previousResponseId sessionId indexed
        obtain ⟨key, found, rfl⟩ := Option.map_eq_some_iff.mp own
        refine sound.update _ keys sound.wellFormed (fun _ _ _ _ => rfl)
          (fun hashes key => sound.once hashes key sessionId) (fun hashes key positive => ?_)
          (fun other found indexed different => ?_) (fun other renamed => ?_) rfl
          fun allocation allocated => ?_
        · rw [Option.map_map]
          exact sound.listed hashes key sessionId positive
        · by_cases same : other = responseId
          · subst same
            rw [AList.lookup_insert] at indexed
            exact absurd (Option.some.inj indexed).symm different
          · rw [AList.lookup_insert_ne same] at indexed
            exact Table.mem_entries.mp (Table.mem_entries_erase (Table.mem_entries.mpr indexed))
        · by_cases same : other = responseId
          · subst same
            rw [found]
            exact ⟨nonempty, rfl⟩
          · rw [AList.lookup_insert_ne same] at renamed
            have left := Table.mem_entries.mp (Table.mem_entries_erase
              (Table.mem_entries.mpr renamed))
            have named := (sound.named other sessionId left).2
            obtain rfl := Option.some.inj (named.symm.trans own)
            rw [AList.lookup_erase] at renamed
            cases renamed
        · exact absurd ((sound.awaited sessionId allocation allocated).new key found) previous
      · split
        · rename_i same
          subst same
          rw [none, Option.map_none]
        · exact none

end ResponseIds

section Closing

variable {manager : SessionManager} {sessionId : String} {session : Session}

theorem takeOut_eq (manager : SessionManager) (sessionId : String) (session : Session) :
    manager.takeOut sessionId session =
      { manager with
        sessions := manager.sessions.erase sessionId
        prefixIndex := manager.prefixIndex.remove sessionId session.hash
        responseIdIndex :=
          if session.responseId ≠ "" ∧
              manager.responseIdIndex.lookup session.responseId = some sessionId then
            manager.responseIdIndex.erase session.responseId
          else manager.responseIdIndex
        deallocated :=
          if session.slotId ≠ invalidSlotId then manager.deallocated ++ [session.slotId]
          else manager.deallocated } := by
  simp only [SessionManager.takeOut, SessionManager.onSessionClosed,
    SessionManager.removeResponseId, SessionManager.finalizeSessionClose]
  split <;> split <;> rfl

/-- A session that is closed leaves no trace in the indexes. -/
theorem Preserves.takeOut (found : manager.sessions.lookup sessionId = some session) :
    Preserves hashed manager (manager.takeOut sessionId session) := by
  have keys : ∀ other, (manager.takeOut sessionId session).keysOf other =
      if other = sessionId then none else manager.keysOf other := by
    intro other
    rw [takeOut_eq]
    simp only [SessionManager.keysOf]
    by_cases own : other = sessionId
    · rw [if_pos own, own, AList.lookup_erase, Option.map_none]
    · rw [if_neg own, AList.lookup_erase_ne own]
  refine ⟨fun sound => ?_, by rw [takeOut_eq], fun other none => ?_⟩
  · have gone : hashed → ∀ key, IndexMap.count (manager.prefixIndex.remove sessionId
        session.hash) key sessionId = 0 := by
      intro hashes key
      by_contra positive
      have fewer := IndexMap.count_remove_le manager.prefixIndex sessionId sessionId session.hash key
      obtain ⟨nonzero, own⟩ := sound.listed hashes key sessionId (by omega)
      rw [keysOf_found found, Option.map_some] at own
      obtain rfl := Option.some.inj own
      rw [IndexMap.count_remove _ _ nonzero, if_pos ⟨rfl, rfl⟩] at positive
      exact positive rfl
    refine sound.update _ keys ?_ (fun hashes key other different => ?_) (fun hashes key => ?_)
      (fun hashes key positive => ?_) (fun responseId other indexed different => ?_)
      (fun responseId indexed => ?_) (by rw [takeOut_eq]) fun allocation allocated =>
        (sound.awaited sessionId allocation allocated).gone
    · rw [takeOut_eq]
      exact sound.wellFormed.remove sessionId session.hash
    · rw [takeOut_eq]
      exact IndexMap.count_remove_other manager.prefixIndex different session.hash key
    · rw [takeOut_eq]
      exact (gone hashes key).trans_le (Nat.zero_le 1)
    · rw [takeOut_eq] at positive
      exact absurd (gone hashes key) positive
    · rw [takeOut_eq] at indexed
      simp only at indexed
      split at indexed
      · exact Table.mem_entries.mp (Table.mem_entries_erase (Table.mem_entries.mpr indexed))
      · exact indexed
    · rw [takeOut_eq] at indexed
      simp only at indexed
      split at indexed
      · rename_i own
        have left := Table.mem_entries.mp (Table.mem_entries_erase (Table.mem_entries.mpr indexed))
        have named := (sound.named responseId sessionId left).2
        rw [keysOf_found found, Option.map_some] at named
        obtain rfl := Option.some.inj named
        rw [AList.lookup_erase] at indexed
        cases indexed
      · rename_i kept
        have named := sound.named responseId sessionId indexed
        rw [keysOf_found found, Option.map_some] at named
        obtain ⟨nonempty, own⟩ := named
        obtain rfl := Option.some.inj own
        exact absurd ⟨nonempty, indexed⟩ kept
  · rw [keys]
    split
    · rfl
    · exact none

theorem Preserves.close (manager : SessionManager) (sessionId : String) :
    Preserves hashed manager (manager.closeSession sessionId) := by
  rw [SessionManager.closeSession]
  cases found : manager.sessions.lookup sessionId with
  | none => exact .refl manager
  | some session => exact .takeOut found

theorem Preserves.evict (manager : SessionManager) (sessionId : String) :
    Preserves hashed manager (manager.evictSession sessionId) := by
  rw [SessionManager.evictSession]
  cases found : manager.sessions.lookup sessionId with
  | none => exact .refl manager
  | some session =>
    simp only
    split
    · exact .takeOut found
    · exact .refl manager

theorem Preserves.evictEach (manager : SessionManager) (candidates : List String) :
    Preserves hashed manager (candidates.foldl SessionManager.evictSession manager) := by
  induction candidates generalizing manager with
  | nil => exact .refl manager
  | cons sessionId candidates ih => exact (Preserves.evict manager sessionId).trans (ih _)

theorem Preserves.evictOldSessions (config : SessionConfig) (manager : SessionManager)
    (leastRecent : List String) :
    Preserves hashed manager (manager.evictOldSessions config leastRecent) := by
  rw [SessionManager.evictOldSessions]
  split
  · exact .refl manager
  · exact .evictEach manager _

end Closing

end InferenceServer.Sessions
