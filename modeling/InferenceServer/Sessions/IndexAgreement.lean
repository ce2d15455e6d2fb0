import InferenceServer.Sessions.IndexInvariant
import Mathlib.Data.List.Sort

/-! Whatever operations come one after the other, the indexes agree with the sessions: requests
that go on with a session or wait for a new one, callbacks that find it closed, and
evictions in between. -/
namespace InferenceServer.Sessions
open Machine PrefixCache Pipeline

/-- Every id in an index is that of a session that has the key. -/
structure IndexesAgree (manager : SessionManager) : Prop where
  listed : ∀ keyHash entries, manager.prefixIndex.lookup keyHash = some entries →
    ∀ entry ∈ entries, ∀ sessionId ∈ entry.sessionIds,
      (manager.sessions.lookup sessionId).map Session.hash = some keyHash ∧
      manager.prefixIndex.occurrences sessionId = 1
  wellFormed : manager.prefixIndex.WellFormed
  named : ∀ responseId sessionId, manager.responseIdIndex.lookup responseId = some sessionId →
    (manager.sessions.lookup sessionId).map Session.responseId = some responseId

namespace SessionManager

/-- Session ids are distinct, and a first response id is for a new session. -/
def Distinct (manager : SessionManager) (operation : Operation) : Prop :=
  (∀ creation ∈ operation.creation?, manager.Fresh creation.sessionId) ∧
  match operation with
  | .registerResponseId sessionId _ => manager.New sessionId
  | _ => True

instance (manager : SessionManager) (operation : Operation) :
    Decidable (manager.Distinct operation) := by
  unfold Distinct
  split <;> infer_instance

/-- Session ids are distinct, and hashes are not zero. -/
def Allowed (manager : SessionManager) (operation : Operation) : Prop :=
  manager.Distinct operation ∧ ∀ block ∈ operation.blocks, block.hash ≠ 0

instance (manager : SessionManager) (operation : Operation) :
    Decidable (manager.Allowed operation) :=
  inferInstanceAs (Decidable (_ ∧ _))

end SessionManager

theorem Sound.indexesAgree {manager : SessionManager} (sound : Sound True manager) :
    IndexesAgree manager where
  listed keyHash entries present entry listed sessionId member := by
    have positive := IndexMap.count_ne_zero present listed member
    have own := (sound.listed trivial keyHash sessionId positive).2
    have others : ∀ other, other ≠ keyHash → manager.prefixIndex.count other sessionId = 0 := by
      intro other different
      by_contra positive
      have also := (sound.listed trivial other sessionId positive).2
      exact different (Option.some.inj (also.symm.trans own))
    refine ⟨?_, ?_⟩
    · rw [← own, SessionManager.keysOf, Option.map_map]
      rfl
    · have once := sound.once trivial keyHash sessionId
      rw [IndexMap.occurrences_eq others]
      omega
  wellFormed := sound.wellFormed
  named responseId sessionId indexed := by
    rw [← (sound.named responseId sessionId indexed).2, SessionManager.keysOf, Option.map_map]
    rfl

section Creation

variable {manager : SessionManager} {sessionId : String}
variable {allocation : PendingAllocation} {creation : Creation}

section

variable (sound : Sound hashed manager)
include sound

theorem Sound.place (absent : manager.keysOf sessionId = none)
    (nonzero : hashed → ∀ block ∈ allocation.caller.blocks, block.hash ≠ 0) (stage : Stage) :
    Sound hashed (manager.place sessionId allocation stage) :=
  { sound with
  awaited other found allocated := by
    rw [SessionManager.place] at allocated
    by_cases same : other = sessionId
    · subst same
      rw [AList.lookup_insert] at allocated
      obtain rfl := Option.some.inj allocated
      refine ⟨nonzero, fun _ => absent, fun key member => ?_⟩
      rw [SessionManager.keysOf] at absent
      rw [SessionManager.place, SessionManager.keysOf, absent] at member
      cases member
    · rw [AList.lookup_insert_ne same] at allocated
      exact sound.awaited other found allocated }

/-- A session that appears has no response id and is in no index. -/
theorem Sound.insertSession (absent : manager.keysOf sessionId = none)
    (allocated : ∀ allocation ∈ manager.allocations.lookup sessionId,
      allocation.stage = .allocated) (session : Session) (new : session.responseId = "") :
    Sound hashed (manager.insertSession sessionId session) := by
  refine sound.update (some (session.hash, session.responseId)) (fun other => ?_)
    sound.wellFormed (fun _ _ _ _ => rfl) (fun hashes key => sound.once hashes key sessionId)
    (fun hashes key positive => ?_) (fun _ _ indexed _ => indexed) (fun responseId indexed => ?_) rfl
    fun allocation waits => ?_
  · simp only [SessionManager.keysOf, SessionManager.insertSession]
    by_cases own : other = sessionId
    · rw [if_pos own, own, AList.lookup_insert, Option.map_some]
    · rw [if_neg own, AList.lookup_insert_ne own]
  · have listed := (sound.listed hashes key sessionId positive).2
    rw [absent] at listed
    cases listed
  · have named := (sound.named responseId sessionId indexed).2
    rw [absent] at named
    cases named
  · have awaited := sound.awaited sessionId allocation waits
    refine ⟨awaited.nonzero, fun early => absurd (allocated allocation waits) early, ?_⟩
    intro key member
    exact Option.some.inj member ▸ new

theorem Sound.retryOrFail (absent : manager.keysOf sessionId = none)
    (nonzero : hashed → ∀ block ∈ allocation.caller.blocks, block.hash ≠ 0) :
    Sound hashed (manager.retryOrFail sessionId allocation) := by
  rw [SessionManager.retryOrFail]
  split
  · exact sound.place absent nonzero _
  · refine sound.place absent ?_ _
    exact nonzero

theorem Sound.sendAsyncAllocationRequest (absent : manager.keysOf sessionId = none)
    (nonzero : hashed → ∀ block ∈ allocation.caller.blocks, block.hash ≠ 0) (config : SessionConfig)
    (queueFull : Bool) :
    Sound hashed (manager.sendAsyncAllocationRequest config sessionId allocation queueFull) := by
  rw [SessionManager.sendAsyncAllocationRequest]
  split
  · exact sound.retryOrFail absent nonzero
  · exact sound.place absent nonzero _

end

theorem SessionManager.Fresh.keysOf (fresh : manager.Fresh sessionId) :
    manager.keysOf sessionId = none := by
  rw [SessionManager.keysOf, fresh.1, Option.map_none]

theorem Preserves.lockSlot (manager : SessionManager) (slotId : Option UInt32) :
    Preserves hashed manager (slotId.elim manager manager.lockSlot) := by
  cases slotId with
  | none => exact .refl manager
  | some slotId => exact .of_keys (fun _ => rfl) rfl rfl rfl

/-- A new session is on its way, under an id that no other has. -/
theorem Sound.createSession (sound : Sound hashed manager)
    (fresh : manager.Fresh creation.sessionId) (config : SessionConfig)
    (initialBlockInfos : List BlockHashInfo) (slotIdToCopyFrom : Option UInt32) {caller : Caller}
    (nonzero : hashed → ∀ block ∈ caller.blocks, block.hash ≠ 0) : Sound hashed
      (manager.createSession config creation initialBlockInfos slotIdToCopyFrom caller) := by
  have evicted : Preserves hashed _ _ := .evictOldSessions config manager creation.leastRecent
  exact (evicted.sound sound).sendAsyncAllocationRequest (evicted.fresh fresh).keysOf nonzero
    config creation.queueFull

theorem Preserves.allocate {before : SessionManager} (preserves : Preserves hashed before manager)
    (sound : Sound hashed before) (fresh : before.Fresh creation.sessionId) (config : SessionConfig)
    (initialBlockInfos : List BlockHashInfo) (plan : Option SlotCopyPlan) (caller : Nat → Caller)
    (nonzero : ∀ tokens, hashed → ∀ block ∈ (caller tokens).blocks, block.hash ≠ 0) :
    Sound hashed (manager.allocate config creation initialBlockInfos plan caller) := by
  have locked := preserves.trans (.lockSlot manager (plan.map SlotCopyPlan.slotToCopyFrom))
  exact (locked.sound sound).createSession (locked.fresh fresh) config _ _ (nonzero _)

section

variable (sound : Sound hashed manager)
include sound

theorem Sound.createPreassigned (fresh : manager.Fresh creation.sessionId)
    {initialBlockInfos : List BlockHashInfo}
    (nonzero : hashed → ∀ block ∈ initialBlockInfos, block.hash ≠ 0) (config : SessionConfig)
    (slotId : UInt32) :
    Sound hashed (manager.createPreassigned config creation slotId initialBlockInfos) := by
  have evicted : Preserves hashed _ _ := .evictOldSessions config manager creation.leastRecent
  have left := evicted.fresh fresh
  have inserted := (evicted.sound sound).insertSession left.keysOf
    (fun allocation waits => by rw [left.2] at waits; cases waits)
    { hash := (initialBlockInfos.head?.map BlockHashInfo.hash).getD 0, slotId } rfl
  exact (Preserves.registerPrefixHash nonzero _ creation.sessionId false).sound inserted

theorem Sound.retryFailedAllocation (config : SessionConfig) (sessionId : String) (queueFull : Bool) :
    Sound hashed (manager.retryFailedAllocation config sessionId queueFull) := by
  rw [SessionManager.retryFailedAllocation]
  cases found : manager.allocations.lookup sessionId with
  | none => exact sound
  | some allocation =>
    have awaited := sound.awaited sessionId allocation found
    simp only
    split
    · rename_i retrying
      have early : allocation.stage ≠ .allocated := by
        rw [retrying]
        decide
      exact sound.sendAsyncAllocationRequest (awaited.absent early) awaited.nonzero config queueFull
    · exact sound

theorem Sound.handleMemoryResult (sessionId : String) (slotId : Option UInt32) :
    Sound hashed (manager.handleMemoryResult sessionId slotId) := by
  rw [SessionManager.handleMemoryResult]
  cases found : manager.allocations.lookup sessionId with
  | none => exact sound
  | some allocation =>
    have awaited := sound.awaited sessionId allocation found
    simp only
    split
    · rename_i requested
      have absent := awaited.absent (by rw [requested]; decide)
      split
      · rename_i slotId _
        -- The session and its stage are set one after the other, in whichever order.
        have placed := sound.place absent awaited.nonzero .allocated
        refine placed.insertSession absent (fun other waits => ?_) _ rfl
        rw [SessionManager.place, AList.lookup_insert] at waits
        exact Option.some.inj waits ▸ rfl
      · exact sound.retryOrFail absent awaited.nonzero
    · exact sound

end

end Creation

section Acquisition

variable {manager : SessionManager}
variable {blocks : List BlockHashInfo} {creation : Creation} (config : SessionConfig)

theorem Preserves.acquireCandidate (keyHash : UInt64) (manager : SessionManager)
    (candidates : List (Candidate String)) :
    Preserves hashed manager (manager.acquireCandidate config keyHash candidates).1 := by
  induction candidates generalizing manager with
  | nil => exact .refl manager
  | cons candidate candidates ih =>
    rw [SessionManager.acquireCandidate]
    split
    · have marks := tryMarkInFlight_spec manager candidate.sessionId (some keyHash) none
      generalize manager.tryMarkInFlight candidate.sessionId (some keyHash) none = result at marks ⊢
      cases marks with
      | notFound | stale => exact (Preserves.removePrefix manager _ keyHash).trans (ih _)
      | busy => exact ih manager
      | marked => exact .modify markInFlight_keys manager _
    · exact ih manager

theorem Preserves.tryAcquireByPrefixHash (manager : SessionManager)
    (blockInfos : List BlockHashInfo) :
    Preserves hashed manager (manager.tryAcquireByPrefixHash config blockInfos).1 := by
  cases blockInfos with
  | nil => exact .refl manager
  | cons front remaining =>
    rw [SessionManager.tryAcquireByPrefixHash]
    split
    · exact .refl manager
    · exact .acquireCandidate config front.hash manager _

theorem Preserves.tryAcquireByResponseId (manager : SessionManager) (previousResponseId : String) :
    Preserves hashed manager (manager.tryAcquireByResponseId previousResponseId).1 := by
  rw [SessionManager.tryAcquireByResponseId]
  split
  · exact .refl manager
  · split
    · exact .refl manager
    · rename_i sessionId _
      have marks := tryMarkInFlight_spec manager sessionId none (some previousResponseId)
      generalize manager.tryMarkInFlight sessionId none (some previousResponseId) = result
        at marks ⊢
      cases marks with
      | notFound | stale => exact .removeResponseId manager sessionId previousResponseId
      | busy => exact .refl manager
      | marked => exact .modify markInFlight_keys manager sessionId

theorem Preserves.shrink (manager : SessionManager) (sessionId : String) (matchedTokens : Nat) :
    Preserves hashed manager
      (manager.shrinkResidentPrefixToMatchedTokens config sessionId matchedTokens) :=
  .modify (shrinkCommittedBlocks_keys _) manager sessionId

theorem Preserves.setResidentPrefixBlocks (manager : SessionManager) (sessionId : String)
    (residentBlocks : Nat) :
    Preserves hashed manager (manager.setResidentPrefixBlocks sessionId residentBlocks) := by
  refine .modify ?_ manager sessionId
  exact fun _ => rfl

theorem Preserves.continueResponse (manager : SessionManager)
    (nonzero : hashed → ∀ block ∈ blocks, block.hash ≠ 0) (opts : GetSlotOptions)
    (sessionId : String) (slotId : UInt32) :
    Preserves hashed manager (manager.continueResponse config blocks opts sessionId slotId).1 := by
  rw [SessionManager.continueResponse]
  obtain ⟨matchedTokens, thinkTokens⟩ := manager.computeMatchedTokens config sessionId blocks
  have registered : Preserves hashed _ _ := .registerPrefixHash nonzero manager sessionId false
  refine registered.trans ((Preserves.shrink config _ sessionId
    matchedTokens).trans ?_)
  cases opts.responseId with
  | none => exact .refl _
  | some responseId => exact .updateResponseId _ _ responseId

theorem Preserves.continuePrefix (manager : SessionManager)
    (nonzero : hashed → ∀ block ∈ blocks, block.hash ≠ 0) (acquired : AcquireResult) :
    Preserves hashed manager (manager.continuePrefix config blocks acquired).1 :=
  (Preserves.registerPrefixHash nonzero manager acquired.sessionId false).trans
    (.shrink config _ _ _)

section

variable (sound : Sound hashed manager)
include sound

theorem Sound.getSlot (nonzero : hashed → ∀ block ∈ blocks, block.hash ≠ 0)
    (fresh : manager.Fresh creation.sessionId) (config : SessionConfig) (opts : GetSlotOptions) :
    Sound hashed (manager.getSlot config blocks opts creation).1 := by
  rw [SessionManager.getSlot]
  have byResponse : Preserves hashed _ _ := .tryAcquireByResponseId manager (opts.previousResponseId.getD "")
  generalize manager.tryAcquireByResponseId (opts.previousResponseId.getD "") = first
    at byResponse ⊢
  obtain ⟨left, outcome⟩ := first
  cases outcome with
  | hit sessionId slotId =>
    exact (byResponse.trans (.continueResponse config left nonzero opts sessionId slotId)).sound
      sound
  | inFlight => exact byResponse.sound sound
  | miss =>
    have byPrefix := byResponse.trans (Preserves.tryAcquireByPrefixHash config left blocks)
    simp only at byPrefix ⊢
    generalize left.tryAcquireByPrefixHash config blocks = second at byPrefix ⊢
    obtain ⟨left, acquired⟩ := second
    cases acquired with
    | none => exact byPrefix.allocate sound fresh config _ _ _ fun _ => nonzero
    | some acquired =>
      simp only
      split
      · exact (byPrefix.trans (.continuePrefix config left nonzero acquired)).sound sound
      · exact byPrefix.allocate sound fresh config _ _ _ fun _ => nonzero

theorem Sound.resolveDecodeDestinationSlot {registrationHashes : List UInt64}
    (nonzero : hashed → ∀ block ∈ hashesToBlockInfos registrationHashes, block.hash ≠ 0)
    (fresh : manager.Fresh creation.sessionId) (config : SessionConfig)
    (previousResponseId : Option String) :
    Sound hashed (manager.resolveDecodeDestinationSlot config registrationHashes previousResponseId
      creation).1 := by
  rw [SessionManager.resolveDecodeDestinationSlot]
  split
  · have byResponse : Preserves hashed _ _ := .tryAcquireByResponseId manager (previousResponseId.getD "")
    generalize manager.tryAcquireByResponseId (previousResponseId.getD "") = first at byResponse ⊢
    obtain ⟨left, outcome⟩ := first
    cases outcome with
    | hit sessionId slotId =>
      exact (byResponse.trans (.registerPrefixHash nonzero left sessionId false)).sound sound
    | inFlight => exact byResponse.sound sound
    | miss =>
      exact byResponse.allocate sound fresh config _ _ _ fun _ => nonzero
  · have byPrefix : Preserves hashed _ _ := .tryAcquireByPrefixHash config manager
      (hashesToBlockInfos registrationHashes)
    generalize manager.tryAcquireByPrefixHash config (hashesToBlockInfos registrationHashes) =
      second at byPrefix ⊢
    obtain ⟨left, acquired⟩ := second
    cases acquired with
    | none => exact byPrefix.allocate sound fresh config _ _ _ fun _ => nonzero
    | some acquired =>
      simp only
      split
      · exact (byPrefix.trans (.registerPrefixHash nonzero left _ false)).sound sound
      · exact byPrefix.allocate sound fresh config _ _ _ fun _ => nonzero

theorem Sound.resolvePrefillSession {routingHashes : List UInt64}
    (nonzero : hashed → ∀ block ∈ hashesToBlockInfos routingHashes, block.hash ≠ 0)
    (fresh : manager.Fresh creation.sessionId) (config : SessionConfig) (promptTokens : Nat) :
    Sound hashed (manager.resolvePrefillSession config routingHashes promptTokens creation).1 := by
  rw [SessionManager.resolvePrefillSession]
  have byPrefix : Preserves hashed _ _ := .tryAcquireByPrefixHash config manager (hashesToBlockInfos routingHashes)
  generalize manager.tryAcquireByPrefixHash config (hashesToBlockInfos routingHashes) = second
    at byPrefix ⊢
  obtain ⟨left, acquired⟩ := second
  cases acquired with
  | none => exact byPrefix.allocate sound fresh config _ _ _ fun _ => nonzero
  | some acquired =>
    simp only
    split
    · exact ((byPrefix.trans (.registerPrefixHash nonzero left _ false)).trans
        (.shrink config _ _ _)).sound sound
    · exact byPrefix.allocate sound fresh config _ _ _ fun _ => nonzero

end

end Acquisition

section Callbacks

variable {manager : SessionManager} {sessionId : String}

theorem new_iff : manager.New sessionId ↔ (∀ key ∈ manager.keysOf sessionId, key.2 = "") ∧
    manager.allocations.lookup sessionId = none := by
  rw [SessionManager.New, SessionManager.keysOf]
  cases manager.sessions.lookup sessionId <;> simp

theorem Sound.finishAllocation (sound : Sound hashed manager) (sessionId : String)
    (slotIdToCopyFrom : Option UInt32) :
    Sound hashed (manager.finishAllocation sessionId slotIdToCopyFrom) := { sound with
  awaited other allocation allocated := sound.awaited other allocation
    (Table.mem_entries.mp (Table.mem_entries_erase (Table.mem_entries.mpr allocated))) }

theorem Sound.completeGetSlot (sound : Sound hashed manager) (new : manager.New sessionId)
    {blocks : List BlockHashInfo} (nonzero : hashed → ∀ block ∈ blocks, block.hash ≠ 0)
    (responseId : Option String) (copyMatchedTokens : Nat) :
    Sound hashed (manager.completeGetSlot sessionId blocks responseId copyMatchedTokens).1 := by
  rw [SessionManager.completeGetSlot]
  have acquired : Preserves hashed _ _ := .acquire manager sessionId
  have keys := keysOf_acquireInFlight manager sessionId sessionId
  generalize manager.acquireInFlight sessionId = result at acquired keys ⊢
  obtain ⟨left, slotId⟩ := result
  cases slotId with
  | none => exact acquired.sound sound
  | some slotId =>
    have left : left.New sessionId := by
      rw [new_iff] at new ⊢
      exact ⟨keys ▸ new.1, acquired.allocations ▸ new.2⟩
    refine (Preserves.registerPrefixHash nonzero _ sessionId false).sound ?_
    cases responseId with
    | none => exact acquired.sound sound
    | some responseId => exact (acquired.sound sound).registerResponseId left responseId

theorem Preserves.completeDecodeDestinationSlot (manager : SessionManager) (sessionId : String)
    {blockInfos : List BlockHashInfo} (nonzero : hashed → ∀ block ∈ blockInfos, block.hash ≠ 0)
    (copyMatchedTokens : Option Nat) : Preserves hashed manager
      (manager.completeDecodeDestinationSlot sessionId blockInfos copyMatchedTokens).1 := by
  rw [SessionManager.completeDecodeDestinationSlot]
  have acquired : Preserves hashed _ _ := .acquire manager sessionId
  generalize manager.acquireInFlight sessionId = result at acquired ⊢
  obtain ⟨left, slotId⟩ := result
  cases slotId with
  | none => exact acquired
  | some slotId => exact acquired.trans (.registerPrefixHash nonzero left sessionId false)

theorem Preserves.completePrefillSession (manager : SessionManager) (sessionId : String)
    {blockInfos : List BlockHashInfo} (nonzero : hashed → ∀ block ∈ blockInfos, block.hash ≠ 0)
    (copyMatchedTokens : Nat) : Preserves hashed manager
      (manager.completePrefillSession sessionId blockInfos copyMatchedTokens).1 := by
  rw [SessionManager.completePrefillSession]
  have registered : Preserves hashed _ _ := .registerPrefixHash nonzero manager sessionId false
  have acquired := registered.trans (Preserves.acquire _ sessionId)
  generalize (manager.registerPrefixHash sessionId blockInfos false).acquireInFlight sessionId =
    result at acquired ⊢
  obtain ⟨left, slotId⟩ := result
  cases slotId <;> exact acquired

section

variable (sound : Sound hashed manager)
include sound

theorem Sound.complete (new : manager.New sessionId) {caller : Caller}
    (nonzero : hashed → ∀ block ∈ caller.blocks, block.hash ≠ 0) (isCopy : Bool) :
    Sound hashed (manager.complete sessionId isCopy caller).1 := by
  cases caller with
  | other => exact sound
  | getSlot blocks responseId copyMatchedTokens =>
    exact sound.completeGetSlot new nonzero responseId copyMatchedTokens
  | decodeDestinationSlot blockInfos copyMatchedTokens =>
    exact (Preserves.completeDecodeDestinationSlot manager sessionId nonzero _).sound sound
  | prefillSession blockInfos copyMatchedTokens =>
    exact (Preserves.completePrefillSession manager sessionId nonzero _).sound sound

theorem Sound.runCallback (sessionId : String) :
    Sound hashed (manager.runCallback sessionId).1 := by
  rw [SessionManager.runCallback]
  cases found : manager.allocations.lookup sessionId with
  | none => exact sound
  | some allocation =>
    have awaited := sound.awaited sessionId allocation found
    have ended := sound.finishAllocation sessionId allocation.slotIdToCopyFrom
    simp only
    split
    · exact sound
    · exact sound
    · exact ended
    · have new : (manager.finishAllocation sessionId allocation.slotIdToCopyFrom).New sessionId :=
        new_iff.mpr ⟨awaited.new, AList.lookup_erase sessionId manager.allocations⟩
      exact ended.complete new awaited.nonzero _

theorem Sound.finalizeAndRegisterHashes (sessionId : String) {allBlocks : List BlockHashInfo}
    (nonzero : hashed → ∀ block ∈ allBlocks, block.hash ≠ 0) :
    Sound hashed (manager.finalizeAndRegisterHashes sessionId allBlocks) := by
  cases allBlocks with
  | nil => exact (Preserves.close manager sessionId).sound sound
  | cons front remaining =>
    exact ((Preserves.setResidentPrefixBlocks manager sessionId _).trans
      (.registerPrefixHash nonzero _ sessionId true)).sound sound

end

end Callbacks

theorem Sound.perform {manager : SessionManager} (sound : Sound hashed manager) (config : SessionConfig)
    {operation : Operation} (distinct : manager.Distinct operation)
    (nonzero : hashed → ∀ block ∈ operation.blocks, block.hash ≠ 0) :
    Sound hashed (manager.perform config operation) := by
  obtain ⟨fresh, new⟩ := distinct
  cases operation with
  | createSession creation initialBlockInfos slotId slotIdToCopyFrom =>
    cases slotId with
    | none =>
      exact sound.createSession (fresh creation rfl) config _ _ fun _ _ member => by cases member
    | some slotId => exact sound.createPreassigned (fresh creation rfl) nonzero config slotId
  | getSlot blocks opts creation => exact sound.getSlot nonzero (fresh creation rfl) config opts
  | resolveDecodeDestinationSlot registrationHashes previousResponseId creation =>
    exact sound.resolveDecodeDestinationSlot nonzero (fresh creation rfl) config previousResponseId
  | resolvePrefillSession routingHashes promptTokens creation =>
    exact sound.resolvePrefillSession nonzero (fresh creation rfl) config promptTokens
  | tryAcquireByPrefixHash blockInfos =>
    exact (Preserves.tryAcquireByPrefixHash config manager blockInfos).sound sound
  | tryAcquireByResponseId previousResponseId =>
    exact (Preserves.tryAcquireByResponseId manager previousResponseId).sound sound
  | acquireInFlight sessionId => exact (Preserves.acquire manager sessionId).sound sound
  | releaseInFlight sessionId =>
    exact (Preserves.modify clearInFlight_keys manager sessionId).sound sound
  | registerPrefixHash sessionId blockInfos clearBeingGenerated =>
    exact (Preserves.registerPrefixHash nonzero manager sessionId clearBeingGenerated).sound sound
  | registerResponseId sessionId responseId => exact sound.registerResponseId new responseId
  | updateResponseId previousResponseId responseId =>
    exact (Preserves.updateResponseId manager previousResponseId responseId).sound sound
  | clearSessionBlockThinkTokens sessionId =>
    exact (Preserves.clearThinkTokens manager sessionId).sound sound
  | setResidentPrefixBlocks sessionId residentBlocks =>
    exact (Preserves.setResidentPrefixBlocks manager sessionId residentBlocks).sound sound
  | shrinkResidentPrefixToMatchedTokens sessionId matchedTokens =>
    exact (Preserves.shrink config manager sessionId matchedTokens).sound sound
  | initTokenAccumulator sessionId =>
    refine (Preserves.modify ?_ manager sessionId).sound sound
    exact fun _ => rfl
  | finalizeAndRegisterHashes sessionId allBlocks =>
    exact sound.finalizeAndRegisterHashes sessionId nonzero
  | closeSession sessionId => exact (Preserves.close manager sessionId).sound sound
  | evictOldSessions leastRecent =>
    exact (Preserves.evictOldSessions config manager leastRecent).sound sound
  | retryFailedAllocation sessionId queueFull =>
    exact sound.retryFailedAllocation config sessionId queueFull
  | handleMemoryResult sessionId slotId => exact sound.handleMemoryResult sessionId slotId
  | runCallback sessionId => exact sound.runCallback sessionId

theorem Sound.reached {config : SessionConfig} {manager : SessionManager}
    {allowed : SessionManager → Operation → Prop}
    (distinct : ∀ before operation, allowed before operation → before.Distinct operation)
    (nonzero : hashed → ∀ before operation, allowed before operation →
      ∀ block ∈ operation.blocks, block.hash ≠ 0)
    (reached : Reaches (step config) allowed {} manager) : Sound hashed manager := by
  refine reached.invariant (Sound hashed) Sound.empty
    fun before operation after sound permitted stepped => ?_
  obtain rfl := Option.some.inj stepped
  exact sound.perform config (distinct before operation permitted)
    fun hashes => nonzero hashes before operation permitted

/-- After every sequence of operations the indexes agree with the sessions. -/
theorem indexes_agree {config : SessionConfig} {manager : SessionManager}
    (reached : Reaches (step config) SessionManager.Allowed {} manager) : IndexesAgree manager :=
  (Sound.reached (fun _ _ => And.left) (fun _ _ _ => And.right) reached).indexesAgree

section Runs

def firstCandidates (candidates : List (Candidate String)) : List (Candidate String) :=
  candidates.insertionSort fun first second => second.matchedBlocks ≤ first.matchedBlocks

/-- Blocks of two tokens; every candidate is good enough for a hit. -/
def decodeConfig : SessionConfig where
  sizes := { firstBlockSize := 2, blockSize := 2 }
  llmMode := .decodeOnly
  minTokensToCopy := 2
  passesHitThreshold _ := true
  sortCandidates := firstCandidates
  perm candidates := List.perm_insertionSort _ candidates
  sorted candidates := by
    have total : Std.Total fun first second : Candidate String =>
        second.matchedBlocks ≤ first.matchedBlocks := ⟨fun _ _ => Nat.le_total _ _⟩
    have trans : IsTrans (Candidate String) fun first second =>
        second.matchedBlocks ≤ first.matchedBlocks := ⟨fun _ _ _ ab bc => Nat.le_trans bc ab⟩
    exact List.pairwise_insertionSort _ candidates
  maxSessionsCount := 4
  sessionEvictionRate := 50
  sessionEvictionCount := 1
  sessionAllocationMaxRetries := 1

/-- A session is created, has a turn, and goes on with another response id. -/
def twoTurns : List Operation :=
  [.getSlot [⟨7, 0⟩] ⟨none, some "r1"⟩ { sessionId := "a" }, .handleMemoryResult "a" (some 3),
    .runCallback "a", .finalizeAndRegisterHashes "a" [⟨7, 0⟩, ⟨8, 0⟩], .releaseInFlight "a",
    .getSlot [⟨7, 0⟩, ⟨8, 0⟩] ⟨some "r1", some "r2"⟩ { sessionId := "b" }]

theorem twoTurns_runs : (runWithin (step decodeConfig) SessionManager.Allowed {}
    twoTurns).isSome = true := by
  decide +kernel

theorem indexes_agree_twoTurns : IndexesAgree
    ((runWithin (step decodeConfig) SessionManager.Allowed {} twoTurns).get twoTurns_runs) :=
  indexes_agree (reaches_get twoTurns_runs)

example : (((runWithin (step decodeConfig) SessionManager.Allowed {} twoTurns).get
    twoTurns_runs).responseIdIndex.lookup "r2") = some "a" := by
  decide +kernel

end Runs

end InferenceServer.Sessions
