import InferenceServer.Sessions.ResidentBlocks

/-! How requests get their slots: at once, with a session that is there, or when the callback of an
allocation runs. -/
namespace InferenceServer.Sessions
open Machine PrefixCache Pipeline

/-- A session that waits for its callback is not registered. -/
def SessionManager.Unlisted (manager : SessionManager) : Prop :=
  ∀ sessionId, manager.allocations.lookup sessionId ≠ none →
    ∀ hashes, ¬manager.prefixIndex.Registered sessionId hashes

section Continuing

variable {config : SessionConfig} {before acquired after : SessionManager} {sessionId : String}
variable {session : Session} {blocks : List BlockHashInfo}

theorem Starts.idle {turn : SlotTurn} (starts : Starts before after turn)
    (free : before.allocations.lookup turn.sessionId = none) :
    after.allocations.lookup turn.sessionId = none := by
  by_contra waits
  exact starts.allocations turn.sessionId waits free

theorem shrink_fewer (config : SessionConfig) (manager : SessionManager) (sessionId : String)
    (matchedTokens : Nat) (later : Session)
    (found : (manager.shrinkResidentPrefixToMatchedTokens config sessionId
      matchedTokens).sessions.lookup sessionId = some later) :
    later.committedBlocks ≤ tokensToBlocks config.sizes matchedTokens := by
  rw [SessionManager.shrinkResidentPrefixToMatchedTokens, SessionManager.modify,
    Table.lookup_modify, if_pos rfl] at found
  obtain ⟨earlier, -, rfl⟩ := Option.map_eq_some_iff.mp found
  rw [Session.shrinkCommittedBlocks]
  split
  · exact Nat.le_refl _
  · rename_i fits
    exact Nat.not_lt.mp fits

theorem computeMatchedTokens_le (config : SessionConfig) (manager : SessionManager) (sessionId : String)
    (blocks : List BlockHashInfo) :
    tokensToBlocks config.sizes (manager.computeMatchedTokens config sessionId blocks).1 ≤
      manager.matchedBlocks sessionId blocks := by
  cases blocks with
  | nil => exact Nat.le_refl 0
  | cons front remaining =>
    simp only [SessionManager.computeMatchedTokens, SessionManager.matchedBlocks]
    split
    · exact Nat.zero_le _
    · exact tokensToBlocks_le config.sizes _

/-- A request that goes on with a session is credited with what its prompt has in common. -/
theorem Starts.of_hit (sound : Sound True before) (keeps : Keeps none before acquired)
    (acquires : Preserves True before acquired)
    (found : acquired.sessions.lookup sessionId = some session)
    (later : Keeps none (acquired.registerPrefixHash sessionId blocks false) after)
    (fewer : ∀ later, after.sessions.lookup sessionId = some later →
      later.committedBlocks ≤ before.matchedBlocks sessionId blocks) :
    Starts before after { sessionId, slotId := session.slotId, blocks
                          credited := before.matchedBlocks sessionId blocks } :=
  .of_found keeps (acquires.sound sound) found later fewer fun last there positive =>
    sound.agrees (fewer last there) positive

theorem Starts.continueResponse (config : SessionConfig) (blocks : List BlockHashInfo)
    (sound : Sound True before) (keeps : Keeps none before acquired)
    (acquires : Preserves True before acquired)
    (found : acquired.sessions.lookup sessionId = some session)
    (prefixIndex : acquired.prefixIndex = before.prefixIndex) (opts : GetSlotOptions) :
    Starts before (acquired.continueResponse config blocks opts sessionId session.slotId).1
      { sessionId, slotId := session.slotId, blocks
        credited := before.matchedBlocks sessionId blocks } := by
  have fewer := computeMatchedTokens_le config acquired sessionId blocks
  have same : acquired.matchedBlocks sessionId blocks = before.matchedBlocks sessionId blocks := by
    cases blocks with
    | nil => rfl
    | cons front remaining => rw [SessionManager.matchedBlocks, prefixIndex]; rfl
  rw [same] at fewer
  rw [SessionManager.continueResponse]
  generalize acquired.computeMatchedTokens config sessionId blocks = matched at fewer ⊢
  obtain ⟨matchedTokens, thinkTokens⟩ := matched
  dsimp only at fewer ⊢
  have shrunk := shrink_fewer config (acquired.registerPrefixHash sessionId blocks false) sessionId
    matchedTokens
  have shrinks : Keeps none _ _ := .shrink config
    (acquired.registerPrefixHash sessionId blocks false) sessionId matchedTokens
  generalize (acquired.registerPrefixHash sessionId blocks
    false).shrinkResidentPrefixToMatchedTokens config sessionId matchedTokens = shrunken
    at shrunk shrinks ⊢
  have updates : Keeps none shrunken (opts.responseId.elim shrunken
      (shrunken.updateResponseId (opts.previousResponseId.getD ""))) := by
    cases opts.responseId with
    | none => exact .refl shrunken
    | some responseId => exact .updateResponseId shrunken _ responseId
  refine .of_hit sound keeps acquires found (shrinks.trans updates) fun last there => ?_
  obtain ⟨earlier, present, -, less⟩ := updates.sessions sessionId last there
  exact Nat.le_trans less (Nat.le_trans (shrunk earlier present) fewer)

/-- The blocks that are resident beyond the match are given up. -/
theorem Starts.shrink (config : SessionConfig) (sound : Sound True before) (keeps : Keeps none before acquired)
    (acquires : Preserves True before acquired)
    (found : acquired.sessions.lookup sessionId = some session) {matchedBlocks : Nat}
    (matched : matchedBlocks = before.matchedBlocks sessionId blocks) :
    Starts before ((acquired.registerPrefixHash sessionId blocks
        false).shrinkResidentPrefixToMatchedTokens config sessionId
          (blocksToTokens config.sizes matchedBlocks))
      { sessionId, slotId := session.slotId, blocks
        credited := before.matchedBlocks sessionId blocks } := by
  refine .of_hit sound keeps acquires found (.shrink config _ sessionId _) fun last there => ?_
  exact matched ▸ Nat.le_trans (shrink_fewer config _ sessionId _ last there)
    (tokensToBlocks_le config.sizes matchedBlocks)

end Continuing

section Requests

variable {manager : SessionManager} {config : SessionConfig} {blocks : List BlockHashInfo}
variable {sessionId : String} {session : Session}

theorem prefixHit_mem {candidate : Candidate String}
    (first : manager.prefixHit config blocks = some candidate) :
    candidate ∈ manager.candidatesFor config blocks := by
  cases blocks with
  | nil => cases first
  | cons front remaining => exact List.mem_of_find?_eq_some first

/-- A session that a prompt can go on with does not wait for its callback. -/
theorem Sound.prefixHit_idle (sound : Sound True manager) (unlisted : manager.Unlisted)
    {candidate : Candidate String} (first : manager.prefixHit config blocks = some candidate) :
    manager.allocations.lookup candidate.sessionId = none := by
  obtain ⟨-, own, registered, -⟩ := sound.candidate (prefixHit_mem first)
  by_contra waits
  exact unlisted candidate.sessionId waits own registered

/-- Nor does one that has a response id. -/
theorem Sound.named_idle (sound : Sound True manager)
    (found : manager.sessions.lookup sessionId = some session) (named : session.responseId ≠ "") :
    manager.allocations.lookup sessionId = none := by
  cases waits : manager.allocations.lookup sessionId with
  | none => rfl
  | some allocation =>
    have new := (sound.awaited sessionId allocation waits).new
    rw [SessionManager.keysOf, found] at new
    exact absurd (new _ rfl) named

theorem found_markInFlight (found : manager.sessions.lookup sessionId = some session) :
    ∃ marked, (manager.modify sessionId Session.markInFlight).sessions.lookup sessionId =
      some marked ∧ marked.slotId = session.slotId := by
  refine ⟨session.markInFlight, ?_, ?_⟩
  · rw [SessionManager.modify, Table.lookup_modify, if_pos rfl, found, Option.map_some]
  · rw [Session.markInFlight]
    split <;> rfl

theorem removeResponseId_eq (manager : SessionManager) (sessionId id : String) :
    ∃ responseIdIndex, manager.removeResponseId sessionId id = { manager with responseIdIndex } := by
  rw [SessionManager.removeResponseId]
  split
  · exact ⟨_, rfl⟩
  · exact ⟨manager.responseIdIndex, rfl⟩

/-- The request that has got the slot of an answer. -/
def SessionManager.continued (manager : SessionManager) (blocks : List BlockHashInfo)
    (slot : String × UInt32) : SlotTurn where
  sessionId := slot.1
  slotId := slot.2
  blocks := blocks
  credited := manager.matchedBlocks slot.1 blocks

def DecodeOutcome.slot? : DecodeOutcome → Option (String × UInt32)
  | resolved slot => some (slot.sessionId, slot.slotId)
  | error | allocating => none

def PrefillOutcome.slot? : PrefillOutcome → Option (String × UInt32)
  | resolved session => some (session.sessionId, session.prefillSlotId)
  | allocating => none

/-- What `getSlot` does without a previous response. -/
def SessionManager.getSlotByPrompt (manager : SessionManager) (config : SessionConfig)
    (blocks : List BlockHashInfo) (opts : GetSlotOptions) (creation : Creation) :
    SessionManager × SlotOutcome :=
  match manager.tryAcquireByPrefixHash config blocks with
  | (manager, some acquired) =>
    if acquired.sessionFound then manager.continuePrefix config blocks acquired
    else (manager.allocate config creation []
      (manager.bestSlotToCopyFrom config acquired.candidatesList)
      (.getSlot blocks opts.responseId), .allocating)
  | (manager, none) =>
    (manager.allocate config creation [] none (.getSlot blocks opts.responseId), .allocating)

section

variable (sound : Sound True manager)
include sound

/-- Without a previous response `getSlot` goes by the prompt. -/
theorem Sound.getSlot_missed (unlisted : manager.Unlisted) (opts : GetSlotOptions)
    (creation : Creation) {after : SessionManager} {outcome : SlotOutcome}
    (called : manager.getSlotByPrompt config blocks opts creation = (after, outcome)) :
    Handled (some creation.sessionId) manager after
      (outcome.answer.slot?.map (manager.continued blocks)) := by
  unfold SessionManager.getSlotByPrompt at called
  have byPrefix := tryAcquireByPrefixHash_spec config manager blocks
  have keeps (added : Option String) : Keeps added manager _ :=
    .tryAcquireByPrefixHash config manager blocks
  have acquires : Preserves True manager _ := .tryAcquireByPrefixHash config manager blocks
  generalize manager.tryAcquireByPrefixHash config blocks = acquired
    at byPrefix keeps acquires called
  cases byPrefix with
  | nothing =>
    obtain ⟨rfl, rfl⟩ := Prod.mk.inj called
    exact .kept (.allocate config manager creation _ _ _)
  | missed =>
    obtain ⟨rfl, rfl⟩ := Prod.mk.inj called
    exact .kept ((keeps _).trans (.allocate config _ creation _ _ _))
  | @hit prefixIndex candidate session first found =>
    obtain ⟨rfl, rfl⟩ := Prod.mk.inj called
    obtain ⟨marked, there, slot⟩ := found_markInFlight found
    have starts := Starts.shrink config sound (keeps none) acquires there
      (sound.candidate (prefixHit_mem first)).1
    rw [slot] at starts
    exact .started starts (starts.idle (sound.prefixHit_idle unlisted first))

theorem Sound.getSlot_handled (unlisted : manager.Unlisted) (config : SessionConfig)
    (blocks : List BlockHashInfo) (opts : GetSlotOptions) (creation : Creation) :
    Handled (some creation.sessionId) manager (manager.getSlot config blocks opts creation).1
      (manager.turnOf config (.getSlot blocks opts creation)) := by
  have turn (after : SessionManager) (outcome : SlotOutcome)
      (called : manager.getSlot config blocks opts creation = (after, outcome)) :
      manager.turnOf config (.getSlot blocks opts creation) =
        outcome.answer.slot?.map (manager.continued blocks) := by
    simp only [SessionManager.turnOf, SessionManager.answer, called]
    cases outcome <;> rfl
  cases called : manager.getSlot config blocks opts creation with
  | mk after outcome =>
    rw [turn after outcome called]
    rw [SessionManager.getSlot] at called
    have byResponse := tryAcquireByResponseId_spec manager (opts.previousResponseId.getD "")
    have keeps : Keeps none manager _ :=
      .tryAcquireByResponseId manager (opts.previousResponseId.getD "")
    have acquires : Preserves True manager _ :=
      .tryAcquireByResponseId manager (opts.previousResponseId.getD "")
    generalize manager.tryAcquireByResponseId (opts.previousResponseId.getD "") = first
      at byResponse keeps acquires called
    cases byResponse with
    | hit hit indexed found named =>
      obtain ⟨marked, there, slot⟩ := found_markInFlight found
      have starts := Starts.continueResponse config blocks sound keeps acquires there rfl opts
      rw [slot] at starts
      obtain ⟨rfl, rfl⟩ := Prod.mk.inj called
      exact .started starts (starts.idle (sound.named_idle found (named ▸ hit.1)))
    | inFlight =>
      obtain ⟨rfl, rfl⟩ := Prod.mk.inj called
      exact .kept (.refl _)
    | unknown => exact sound.getSlot_missed unlisted opts creation called
    | @stale sessionId =>
      obtain ⟨responseIdIndex, removed⟩ := removeResponseId_eq manager sessionId
        (opts.previousResponseId.getD "")
      simp only [removed] at called acquires
      have handled := (acquires.sound sound).getSlot_missed unlisted opts creation called
      have same : SessionManager.continued { manager with responseIdIndex } blocks =
          manager.continued blocks := by
        funext slot
        cases blocks <;> rfl
      rw [same] at handled
      exact Handled.congr (by rfl) (by rfl) (by exact fun _ => id) handled

/-- A reservation gives up no blocks: there may be none beyond the match. -/
theorem Starts.reserve {acquired : SessionManager} (keeps : Keeps none manager acquired)
    (acquires : Preserves True manager acquired)
    (found : acquired.sessions.lookup sessionId = some session)
    (fewer : manager.getCommittedBlocks sessionId ≤ manager.matchedBlocks sessionId blocks) :
    Starts manager (acquired.registerPrefixHash sessionId blocks false)
      { sessionId, slotId := session.slotId, blocks
        credited := manager.matchedBlocks sessionId blocks } := by
  refine .of_hit sound keeps acquires found (.refl _) fun last there => ?_
  obtain ⟨earlier, present, -, less⟩ := keeps.sessions.trans (.registerPrefixHash acquired sessionId
    blocks false) sessionId last there
  rw [SessionManager.getCommittedBlocks, present] at fewer
  exact Nat.le_trans less fewer

theorem Sound.resolveDecodeDestinationSlot_handled (unlisted : manager.Unlisted)
    (config : SessionConfig) (registrationHashes : List UInt64) (previousResponseId : Option String)
    (creation : Creation)
    (fewer : ∀ turn ∈ manager.turnOf config (.resolveDecodeDestinationSlot registrationHashes
      previousResponseId creation), manager.getCommittedBlocks turn.sessionId ≤ turn.credited) :
    Handled (some creation.sessionId) manager
      (manager.resolveDecodeDestinationSlot config registrationHashes previousResponseId creation).1
      (manager.turnOf config (.resolveDecodeDestinationSlot registrationHashes previousResponseId
        creation)) := by
  have turn (after : SessionManager) (outcome : DecodeOutcome)
      (called : manager.resolveDecodeDestinationSlot config registrationHashes previousResponseId
        creation = (after, outcome)) :
      manager.turnOf config (.resolveDecodeDestinationSlot registrationHashes previousResponseId
        creation) = outcome.slot?.map (manager.continued (hashesToBlockInfos registrationHashes)) := by
    simp only [SessionManager.turnOf, SessionManager.answer, called]
    cases outcome <;> rfl
  cases called : manager.resolveDecodeDestinationSlot config registrationHashes previousResponseId
      creation with
  | mk after outcome =>
    rw [turn after outcome called] at fewer ⊢
    simp only [SessionManager.resolveDecodeDestinationSlot] at called
    split at called
    · have byResponse := tryAcquireByResponseId_spec manager (previousResponseId.getD "")
      have keeps (added : Option String) : Keeps added manager _ :=
        .tryAcquireByResponseId manager (previousResponseId.getD "")
      have acquires : Preserves True manager _ :=
        .tryAcquireByResponseId manager (previousResponseId.getD "")
      generalize manager.tryAcquireByResponseId (previousResponseId.getD "") = first
        at byResponse keeps acquires called
      cases byResponse with
      | hit hit indexed found named =>
        obtain ⟨marked, there, slot⟩ := found_markInFlight found
        obtain ⟨rfl, rfl⟩ := Prod.mk.inj called
        have starts := Starts.reserve sound (keeps none) acquires there (fewer _ rfl)
        rw [slot] at starts
        exact .started starts (starts.idle (sound.named_idle found (named ▸ hit.1)))
      | inFlight =>
        obtain ⟨rfl, rfl⟩ := Prod.mk.inj called
        exact .kept (.refl _)
      | unknown | stale =>
        obtain ⟨rfl, rfl⟩ := Prod.mk.inj called
        exact .kept ((keeps _).trans (.allocate config _ creation _ _ _))
    · have byPrefix := tryAcquireByPrefixHash_spec config manager
        (hashesToBlockInfos registrationHashes)
      have keeps (added : Option String) : Keeps added manager _ :=
        .tryAcquireByPrefixHash config manager (hashesToBlockInfos registrationHashes)
      have acquires : Preserves True manager _ :=
        .tryAcquireByPrefixHash config manager (hashesToBlockInfos registrationHashes)
      generalize manager.tryAcquireByPrefixHash config (hashesToBlockInfos registrationHashes) =
        acquired at byPrefix keeps acquires called
      cases byPrefix with
      | nothing =>
        obtain ⟨rfl, rfl⟩ := Prod.mk.inj called
        exact .kept (.allocate config manager creation _ _ _)
      | missed =>
        obtain ⟨rfl, rfl⟩ := Prod.mk.inj called
        exact .kept ((keeps _).trans (.allocate config _ creation _ _ _))
      | hit prefixIndex first found =>
        obtain ⟨marked, there, slot⟩ := found_markInFlight found
        obtain ⟨rfl, rfl⟩ := Prod.mk.inj called
        have starts := Starts.reserve sound (keeps none) acquires there (fewer _ rfl)
        rw [slot] at starts
        exact .started starts (starts.idle (sound.prefixHit_idle unlisted first))

theorem Sound.resolvePrefillSession_handled (unlisted : manager.Unlisted) (config : SessionConfig)
    (routingHashes : List UInt64) (promptTokens : Nat) (creation : Creation) :
    Handled (some creation.sessionId) manager
      (manager.resolvePrefillSession config routingHashes promptTokens creation).1
      (manager.turnOf config (.resolvePrefillSession routingHashes promptTokens creation)) := by
  have turn (after : SessionManager) (outcome : PrefillOutcome)
      (called : manager.resolvePrefillSession config routingHashes promptTokens creation =
        (after, outcome)) :
      manager.turnOf config (.resolvePrefillSession routingHashes promptTokens creation) =
        outcome.slot?.map (manager.continued (hashesToBlockInfos routingHashes)) := by
    simp only [SessionManager.turnOf, SessionManager.answer, called]
    cases outcome <;> rfl
  cases called : manager.resolvePrefillSession config routingHashes promptTokens creation with
  | mk after outcome =>
    rw [turn after outcome called]
    simp only [SessionManager.resolvePrefillSession] at called
    have byPrefix := tryAcquireByPrefixHash_spec config manager (hashesToBlockInfos routingHashes)
    have keeps (added : Option String) : Keeps added manager _ :=
      .tryAcquireByPrefixHash config manager (hashesToBlockInfos routingHashes)
    have acquires : Preserves True manager _ :=
      .tryAcquireByPrefixHash config manager (hashesToBlockInfos routingHashes)
    generalize manager.tryAcquireByPrefixHash config (hashesToBlockInfos routingHashes) = acquired
      at byPrefix keeps acquires called
    cases byPrefix with
    | nothing =>
      obtain ⟨rfl, rfl⟩ := Prod.mk.inj called
      exact .kept (.allocate config manager creation _ _ _)
    | missed =>
      obtain ⟨rfl, rfl⟩ := Prod.mk.inj called
      exact .kept ((keeps _).trans (.allocate config _ creation _ _ _))
    | hit prefixIndex first found =>
      obtain ⟨marked, there, slot⟩ := found_markInFlight found
      obtain ⟨rfl, rfl⟩ := Prod.mk.inj called
      have starts := Starts.shrink config sound (keeps none) acquires there
        (sound.candidate (prefixHit_mem first)).1
      rw [slot] at starts
      exact .started starts (starts.idle (sound.prefixHit_idle unlisted first))

end

end Requests

section Callbacks

variable {manager acquired after : SessionManager} {sessionId : String}

/-- The request that a callback hands a slot to. -/
def PendingAllocation.turn (config : SessionConfig) (allocation : PendingAllocation)
    (slot : String × UInt32) : SlotTurn where
  sessionId := slot.1
  slotId := slot.2
  blocks := allocation.caller.blocks
  credited := tokensToBlocks config.sizes allocation.caller.copyMatchedTokens

/-- No block of a new session is resident. -/
theorem Starts.of_new (blocks : List BlockHashInfo) (keeps : Keeps none manager acquired)
    (sound : Sound True acquired)
    (empty : ∀ session ∈ manager.sessions.lookup sessionId, session.committedBlocks = 0)
    {slotId : UInt32}
    (found : (acquired.sessions.lookup sessionId).map Session.slotId = some slotId)
    (later : Keeps none (acquired.registerPrefixHash sessionId blocks false) after)
    (credited : Nat) : Starts manager after { sessionId, slotId, blocks, credited } := by
  obtain ⟨session, there, rfl⟩ := Option.map_eq_some_iff.mp found
  have none (last : Session) (present : after.sessions.lookup sessionId = some last) :
      last.committedBlocks = 0 := by
    have spares := keeps.sessions.trans ((Spares.registerPrefixHash acquired sessionId blocks
      false).trans later.sessions)
    obtain ⟨first, same, -, fewer⟩ := spares sessionId last present
    exact Nat.le_zero.mp (empty first same ▸ fewer)
  refine .of_found keeps sound there later (fun last present => ?_) fun last present positive => ?_
  · rw [none last present]
    exact Nat.zero_le _
  · exact absurd (none last present) positive

theorem slotId_markInFlight (manager : SessionManager) (sessionId other : String) :
    ((manager.modify sessionId Session.markInFlight).sessions.lookup other).map Session.slotId =
      (manager.sessions.lookup other).map Session.slotId := by
  refine Table.map_lookup_modify Session.slotId (fun session => ?_) manager.sessions other
  rw [Session.markInFlight]
  split <;> rfl

theorem slotId_registerResponseId (manager : SessionManager) (sessionId responseId other : String) :
    ((manager.registerResponseId sessionId responseId).sessions.lookup other).map Session.slotId =
      (manager.sessions.lookup other).map Session.slotId := by
  rw [SessionManager.registerResponseId]
  split
  · rfl
  · refine Table.map_lookup_modify Session.slotId ?_ manager.sessions other
    exact fun _ => rfl

theorem registerResponseId_absent (absent : manager.sessions.lookup sessionId = none)
    (responseId : String) : manager.registerResponseId sessionId responseId = manager := by
  rw [SessionManager.registerResponseId, if_pos (.inr absent)]

/-- The callback of `getSlot` hands over the slot unless someone else has the session. -/
theorem Sound.completeGetSlot_handled (sound : Sound True manager)
    (new : manager.New sessionId)
    (empty : ∀ session ∈ manager.sessions.lookup sessionId, session.committedBlocks = 0)
    (blocks : List BlockHashInfo) (responseId : Option String) (copyMatchedTokens credited : Nat) :
    Handled none manager (manager.completeGetSlot sessionId blocks responseId copyMatchedTokens).1
      ((manager.completeGetSlot sessionId blocks responseId
        copyMatchedTokens).2.answer.slot?.map fun slot =>
          { sessionId := slot.1, slotId := slot.2, blocks, credited }) := by
  rw [SessionManager.completeGetSlot]
  have spec := acquireInFlight_spec manager sessionId
  have keeps : Keeps none manager _ := .acquireInFlight manager sessionId
  have acquires : Preserves True manager _ := .acquire manager sessionId
  have keys := keysOf_acquireInFlight manager sessionId sessionId
  generalize manager.acquireInFlight sessionId = result at spec keeps acquires keys ⊢
  cases spec with
  | gone absent =>
    have same : responseId.elim manager (manager.registerResponseId sessionId) = manager := by
      cases responseId with
      | none => rfl
      | some responseId => exact registerResponseId_absent absent responseId
    simp only [same]
    rw [registerPrefixHash_absent absent]
    exact .started (.of_gone (.refl manager) sound absent) new.2
  | busy => exact .kept (.refl manager)
  | @marked session found free =>
    have left : (manager.modify sessionId Session.markInFlight).New sessionId := by
      rw [new_iff] at new ⊢
      exact ⟨keys ▸ new.1, new.2⟩
    have named : Keeps none manager (responseId.elim
        (manager.modify sessionId Session.markInFlight)
        ((manager.modify sessionId Session.markInFlight).registerResponseId sessionId)) ∧
        Sound True (responseId.elim (manager.modify sessionId Session.markInFlight)
          ((manager.modify sessionId Session.markInFlight).registerResponseId sessionId)) ∧
        ((responseId.elim (manager.modify sessionId Session.markInFlight)
          ((manager.modify sessionId Session.markInFlight).registerResponseId
            sessionId)).sessions.lookup sessionId).map Session.slotId = some session.slotId := by
      have slot : ((manager.modify sessionId Session.markInFlight).sessions.lookup
          sessionId).map Session.slotId = some session.slotId := by
        rw [slotId_markInFlight, found, Option.map_some]
      cases responseId with
      | none => exact ⟨keeps, acquires.sound sound, slot⟩
      | some responseId =>
        exact ⟨keeps.trans (.registerResponseId _ sessionId responseId),
          (acquires.sound sound).registerResponseId left responseId,
          (slotId_registerResponseId _ _ _ _).trans slot⟩
    obtain ⟨kept, registered, slot⟩ := named
    have starts := Starts.of_new blocks kept registered empty slot (.refl _) credited
    exact .started starts (starts.idle new.2)

theorem Sound.completeDecodeDestinationSlot_handled (sound : Sound True manager)
    (idle : manager.allocations.lookup sessionId = none)
    (empty : ∀ session ∈ manager.sessions.lookup sessionId, session.committedBlocks = 0)
    (blocks : List BlockHashInfo) (copyMatchedTokens : Option Nat) (credited : Nat) :
    Handled none manager
      (manager.completeDecodeDestinationSlot sessionId blocks copyMatchedTokens).1
      ((manager.completeDecodeDestinationSlot sessionId blocks copyMatchedTokens).2.slot?.map
        fun slot => { sessionId := slot.1, slotId := slot.2, blocks, credited }) := by
  have named (slotId : UInt32) : (Answer.decodeSlot (.fromNewSession sessionId slotId
      (copyMatchedTokens.map UInt32.ofNat))).slot? = some (sessionId, slotId) := by
    cases copyMatchedTokens with
    | none => rfl
    | some tokens =>
      simp only [Answer.slot?, Disaggregation.DecodeDestinationSlot.fromNewSession,
        Option.map_some]
      split <;> rfl
  rw [SessionManager.completeDecodeDestinationSlot]
  have spec := acquireInFlight_spec manager sessionId
  have keeps : Keeps none manager _ := .acquireInFlight manager sessionId
  have acquires : Preserves True manager _ := .acquire manager sessionId
  generalize manager.acquireInFlight sessionId = result at spec keeps acquires ⊢
  cases spec with
  | gone absent =>
    simp only [named]
    rw [registerPrefixHash_absent absent]
    exact .started (.of_gone (.refl manager) sound absent) idle
  | busy => exact .kept (.refl manager)
  | @marked session found free =>
    have slot : ((manager.modify sessionId Session.markInFlight).sessions.lookup
        sessionId).map Session.slotId = some session.slotId := by
      rw [slotId_markInFlight, found, Option.map_some]
    have starts := Starts.of_new blocks keeps (acquires.sound sound) empty slot (.refl _) credited
    simp only [named]
    exact .started starts (starts.idle idle)

theorem slotId_registerPrefixHash (manager : SessionManager) (sessionId : String)
    (blocks : List BlockHashInfo) (other : String) :
    ((manager.registerPrefixHash sessionId blocks false).sessions.lookup other).map Session.slotId =
      (manager.sessions.lookup other).map Session.slotId := by
  unfold SessionManager.registerPrefixHash
  split
  · refine Table.map_lookup_modify Session.slotId ?_ manager.sessions other
    exact fun _ => rfl
  · rfl

/-- The callback of `resolvePrefillSession` registers the blocks in any case. -/
theorem Sound.completePrefillSession_starts (sound : Sound True manager)
    (empty : ∀ session ∈ manager.sessions.lookup sessionId, session.committedBlocks = 0)
    (blocks : List BlockHashInfo) (copyMatchedTokens : Nat) :
    ∃ slotId, (∀ credited, Starts manager
        (manager.completePrefillSession sessionId blocks copyMatchedTokens).1
        { sessionId, slotId, blocks, credited }) ∧
      ((manager.completePrefillSession sessionId blocks copyMatchedTokens).2.slot? = none ∨
        (manager.completePrefillSession sessionId blocks copyMatchedTokens).2.slot? =
          some (sessionId, slotId)) := by
  rw [SessionManager.completePrefillSession]
  have spec := acquireInFlight_spec (manager.registerPrefixHash sessionId blocks false) sessionId
  have slot := slotId_registerPrefixHash manager sessionId blocks sessionId
  generalize (manager.registerPrefixHash sessionId blocks false).acquireInFlight sessionId = result
    at spec ⊢
  cases spec with
  | gone absent =>
    rw [absent] at slot
    have gone := Option.map_eq_none_iff.mp slot.symm
    refine ⟨invalidSlotId, fun credited => ?_, .inr rfl⟩
    rw [registerPrefixHash_absent gone]
    exact .of_gone (.refl manager) sound gone
  | @busy session found =>
    rw [found, Option.map_some] at slot
    exact ⟨session.slotId, .of_new blocks (.refl manager) sound empty slot.symm (.refl _), .inl rfl⟩
  | @marked session found =>
    rw [found, Option.map_some] at slot
    exact ⟨session.slotId,
      .of_new blocks (.refl manager) sound empty slot.symm (.markInFlight _ sessionId), .inr rfl⟩

theorem Sound.runCallback_handled (sound : Sound True manager)
    (empty : ∀ sessionId, manager.allocations.lookup sessionId ≠ none →
      ∀ session ∈ manager.sessions.lookup sessionId, session.committedBlocks = 0)
    (config : SessionConfig) (sessionId : String) :
    Handled none manager (manager.runCallback sessionId).1
      (manager.turnOf config (.runCallback sessionId)) := by
  cases waits : manager.allocations.lookup sessionId with
  | none =>
    have idle : manager.runCallback sessionId = (manager, none) := by
      simp only [SessionManager.runCallback, waits]
    simp only [SessionManager.turnOf, SessionManager.answer, idle]
    exact .kept (.refl manager)
  | some allocation =>
    have turn (after : SessionManager) (answer : Option Answer)
        (called : manager.runCallback sessionId = (after, answer)) :
        manager.turnOf config (.runCallback sessionId) =
          (answer.bind Answer.slot?).map (allocation.turn config) := by
      simp only [SessionManager.turnOf, SessionManager.answer, SessionManager.promptOf, called,
        waits]
      rfl
    cases called : manager.runCallback sessionId with
    | mk after answer =>
      rw [turn after answer called]
      simp only [SessionManager.runCallback, waits] at called
      have finishes : Keeps none manager _ :=
        .finishAllocation manager sessionId allocation.slotIdToCopyFrom
      have ended := sound.finishAllocation sessionId allocation.slotIdToCopyFrom
      have idle : (manager.finishAllocation sessionId
          allocation.slotIdToCopyFrom).allocations.lookup sessionId = none :=
        AList.lookup_erase sessionId manager.allocations
      have left (other : String) (waited : (manager.finishAllocation sessionId
          allocation.slotIdToCopyFrom).allocations.lookup other ≠ none) :
          manager.allocations.lookup other ≠ none :=
        (finishes.allocations other waited).elim id (by rintro ⟨⟩)
      have new : (manager.finishAllocation sessionId allocation.slotIdToCopyFrom).New sessionId :=
        new_iff.mpr ⟨(sound.awaited sessionId allocation waits).new, idle⟩
      have none := empty sessionId (by rw [waits]; exact Option.some_ne_none _)
      split at called
      · obtain ⟨rfl, rfl⟩ := Prod.mk.inj called
        exact .kept (.refl _)
      · obtain ⟨rfl, rfl⟩ := Prod.mk.inj called
        exact .kept (.refl _)
      · obtain ⟨rfl, rfl⟩ := Prod.mk.inj called
        exact .kept finishes
      · obtain ⟨rfl, rfl⟩ := Prod.mk.inj called
        simp only [Option.bind_some]
        unfold PendingAllocation.turn
        cases allocation.caller with
        | other => exact .kept finishes
        | getSlot blocks responseId copyMatchedTokens =>
          have handled := ended.completeGetSlot_handled new none blocks responseId
            copyMatchedTokens (tokensToBlocks config.sizes copyMatchedTokens)
          exact Handled.congr (by rfl) (by rfl) left handled
        | decodeDestinationSlot blocks copyMatchedTokens =>
          have handled := ended.completeDecodeDestinationSlot_handled idle none blocks
            (if allocation.slotIdToCopyFrom.isSome then some copyMatchedTokens else Option.none)
            (tokensToBlocks config.sizes copyMatchedTokens)
          exact Handled.congr (by rfl) (by rfl) left handled
        | prefillSession blocks copyMatchedTokens =>
          obtain ⟨slotId, starts, found⟩ := ended.completePrefillSession_starts none blocks
            copyMatchedTokens
          have begins (credited : Nat) := (starts credited).congr (by rfl) (by rfl) left
          simp only [SessionManager.complete]
          rcases found with missed | acquired
          · rw [missed]
            exact .registered (begins 0) ((starts 0).idle idle)
              (by rw [waits]; exact Option.some_ne_none _) rfl
          · rw [acquired]
            exact .started (begins _) ((starts 0).idle idle)

end Callbacks

end InferenceServer.Sessions
