import InferenceServer.Sessions.Acquisition
import InferenceServer.Sessions.IndexAgreement

/-! Whether the next turn can name the response of a request. A request that goes on with the
session of a previous response registers its own for it, and so does one with a new session. A
request that goes on with a cached prefix does not. -/
namespace InferenceServer.Sessions
open Machine PrefixCache Pipeline

/-- The id leads to the session that a request has got. When the session is released, a turn that
names the id gets it with its slot. -/
structure Continues (manager : SessionManager) (responseId : String)
    (result : SlotAcquireResult) : Prop where
  indexed : manager.responseIdIndex.lookup responseId = some result.sessionId
  named : (manager.sessions.lookup result.sessionId).map Session.responseId = some responseId
  reached : ((manager.releaseInFlight result.sessionId).tryAcquireByResponseId responseId).2 =
    .hit result.sessionId result.slotId

/-- A request gets its session from the call, or from the callback of an allocation. -/
inductive SlotRequest
  | getSlot (blocks : List BlockHashInfo) (opts : GetSlotOptions) (creation : Creation)
  | callback (sessionId : String)

namespace SlotRequest

def responseId (manager : SessionManager) : SlotRequest → Option String
  | getSlot _ opts _ => opts.responseId
  | callback sessionId =>
    match (manager.allocations.lookup sessionId).map PendingAllocation.caller with
    | some (.getSlot _ responseId _) => responseId
    | _ => none

def run (config : SessionConfig) (manager : SessionManager) :
    SlotRequest → SessionManager × Option SlotAcquireResult
  | getSlot blocks opts creation =>
    match manager.getSlot config blocks opts creation with
    | (manager, .resolved result) => (manager, some result)
    | (manager, _) => (manager, none)
  | callback sessionId =>
    match manager.runCallback sessionId with
    | (manager, some (.slot result)) => (manager, some result)
    | (manager, _) => (manager, none)

/-- The id is not empty. A request that goes on with a cached prefix finds it registered for that
session already, and one with a new session finds this alive. -/
def Registers (config : SessionConfig) (manager : SessionManager) (responseId : String) :
    SlotRequest → Prop
  | getSlot blocks opts _ => responseId ≠ "" ∧
    (manager.ResponseIdHit (opts.previousResponseId.getD "") ∨
      ∀ candidate ∈ manager.prefixHit config blocks,
        manager.responseIdIndex.lookup responseId = some candidate.sessionId)
  | callback sessionId => responseId ≠ "" ∧ manager.sessions.lookup sessionId ≠ none

end SlotRequest

section Tags

variable {manager : SessionManager} {sessionId : String} {session : Session}

/-- What a turn that names a response id sees of a session. -/
def SessionManager.tagOf (manager : SessionManager) (sessionId : String) :
    Option (String × UInt32) :=
  (manager.sessions.lookup sessionId).map fun session => (session.responseId, session.slotId)

theorem tagOf_modify {change : Session → Session}
    (kept : ∀ session, ((change session).responseId, (change session).slotId) =
      (session.responseId, session.slotId)) (manager : SessionManager) (sessionId other : String) :
    (manager.modify sessionId change).tagOf other = manager.tagOf other :=
  Table.map_lookup_modify (fun session : Session => (session.responseId, session.slotId)) kept
    manager.sessions other

theorem markInFlight_tag (session : Session) :
    (session.markInFlight.responseId, session.markInFlight.slotId) =
      (session.responseId, session.slotId) := by
  rw [Session.markInFlight]
  split <;> rfl

theorem tagOf_registerPrefixHash (manager : SessionManager) (sessionId : String)
    (blockInfos : List BlockHashInfo) (clearBeingGenerated : Bool) (other : String) :
    (manager.registerPrefixHash sessionId blockInfos clearBeingGenerated).tagOf other =
      manager.tagOf other := by
  unfold SessionManager.registerPrefixHash
  split
  · refine tagOf_modify ?_ manager sessionId other
    exact fun _ => rfl
  · rfl

theorem tagOf_shrink (config : SessionConfig) (manager : SessionManager) (sessionId : String)
    (matchedTokens : Nat) (other : String) :
    (manager.shrinkResidentPrefixToMatchedTokens config sessionId matchedTokens).tagOf other =
      manager.tagOf other := by
  refine tagOf_modify (fun session => ?_) manager sessionId other
  rw [Session.shrinkCommittedBlocks]
  split <;> rfl

/-- A session that has the id gets the next turn with it. -/
theorem Continues.of_tag {responseId : String} {result : SlotAcquireResult}
    (nonempty : responseId ≠ "")
    (indexed : manager.responseIdIndex.lookup responseId = some result.sessionId)
    (tag : manager.tagOf result.sessionId = some (responseId, result.slotId)) :
    Continues manager responseId result := by
  obtain ⟨session, found, same⟩ := Option.map_eq_some_iff.mp tag
  obtain ⟨named, slot⟩ := Prod.mk.inj same
  refine ⟨indexed, by rw [found, Option.map_some, named], ?_⟩
  have released : (manager.releaseInFlight result.sessionId).sessions.lookup result.sessionId =
      some session.clearInFlight := by
    rw [SessionManager.releaseInFlight, SessionManager.modify, Table.lookup_modify, if_pos rfl,
      found, Option.map_some]
  have free : session.clearInFlight.state ≠ .inFlight ∧
      session.clearInFlight.responseId = responseId ∧
      session.clearInFlight.slotId = result.slotId := by
    rw [Session.clearInFlight]
    split
    · exact ⟨by rintro ⟨⟩, named, slot⟩
    · rename_i free
      exact ⟨free, named, slot⟩
  have marks := tryMarkInFlight_spec (manager.releaseInFlight result.sessionId) result.sessionId
    none (some responseId)
  have lookup : (manager.releaseInFlight result.sessionId).responseIdIndex.lookup responseId =
      some result.sessionId := indexed
  rw [SessionManager.tryAcquireByResponseId, if_neg nonempty, lookup]
  simp only
  generalize (manager.releaseInFlight result.sessionId).tryMarkInFlight result.sessionId none
    (some responseId) = outcome at marks ⊢
  cases marks with
  | notFound absent => rw [released] at absent; cases absent
  | stale found other =>
    obtain rfl := Option.some.inj (released.symm.trans found)
    rcases other with ⟨_, none, -⟩ | ⟨expected, equal, different⟩
    · cases none
    · exact absurd (Option.some.inj equal ▸ free.2.1) different
  | busy found inFlight =>
    obtain rfl := Option.some.inj (released.symm.trans found)
    exact absurd inFlight free.1
  | marked found =>
    obtain rfl := Option.some.inj (released.symm.trans found)
    simp only [free.2.2]

/-- No session is registered under the empty id. -/
theorem Continues.nonempty (sound : Sound False manager) {responseId : String}
    {result : SlotAcquireResult} (continues : Continues manager responseId result) :
    responseId ≠ "" :=
  (sound.named responseId result.sessionId continues.indexed).1

end Tags

section Calls

variable {config : SessionConfig} {manager after : SessionManager} {result : SlotAcquireResult}
variable {responseId : String}

/-- A response id of a session is the one that leads to it. -/
theorem Sound.tagOf_fst (sound : Sound False manager) {sessionId : String}
    (indexed : manager.responseIdIndex.lookup responseId = some sessionId) :
    (manager.tagOf sessionId).map Prod.fst = some responseId := by
  have named := (sound.named responseId sessionId indexed).2
  rw [SessionManager.keysOf, Option.map_map] at named
  rw [SessionManager.tagOf, Option.map_map]
  exact named

theorem continueResponse_continues {left : SessionManager} {session : Session}
    {sessionId previousResponseId : String}
    (indexed : left.responseIdIndex.lookup previousResponseId = some sessionId)
    (tag : left.tagOf sessionId = some (previousResponseId, session.slotId))
    (previous : previousResponseId ≠ "") (nonempty : responseId ≠ "")
    (blocks : List BlockHashInfo) {opts : GetSlotOptions}
    (named : opts.previousResponseId.getD "" = previousResponseId)
    (new : opts.responseId = some responseId)
    (resolved : left.continueResponse config blocks opts sessionId session.slotId =
      (after, .resolved result)) : Continues after responseId result := by
  rw [SessionManager.continueResponse] at resolved
  generalize left.computeMatchedTokens config sessionId blocks = matched at resolved
  obtain ⟨matchedTokens, thinkTokens⟩ := matched
  simp only [new, named, Option.elim_some, Prod.mk.injEq, SlotOutcome.resolved.injEq] at resolved
  obtain ⟨rfl, rfl⟩ := resolved
  have kept : ((left.registerPrefixHash sessionId blocks
      false).shrinkResidentPrefixToMatchedTokens config sessionId matchedTokens).tagOf sessionId =
      some (previousResponseId, session.slotId) := by
    rw [tagOf_shrink, tagOf_registerPrefixHash, tag]
  have index : ((left.registerPrefixHash sessionId blocks
      false).shrinkResidentPrefixToMatchedTokens config sessionId
        matchedTokens).responseIdIndex = left.responseIdIndex :=
    responseIdIndex_registerPrefixHash left sessionId blocks false
  generalize (left.registerPrefixHash sessionId blocks false).shrinkResidentPrefixToMatchedTokens
    config sessionId matchedTokens = shrunk at kept index ⊢
  rw [SessionManager.updateResponseId]
  by_cases same : previousResponseId = responseId
  · subst same
    rw [if_pos (.inr (.inr rfl))]
    exact .of_tag nonempty (index ▸ indexed) kept
  · rw [if_neg (by simp only [previous, nonempty, same, or_self, not_false_eq_true]), index,
      indexed]
    refine .of_tag nonempty (AList.lookup_insert ..) ?_
    obtain ⟨found, present, tagged⟩ := Option.map_eq_some_iff.mp kept
    simp only [SessionManager.tagOf, SessionManager.modify, Table.lookup_modify, ↓reduceIte,
      present, Option.map_some]
    rw [(Prod.mk.inj tagged).2]

section

variable (sound : Sound False manager)
include sound

theorem continuePrefix_continues {session : Session} {acquired : AcquireResult}
    (prefixIndex : IndexMap String)
    (found : manager.sessions.lookup acquired.sessionId = some session)
    (slotId : acquired.slotId = session.slotId) {blocks : List BlockHashInfo}
    (resolved : SessionManager.continuePrefix config
      { manager.modify acquired.sessionId Session.markInFlight with prefixIndex } blocks acquired =
        (after, .resolved result)) :
    Continues after responseId result ↔
      manager.responseIdIndex.lookup responseId = some acquired.sessionId := by
  rw [SessionManager.continuePrefix] at resolved
  simp only [Prod.mk.injEq, SlotOutcome.resolved.injEq] at resolved
  obtain ⟨rfl, rfl⟩ := resolved
  constructor
  · intro continues
    have indexed := continues.indexed
    rwa [SessionManager.shrinkResidentPrefixToMatchedTokens, SessionManager.modify,
      responseIdIndex_registerPrefixHash] at indexed
  · intro indexed
    have tag := sound.tagOf_fst indexed
    refine .of_tag (sound.named responseId _ indexed).1 ?_ ?_
    · rw [SessionManager.shrinkResidentPrefixToMatchedTokens, SessionManager.modify,
        responseIdIndex_registerPrefixHash]
      exact indexed
    · rw [tagOf_shrink, tagOf_registerPrefixHash]
      refine (tagOf_modify markInFlight_tag manager acquired.sessionId _).trans ?_
      rw [SessionManager.tagOf, found, Option.map_some, Option.map_some] at tag
      have named : session.responseId = responseId := Option.some.inj tag
      rw [SessionManager.tagOf, found, Option.map_some, slotId, named]

theorem getSlot_continues {blocks : List BlockHashInfo} {opts : GetSlotOptions}
    {creation : Creation} (new : opts.responseId = some responseId)
    (resolved : manager.getSlot config blocks opts creation = (after, .resolved result)) :
    Continues after responseId result ↔
      (SlotRequest.getSlot blocks opts creation).Registers config manager responseId := by
  rw [SessionManager.getSlot] at resolved
  have byResponse := tryAcquireByResponseId_spec manager (opts.previousResponseId.getD "")
  generalize manager.tryAcquireByResponseId (opts.previousResponseId.getD "") = first
    at byResponse resolved
  cases byResponse with
  | inFlight => cases resolved
  | stale missed indexed other =>
    have named := (sound.named _ _ indexed).2
    rw [SessionManager.keysOf, Option.map_map] at named
    exact absurd named other
  | @hit sessionId session hit indexed found named =>
    have acquired : Preserves False manager (manager.modify sessionId Session.markInFlight) :=
      .modify markInFlight_keys manager sessionId
    have unhashed : False → ∀ block ∈ blocks, block.hash ≠ 0 := False.elim
    have continued := acquired.trans
      (Preserves.continueResponse config _ unhashed opts sessionId session.slotId)
    simp only at resolved
    refine ⟨fun continues => ?_, fun registers => ?_⟩
    · refine ⟨continues.nonempty ?_, .inl hit⟩
      have kept := continued.sound sound
      rwa [resolved] at kept
    · have indexed : (manager.modify sessionId Session.markInFlight).responseIdIndex.lookup
          (opts.previousResponseId.getD "") = some sessionId := indexed
      refine continueResponse_continues indexed ?_ hit.1 registers.1 blocks rfl new resolved
      rw [tagOf_modify markInFlight_tag, SessionManager.tagOf, found, Option.map_some, named]
  | unknown missed =>
    have byPrefix := tryAcquireByPrefixHash_spec config manager blocks
    simp only at resolved
    generalize manager.tryAcquireByPrefixHash config blocks = second at byPrefix resolved
    cases byPrefix with
    | nothing | missed => cases resolved
    | hit prefixIndex firstHit found =>
      have registers : Continues after responseId result ↔ _ :=
        continuePrefix_continues sound prefixIndex found rfl resolved
      rw [registers]
      refine ⟨fun indexed => ⟨(sound.named _ _ indexed).1, .inr fun candidate hit => ?_⟩,
        fun registered => ?_⟩
      · obtain rfl := Option.some.inj (firstHit.symm.trans hit)
        exact indexed
      · exact (registered.2.resolve_left missed) _ firstHit

theorem completeGetSlot_continues {sessionId : String} (new : manager.New sessionId)
    {blocks : List BlockHashInfo} {copyMatchedTokens : Nat}
    (resolved : manager.completeGetSlot sessionId blocks (some responseId) copyMatchedTokens =
      (after, .resolved result)) : Continues after responseId result ↔
      responseId ≠ "" ∧ manager.sessions.lookup sessionId ≠ none := by
  have unhashed : False → ∀ block ∈ blocks, block.hash ≠ 0 := False.elim
  have kept := sound.completeGetSlot new unhashed (some responseId) copyMatchedTokens
  rw [resolved] at kept
  rw [SessionManager.completeGetSlot] at resolved
  have acquired := acquireInFlight_spec manager sessionId
  generalize manager.acquireInFlight sessionId = acquisition at acquired resolved
  cases acquired with
  | busy => cases resolved
  | gone absent =>
    have unnamed : manager.registerResponseId sessionId responseId = manager := by
      rw [SessionManager.registerResponseId, if_pos (.inr absent)]
    simp only [Option.elim_some, Prod.mk.injEq, SlotOutcome.resolved.injEq] at resolved
    rw [unnamed, registerPrefixHash_absent absent] at resolved
    obtain ⟨rfl, rfl⟩ := resolved
    refine iff_of_false (fun continues => ?_) fun both => both.2 absent
    have named := continues.named
    rw [absent] at named
    cases named
  | @marked session found free =>
    simp only [Option.elim_some, Prod.mk.injEq, SlotOutcome.resolved.injEq] at resolved
    obtain ⟨rfl, rfl⟩ := resolved
    refine ⟨fun continues => ⟨continues.nonempty kept, ?_⟩, fun both => ?_⟩
    · rw [found]
      rintro ⟨⟩
    · have present : (manager.modify sessionId Session.markInFlight).sessions.lookup sessionId =
          some session.markInFlight := by
        rw [SessionManager.modify, Table.lookup_modify, if_pos rfl, found, Option.map_some]
      have slot : session.markInFlight.slotId = session.slotId :=
        (Prod.mk.inj (markInFlight_tag session)).2
      have registers : ¬(responseId = "" ∨
          (manager.modify sessionId Session.markInFlight).sessions.lookup sessionId = none) := by
        rw [present]
        simp [both.1]
      refine .of_tag both.1 ?_ ?_
      · rw [responseIdIndex_registerPrefixHash, SessionManager.registerResponseId,
          if_neg registers]
        exact AList.lookup_insert ..
      · rw [tagOf_registerPrefixHash, SessionManager.registerResponseId, if_neg registers,
          SessionManager.tagOf]
        rw [SessionManager.modify, Table.lookup_modify, if_pos rfl, present]
        simp [slot]

theorem runCallback_continues {sessionId : String}
    (new : (SlotRequest.callback sessionId).responseId manager = some responseId)
    (resolved : manager.runCallback sessionId = (after, some (.slot result))) :
    Continues after responseId result ↔
      responseId ≠ "" ∧ manager.sessions.lookup sessionId ≠ none := by
  rw [SessionManager.runCallback] at resolved
  rw [SlotRequest.responseId] at new
  cases found : manager.allocations.lookup sessionId with
  | none =>
    rw [found] at resolved
    cases resolved
  | some allocation =>
    rw [found] at resolved new
    obtain ⟨hash, caller, attempts, copy, stage⟩ := allocation
    have awaited := sound.awaited sessionId _ found
    have ended := sound.finishAllocation sessionId copy
    have isNew : (manager.finishAllocation sessionId copy).New sessionId :=
      new_iff.mpr ⟨awaited.new, AList.lookup_erase sessionId manager.allocations⟩
    cases stage with
    | requested | retrying | failed => cases resolved
    | allocated =>
      cases caller with
      | other => cases new
      | decodeDestinationSlot => cases new
      | prefillSession => cases new
      | getSlot blocks own copyMatchedTokens =>
        obtain rfl : own = some responseId := new
        simp only [SessionManager.complete] at resolved
        generalize completed : (manager.finishAllocation sessionId copy).completeGetSlot sessionId
          blocks (some responseId) copyMatchedTokens = outcome at resolved
        obtain ⟨left, outcome⟩ := outcome
        cases outcome with
        | inFlight | allocating => cases resolved
        | resolved own =>
          cases resolved
          exact completeGetSlot_continues ended isNew completed

end

/-- A request for a slot leaves a response that the next turn can name if and only if it registers
its id. -/
theorem continues_iff_registers {request : SlotRequest}
    (reached : Reaches (step config) SessionManager.Distinct {} manager)
    (new : request.responseId manager = some responseId)
    (resolved : request.run config manager = (after, some result)) :
    Continues after responseId result ↔ request.Registers config manager responseId := by
  have sound : Sound False manager := .reached (fun _ _ => id) False.elim reached
  cases request with
  | getSlot blocks opts creation =>
    refine getSlot_continues sound new ?_
    simp only [SlotRequest.run] at resolved
    split at resolved
    · next got =>
      cases resolved
      exact got
    · cases resolved
  | callback sessionId =>
    refine runCallback_continues sound new ?_
    simp only [SlotRequest.run] at resolved
    split at resolved
    · next got =>
      cases resolved
      exact got
    · cases resolved

end Calls

section Runs

/-- A session has had a turn that is "r1". -/
def firstTurn : List Operation :=
  [.getSlot [⟨7, 0⟩] ⟨none, some "r1"⟩ { sessionId := "a" }, .handleMemoryResult "a" (some 3),
    .runCallback "a", .finalizeAndRegisterHashes "a" [⟨7, 0⟩, ⟨8, 0⟩], .releaseInFlight "a"]

theorem firstTurn_runs : (runWithin (step decodeConfig) SessionManager.Distinct {}
    firstTurn).isSome = true := by
  decide +kernel

def afterFirstTurn : SessionManager :=
  (runWithin (step decodeConfig) SessionManager.Distinct {} firstTurn).get firstTurn_runs

variable (previousResponseId : Option String)

/-- The next turn of the conversation, which may name the response before it. -/
def secondTurn : SlotRequest :=
  .getSlot [⟨7, 0⟩, ⟨8, 0⟩] ⟨previousResponseId, some "r2"⟩ { sessionId := "b" }

def secondResult : SlotAcquireResult :=
  { sessionId := "a"
    slotId := 3
    matchedTokens := 4
    accumulatedThinkTokens := 0
    isNewSession := false
    blocks := [⟨7, 0⟩, ⟨8, 0⟩] }

theorem secondTurn_result (named : previousResponseId = none ∨ previousResponseId = some "r1") :
    ((secondTurn previousResponseId).run decodeConfig afterFirstTurn).2 = some secondResult := by
  rcases named with rfl | rfl <;> decide +kernel

theorem continues_secondTurn :
    Continues ((secondTurn (some "r1")).run decodeConfig afterFirstTurn).1 "r2" secondResult ↔
      (secondTurn (some "r1")).Registers decodeConfig afterFirstTurn "r2" :=
  continues_iff_registers (reaches_get firstTurn_runs) rfl
    (Prod.ext rfl (secondTurn_result (some "r1") (.inr rfl)))

example : ((secondTurn (some "r1")).run decodeConfig afterFirstTurn).1.responseIdIndex.lookup
    "r2" = some "a" := by
  decide +kernel

/-- A turn that goes on with the cached prefix leaves no way to its response. -/
theorem not_continues :
    ¬∀ (request : SlotRequest) (config : SessionConfig) (manager after : SessionManager)
      (responseId : String) (result : SlotAcquireResult),
      Reaches (step config) SessionManager.Distinct {} manager →
      request.responseId manager = some responseId →
      request.run config manager = (after, some result) →
      Continues after responseId result := by
  intro continues
  have second := continues (secondTurn none) decodeConfig afterFirstTurn
    ((secondTurn none).run decodeConfig afterFirstTurn).1 "r2" secondResult
    (reaches_get firstTurn_runs) rfl (Prod.ext rfl (secondTurn_result none (.inl rfl)))
  have unnamed : ((secondTurn none).run decodeConfig afterFirstTurn).1.responseIdIndex.lookup
      "r2" = none := by
    decide +kernel
  exact Option.some_ne_none _ (second.indexed.symm.trans unnamed)

end Runs

end InferenceServer.Sessions
