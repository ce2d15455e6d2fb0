import InferenceServer.Sessions.IndexInvariant

/-! What acquiring a session comes to: which session it is, by the state before, and what has
changed. -/
namespace InferenceServer.Sessions
open Machine PrefixCache Pipeline

namespace SessionManager

/-- The session of a candidate can be had under the key. -/
def Acquirable (manager : SessionManager) (keyHash : UInt64) (candidate : Candidate String) :
    Prop :=
  ∃ session ∈ manager.sessions.lookup candidate.sessionId,
    session.hash = keyHash ∧ session.state ≠ .inFlight

instance (manager : SessionManager) (keyHash : UInt64) (candidate : Candidate String) :
    Decidable (manager.Acquirable keyHash candidate) :=
  inferInstanceAs (Decidable (∃ session ∈ _, _))

/-- The first candidate that is good enough and can be had. -/
def firstAcquirable (config : SessionConfig) (keyHash : UInt64) (manager : SessionManager)
    (candidates : List (Candidate String)) : Option (Candidate String) :=
  candidates.find? fun candidate =>
    config.passesHitThreshold candidate ∧ manager.Acquirable keyHash candidate

/-- The sorted candidates for a prompt with these blocks. -/
def candidatesFor (config : SessionConfig) (manager : SessionManager)
    (blockInfos : List BlockHashInfo) : List (Candidate String) :=
  match blockInfos with
  | [] => []
  | front :: _ =>
    config.sortCandidates (buildCandidates blockInfos (manager.prefixIndex.entries front.hash))

/-- The candidate that a prompt with these blocks goes on with. -/
def prefixHit (config : SessionConfig) (manager : SessionManager)
    (blockInfos : List BlockHashInfo) : Option (Candidate String) :=
  match blockInfos with
  | [] => none
  | front :: _ =>
    manager.firstAcquirable config front.hash (manager.candidatesFor config blockInfos)

/-- A session of the previous response that is not in flight. -/
def ResponseIdHit (manager : SessionManager) (previousResponseId : String) : Prop :=
  previousResponseId ≠ "" ∧ ∃ sessionId ∈ manager.responseIdIndex.lookup previousResponseId,
    ∃ session ∈ manager.sessions.lookup sessionId,
      session.responseId = previousResponseId ∧ session.state ≠ .inFlight

end SessionManager

variable {config : SessionConfig} {keyHash : UInt64} {manager : SessionManager}

/-- The loop over the candidates ends with the first that can be had, or with none. Stale entries
of candidates before it are gone. -/
inductive CandidateAcquired (config : SessionConfig) (keyHash : UInt64) (manager : SessionManager)
    (candidates : List (Candidate String)) : SessionManager × Option AcquireResult → Prop
  | missed (prefixIndex : IndexMap String)
      (absent : manager.firstAcquirable config keyHash candidates = none) :
      CandidateAcquired config keyHash manager candidates ({ manager with prefixIndex }, none)
  | hit (prefixIndex : IndexMap String) {candidate : Candidate String} {session : Session}
      (first : manager.firstAcquirable config keyHash candidates = some candidate)
      (found : manager.sessions.lookup candidate.sessionId = some session) :
      CandidateAcquired config keyHash manager candidates
        ({ manager.modify candidate.sessionId Session.markInFlight with prefixIndex },
          some
            { sessionFound := true
              sessionId := candidate.sessionId
              slotId := session.slotId
              numberOfMatchedTokens := blocksToTokens config.sizes candidate.matchedBlocks
              accumulatedThinkTokens := candidate.thinkTokens })

namespace CandidateAcquired

variable {candidate : Candidate String} {candidates : List (Candidate String)}
variable {outcome : SessionManager × Option AcquireResult}

/-- A candidate that cannot be had is passed over; only the index may have changed. -/
theorem skip {prefixIndex : IndexMap String}
    (unfit : ¬(config.passesHitThreshold candidate ∧ manager.Acquirable keyHash candidate))
    (rest : CandidateAcquired config keyHash { manager with prefixIndex } candidates outcome) :
    CandidateAcquired config keyHash manager (candidate :: candidates) outcome := by
  have same : manager.firstAcquirable config keyHash (candidate :: candidates) =
      manager.firstAcquirable config keyHash candidates :=
    List.find?_cons_of_neg (by simpa using unfit)
  cases rest with
  | missed prefixIndex absent => exact .missed prefixIndex (same.trans absent)
  | hit prefixIndex first found => exact .hit prefixIndex (same.trans first) found

end CandidateAcquired

theorem acquireCandidate_spec (config : SessionConfig) (keyHash : UInt64)
    (manager : SessionManager) (candidates : List (Candidate String)) :
    CandidateAcquired config keyHash manager candidates
      (manager.acquireCandidate config keyHash candidates) := by
  induction candidates generalizing manager with
  | nil => exact .missed manager.prefixIndex rfl
  | cons candidate candidates ih =>
    rw [SessionManager.acquireCandidate]
    split
    · rename_i passes
      have marks := tryMarkInFlight_spec manager candidate.sessionId (some keyHash) none
      generalize manager.tryMarkInFlight candidate.sessionId (some keyHash) none = result at marks ⊢
      cases marks with
      | notFound absent =>
        refine .skip (fun both => ?_) (ih _)
        obtain ⟨session, found, -⟩ := both.2
        rw [absent] at found
        cases found
      | stale found other =>
        refine .skip (fun both => ?_) (ih _)
        obtain ⟨session, also, hash, -⟩ := both.2
        obtain rfl := Option.some.inj (found.symm.trans also)
        rcases other with ⟨expected, equal, different⟩ | ⟨_, none, -⟩
        · exact different (Option.some.inj equal ▸ hash)
        · cases none
      | busy found inFlight =>
        refine .skip (fun both => ?_) (ih manager)
        obtain ⟨session, also, -, free⟩ := both.2
        obtain rfl := Option.some.inj (found.symm.trans also)
        exact free inFlight
      | marked found free hash =>
        refine .hit manager.prefixIndex ?_ found
        have fits : config.passesHitThreshold candidate ∧ manager.Acquirable keyHash candidate :=
          ⟨passes, _, found, hash keyHash rfl, free⟩
        exact List.find?_cons_of_pos (by simpa using fits)
    · rename_i fails
      exact .skip (fun both => fails both.1) (ih manager)

/-- A prompt finds no candidates, none that can be had, or the session that it goes on with. -/
inductive PrefixAcquired (config : SessionConfig) (manager : SessionManager)
    (blockInfos : List BlockHashInfo) : SessionManager × Option AcquireResult → Prop
  | nothing (empty : manager.candidatesFor config blockInfos = []) :
      PrefixAcquired config manager blockInfos (manager, none)
  | missed (prefixIndex : IndexMap String) (absent : manager.prefixHit config blockInfos = none) :
      PrefixAcquired config manager blockInfos ({ manager with prefixIndex },
        some
          { sessionFound := false
            candidatesList := manager.candidatesFor config blockInfos })
  | hit (prefixIndex : IndexMap String) {candidate : Candidate String} {session : Session}
      (first : manager.prefixHit config blockInfos = some candidate)
      (found : manager.sessions.lookup candidate.sessionId = some session) :
      PrefixAcquired config manager blockInfos
        ({ manager.modify candidate.sessionId Session.markInFlight with prefixIndex },
          some
            { sessionFound := true
              sessionId := candidate.sessionId
              slotId := session.slotId
              numberOfMatchedTokens := blocksToTokens config.sizes candidate.matchedBlocks
              accumulatedThinkTokens := candidate.thinkTokens })

theorem tryAcquireByPrefixHash_spec (config : SessionConfig) (manager : SessionManager)
    (blockInfos : List BlockHashInfo) : PrefixAcquired config manager blockInfos
      (manager.tryAcquireByPrefixHash config blockInfos) := by
  cases blockInfos with
  | nil => exact .nothing rfl
  | cons front remaining =>
    rw [SessionManager.tryAcquireByPrefixHash]
    have acquired := acquireCandidate_spec config front.hash manager
      (manager.candidatesFor config (front :: remaining))
    split
    · rename_i empty
      exact .nothing empty
    · rename_i candidates _
      simp only [SessionManager.candidatesFor] at acquired
      generalize manager.acquireCandidate config front.hash (config.sortCandidates
        (buildCandidates (front :: remaining) (manager.prefixIndex.entries front.hash))) = result
        at acquired ⊢
      cases acquired with
      | missed prefixIndex absent =>
        have missed : manager.prefixHit config (front :: remaining) = none := absent
        exact .missed prefixIndex missed
      | hit prefixIndex first found =>
        have hit : manager.prefixHit config (front :: remaining) = some _ := first
        exact .hit prefixIndex hit found

/-- A previous response leads to a session that can be had, to one that is in flight, or nowhere.
An entry that leads nowhere goes. -/
inductive ResponseAcquired (manager : SessionManager) (previousResponseId : String) :
    SessionManager × ResponseIdOutcome → Prop
  | hit {sessionId : String} {session : Session}
      (hit : manager.ResponseIdHit previousResponseId)
      (indexed : manager.responseIdIndex.lookup previousResponseId = some sessionId)
      (found : manager.sessions.lookup sessionId = some session)
      (named : session.responseId = previousResponseId) :
      ResponseAcquired manager previousResponseId
        (manager.modify sessionId Session.markInFlight, .hit sessionId session.slotId)
  | inFlight {sessionId : String} {session : Session}
      (indexed : manager.responseIdIndex.lookup previousResponseId = some sessionId)
      (found : manager.sessions.lookup sessionId = some session)
      (busy : session.state = .inFlight) :
      ResponseAcquired manager previousResponseId (manager, .inFlight)
  | unknown (missed : ¬manager.ResponseIdHit previousResponseId) :
      ResponseAcquired manager previousResponseId (manager, .miss)
  | stale {sessionId : String} (missed : ¬manager.ResponseIdHit previousResponseId)
      (indexed : manager.responseIdIndex.lookup previousResponseId = some sessionId)
      (other : (manager.sessions.lookup sessionId).map Session.responseId ≠
        some previousResponseId) :
      ResponseAcquired manager previousResponseId
        (manager.removeResponseId sessionId previousResponseId, .miss)

theorem tryAcquireByResponseId_spec (manager : SessionManager) (previousResponseId : String) :
    ResponseAcquired manager previousResponseId
      (manager.tryAcquireByResponseId previousResponseId) := by
  rw [SessionManager.tryAcquireByResponseId]
  split
  · rename_i empty
    exact .unknown fun hit => hit.1 empty
  · rename_i nonempty
    cases indexed : manager.responseIdIndex.lookup previousResponseId with
    | none =>
      refine .unknown fun hit => ?_
      obtain ⟨-, sessionId, some, -⟩ := hit
      rw [indexed] at some
      cases some
    | some sessionId =>
      have marks := tryMarkInFlight_spec manager sessionId none (some previousResponseId)
      have missed : (∀ session ∈ manager.sessions.lookup sessionId,
          session.responseId ≠ previousResponseId) →
          ¬manager.ResponseIdHit previousResponseId := by
        rintro other ⟨-, found, also, session, present, named, -⟩
        obtain rfl := Option.some.inj (indexed.symm.trans also)
        exact other session present named
      simp only
      generalize manager.tryMarkInFlight sessionId none (some previousResponseId) = result
        at marks ⊢
      cases marks with
      | notFound absent =>
        refine .stale (missed ?_) indexed ?_
        · rw [absent]
          exact fun _ none => by cases none
        · rw [absent]
          exact fun none => by cases none
      | stale found other =>
        rcases other with ⟨_, none, -⟩ | ⟨expected, equal, different⟩
        · cases none
        · obtain rfl := Option.some.inj equal
          refine .stale (missed ?_) indexed ?_
          · rw [found]
            exact fun session same => Option.some.inj same ▸ different
          · rw [found]
            exact fun same => different (Option.some.inj same)
      | busy found inFlight => exact .inFlight indexed found inFlight
      | marked found free _ named =>
        have named := named previousResponseId rfl
        exact .hit ⟨nonempty, sessionId, indexed, _, found, named, free⟩ indexed found named

/-- A session that is gone is acquired without a slot. -/
inductive InFlightAcquired (manager : SessionManager) (sessionId : String) :
    SessionManager × Option UInt32 → Prop
  | gone (absent : manager.sessions.lookup sessionId = none) :
      InFlightAcquired manager sessionId (manager, some invalidSlotId)
  | busy {session : Session} (found : manager.sessions.lookup sessionId = some session)
      (inFlight : session.state = .inFlight) : InFlightAcquired manager sessionId (manager, none)
  | marked {session : Session} (found : manager.sessions.lookup sessionId = some session)
      (free : session.state ≠ .inFlight) :
      InFlightAcquired manager sessionId
        (manager.modify sessionId Session.markInFlight, some session.slotId)

theorem acquireInFlight_spec (manager : SessionManager) (sessionId : String) :
    InFlightAcquired manager sessionId (manager.acquireInFlight sessionId) := by
  rw [SessionManager.acquireInFlight]
  have marks := tryMarkInFlight_spec manager sessionId none none
  generalize manager.tryMarkInFlight sessionId none none = result at marks ⊢
  cases marks with
  | notFound absent => exact .gone absent
  | stale found other =>
    rcases other with ⟨_, none, -⟩ | ⟨_, none, -⟩ <;> cases none
  | busy found inFlight => exact .busy found inFlight
  | marked found free => exact .marked found free

end InferenceServer.Sessions
