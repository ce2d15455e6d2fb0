import InferenceServer.Sessions.IndexAgreement

/-! Eviction while slots are copied. A request that has chosen a session to copy from locks its
slot, then has a new session created, and unlocks the slot when the allocation is over. Eviction
leaves locked slots alone, but it looks at sessions and locks one after the other, and a lock does
not say whose it is. -/
namespace InferenceServer.Sessions
open Machine PrefixCache

/-- A copy under way: the session that was chosen, and the slot that it had. -/
structure SlotCopy where
  source : String
  slotToCopyFrom : UInt32
  deriving DecidableEq

/-- Where a call of `evictOldSessions` is: about to set the flag, to count the sessions, to look at
the locks, to collect candidates, to take the next of these, or to close one that it has taken. -/
inductive Eviction
  | entering
  | counting
  | snapshotting
  | selecting (lockedSnapshot : Finset UInt32)
  | taking (candidates : List String)
  | closing (sessionId : String) (session : Session) (candidates : List String)
  deriving DecidableEq

/-- A request that is about to lock a slot, an eviction with the copy that goes on after it, and an
allocation that is issued and whose callback is to come. -/
inductive CopyFrame
  | locking (copy : SlotCopy)
  | evicting (eviction : Eviction) (next : Option SlotCopy)
  | allocating (copy : SlotCopy)
  deriving DecidableEq

/-- A change of a session in the map. None changes its slot. -/
inductive Change
  | markInFlight
  | clearInFlight
  | setHash (hash : UInt64)
  | setResponseId (responseId : String)
  | setCommittedBlocks (blocks : Nat)
  | shrinkCommittedBlocks (blocks : Nat)
  | setBeingGenerated (beingGenerated : Bool)

def Change.apply : Change → Session → Session
  | markInFlight => Session.markInFlight
  | clearInFlight => Session.clearInFlight
  | setHash hash => fun session => { session with hash }
  | setResponseId responseId => fun session => { session with responseId }
  | setCommittedBlocks blocks => fun session => { session with committedBlocks := blocks }
  | shrinkCommittedBlocks blocks => fun session => session.shrinkCommittedBlocks blocks
  | setBeingGenerated beingGenerated => fun session => { session with beingGenerated }

/-- What others do with sessions, and what starts an eviction: a request that has candidates to
copy from, one for which `findSlotToCopyFrom` has come up with a session, and an eviction for no
copy. -/
inductive CopyCall
  | modify (sessionId : String) (change : Change)
  | insertSession (sessionId : String) (session : Session)
  | closeSession (sessionId : String)
  | getSlot (candidates : List (Candidate String))
  | prepareSlotCopy (sessionId : String)
  | evictOldSessions

/-- The session manager, and whether an eviction is in progress. -/
structure EvictionDesk where
  manager : SessionManager := {}
  evictionInProgress : Bool := false

namespace EvictionDesk

variable (config : SessionConfig) (desk : EvictionDesk)

def call :
    CopyCall → EvictionDesk × Option CopyFrame
  | .modify sessionId change =>
    ({ desk with manager := desk.manager.modify sessionId change.apply }, none)
  | .insertSession sessionId session =>
    ({ desk with manager := desk.manager.insertSession sessionId session }, none)
  | .closeSession sessionId => ({ desk with manager := desk.manager.closeSession sessionId }, none)
  | .getSlot candidates =>
    (desk, some (match desk.manager.bestSlotToCopyFrom config candidates, candidates with
      | some plan, best :: _ => .locking
        { source := best.sessionId, slotToCopyFrom := plan.slotToCopyFrom }
      | _, _ => .evicting .entering none))
  | .prepareSlotCopy sessionId =>
    (desk, some (match desk.manager.sessions.lookup sessionId with
      | none => .evicting .entering none
      | some session =>
        if session.slotId = invalidSlotId then .evicting .entering none
        else .locking { source := sessionId, slotToCopyFrom := session.slotId }))
  | .evictOldSessions => (desk, some (.evicting .entering none))

/-- The eviction of a copy is over, and its allocation is issued. -/
def issue (next : Option SlotCopy) : Option CopyFrame :=
  next.map .allocating

/-- The next step of an eviction; without one left it is over. Which of the candidates were active
longest ago is left to chance. -/
def evict (leastRecent : List String) :
    Eviction → EvictionDesk × Option Eviction
  | .entering =>
    if desk.evictionInProgress then (desk, none)
    else ({ desk with evictionInProgress := true }, some .counting)
  | .counting =>
    if desk.manager.sessions.entries.length * 100 ≤
        config.maxSessionsCount * config.sessionEvictionRate then
      ({ desk with evictionInProgress := false }, none)
    else (desk, some .snapshotting)
  | .snapshotting => (desk, some (.selecting desk.manager.lockedSlots))
  | .selecting lockedSnapshot =>
    let idle := (desk.manager.sessions.select fun _ session =>
      session.state = .idle ∧ session.slotId ∉ lockedSnapshot).map Prod.fst
    (desk, some (.taking ((leastRecent.filter (· ∈ idle)).take config.sessionEvictionCount)))
  | .taking [] => ({ desk with evictionInProgress := false }, none)
  | .taking (sessionId :: candidates) =>
    match desk.manager.sessions.lookup sessionId with
    | none => (desk, some (.taking candidates))
    | some session =>
      -- the lock is looked at again while the map is held
      if desk.manager.Idle session then
        ({ desk with
          manager := { desk.manager with sessions := desk.manager.sessions.erase sessionId } },
          some (.closing sessionId session candidates))
      else (desk, some (.taking candidates))
  | .closing sessionId session candidates =>
    ({ desk with
      manager := (desk.manager.onSessionClosed sessionId session.hash
        session.responseId).finalizeSessionClose session }, some (.taking candidates))

def resume (frame : CopyFrame) (leastRecent : List String) : EvictionDesk × Option CopyFrame :=
  match frame with
  | .locking copy =>
    ({ desk with manager := desk.manager.lockSlot copy.slotToCopyFrom },
      some (.evicting .entering (some copy)))
  | .evicting eviction next =>
    match desk.evict config leastRecent eviction with
    | (desk, some eviction) => (desk, some (.evicting eviction next))
    | (desk, none) => (desk, issue next)
  | .allocating copy =>
    ({ desk with manager := desk.manager.unlockSlot copy.slotToCopyFrom }, none)

end EvictionDesk

def copyHandlers (config : SessionConfig) :
    Handlers EvictionDesk CopyCall CopyFrame (List String) where
  call := EvictionDesk.call config
  resume := EvictionDesk.resume config

abbrev Copying := Running EvictionDesk CopyFrame

abbrev CopyTurn := Turn CopyCall CopyFrame (List String)

section Uninterrupted

variable {config : SessionConfig} {next : Option SlotCopy} {frames : List CopyFrame}

/-- Turns of the eviction alone. -/
def Evicting (next : Option SlotCopy) (_ : Copying) (turn : CopyTurn) : Prop :=
  ∃ eviction leastRecent, turn = .resume (.evicting eviction next) leastRecent

variable {desk after : EvictionDesk} {leastRecent : List String} {eviction left : Eviction}

theorem evicting_continues
    (evicted : desk.evict config leastRecent eviction = (after, some left)) :
    Reaches (copyHandlers config).step (Evicting next)
      { shared := desk, frames := .evicting eviction next :: frames }
      { shared := after, frames := .evicting left next :: frames } := by
  refine .tail .refl ⟨eviction, leastRecent, rfl⟩ ?_
  simp only [Handlers.step, copyHandlers, List.mem_cons_self, ↓reduceIte, List.erase_cons_head,
    EvictionDesk.resume, evicted]
  rfl

theorem evicting_ends (evicted : desk.evict config leastRecent eviction = (after, none)) :
    Reaches (copyHandlers config).step (Evicting next)
      { shared := desk, frames := .evicting eviction next :: frames }
      { shared := after, frames := (EvictionDesk.issue next).toList ++ frames } := by
  refine .tail .refl ⟨eviction, leastRecent, rfl⟩ ?_
  simp only [Handlers.step, copyHandlers, List.mem_cons_self, ↓reduceIte, List.erase_cons_head,
    EvictionDesk.resume, evicted]

theorem taking_uninterrupted (candidates : List String) (manager : SessionManager) :
    Reaches (copyHandlers config).step (Evicting next)
      { shared := { manager, evictionInProgress := true }
        frames := .evicting (.taking candidates) next :: frames }
      { shared := { manager := candidates.foldl SessionManager.evictSession manager }
        frames := (EvictionDesk.issue next).toList ++ frames } := by
  induction candidates generalizing manager with
  | nil =>
    have ended : ({ manager, evictionInProgress := true } : EvictionDesk).evict config []
        (.taking []) = ({ manager }, none) := rfl
    exact evicting_ends ended
  | cons sessionId candidates ih =>
    refine .trans ?_ (ih (manager.evictSession sessionId))
    cases found : manager.sessions.lookup sessionId with
    | none =>
      have kept : manager.evictSession sessionId = manager := by
        simp only [SessionManager.evictSession, found]
      have gone : ({ manager, evictionInProgress := true } : EvictionDesk).evict config []
          (.taking (sessionId :: candidates)) =
          ({ manager, evictionInProgress := true }, some (.taking candidates)) := by
        simp only [EvictionDesk.evict, found]
      rw [kept]
      exact evicting_continues gone
    | some session =>
      by_cases idle : manager.Idle session
      · have evicted : manager.evictSession sessionId = manager.takeOut sessionId session := by
          simp [SessionManager.evictSession, found, idle]
        have taken : ({ manager, evictionInProgress := true } : EvictionDesk).evict config []
            (.taking (sessionId :: candidates)) =
            ({ manager := { manager with sessions := manager.sessions.erase sessionId }
               evictionInProgress := true }, some (.closing sessionId session candidates)) := by
          simp [EvictionDesk.evict, found, idle]
        have closed : EvictionDesk.evict config
            { manager := { manager with sessions := manager.sessions.erase sessionId }
              evictionInProgress := true } [] (.closing sessionId session candidates) =
            ({ manager := manager.takeOut sessionId session, evictionInProgress := true },
              some (.taking candidates)) := rfl
        rw [evicted]
        exact (evicting_continues taken).trans (evicting_continues closed)
      · have kept : manager.evictSession sessionId = manager := by
          simp [SessionManager.evictSession, found, idle]
        have busy : ({ manager, evictionInProgress := true } : EvictionDesk).evict config []
            (.taking (sessionId :: candidates)) =
            ({ manager, evictionInProgress := true }, some (.taking candidates)) := by
          simp [EvictionDesk.evict, found, idle]
        rw [kept]
        exact evicting_continues busy

/-- An eviction that nothing comes between is the whole call. -/
theorem evictOldSessions_uninterrupted (manager : SessionManager) (leastRecent : List String) :
    Reaches (copyHandlers config).step (Evicting next)
      { shared := { manager }, frames := .evicting .entering next :: frames }
      { shared := { manager := manager.evictOldSessions config leastRecent }
        frames := (EvictionDesk.issue next).toList ++ frames } := by
  have entered : ({ manager } : EvictionDesk).evict config [] .entering =
      ({ manager, evictionInProgress := true }, some .counting) := rfl
  refine (evicting_continues entered).trans ?_
  rw [SessionManager.evictOldSessions]
  split
  · next few =>
    have counted : ({ manager, evictionInProgress := true } : EvictionDesk).evict config []
        .counting = ({ manager }, none) := by
      simp [EvictionDesk.evict, few]
    exact evicting_ends counted
  · next many =>
    have counted : ({ manager, evictionInProgress := true } : EvictionDesk).evict config []
        .counting = ({ manager, evictionInProgress := true }, some .snapshotting) := by
      simp [EvictionDesk.evict, many]
    have looked : ({ manager, evictionInProgress := true } : EvictionDesk).evict config []
        .snapshotting = ({ manager, evictionInProgress := true },
          some (.selecting manager.lockedSlots)) := rfl
    have selected : ({ manager, evictionInProgress := true } : EvictionDesk).evict config
        leastRecent (.selecting manager.lockedSlots) =
        ({ manager, evictionInProgress := true },
          some (.taking ((leastRecent.filter (· ∈ manager.candidatesForEviction)).take
            config.sessionEvictionCount))) := rfl
    exact (evicting_continues counted).trans ((evicting_continues looked).trans
      ((evicting_continues selected).trans (taking_uninterrupted _ manager)))

end Uninterrupted

namespace CopyFrame

/-- The copy that the frame is a part of. -/
def copy? : CopyFrame → Option SlotCopy
  | locking copy | allocating copy => some copy
  | evicting _ next => next

/-- A copy whose slot is locked. It is to be issued when its own eviction is over. -/
def locked? : CopyFrame → Option SlotCopy
  | locking _ => none
  | evicting _ next => next
  | allocating copy => some copy

/-- The session that an eviction has taken. -/
def closes : CopyFrame → Option String
  | evicting (.closing sessionId _ _) _ => some sessionId
  | _ => none

theorem copy_of_locked {frame : CopyFrame} {copy : SlotCopy} (locked : copy ∈ frame.locked?) :
    copy ∈ frame.copy? := by
  cases frame with
  | locking => cases locked
  | evicting | allocating => exact locked

end CopyFrame

namespace Copying

variable (copying : Copying)

/-- The session that the turn evicts. -/
def evicts : CopyTurn → Option String
  | .resume (.evicting (.taking (sessionId :: _)) _) _ =>
    if ∃ session ∈ copying.shared.manager.sessions.lookup sessionId,
        copying.shared.manager.Idle session then
      some sessionId
    else none
  | _ => none

/-- The session that an eviction sends a DEALLOCATE for. -/
def deallocates : CopyTurn → Option String
  | .resume (.evicting (.closing sessionId session _) _) _ =>
    if session.slotId = invalidSlotId then none else some sessionId
  | _ => none

/-- No eviction takes or gives back the source of an allocation under way. -/
def SourcesSpared (config : SessionConfig) (copying : Copying) : Prop :=
  ∀ frame ∈ copying.frames, ∀ copy ∈ frame.locked?, ∀ turn after,
    (copyHandlers config).step copying turn = some after →
    copying.evicts turn ≠ some copy.source ∧ deallocates turn ≠ some copy.source

/-- Session ids are distinct: a new session is not one that is there or that is copied from. -/
def Distinct : CopyTurn → Prop
  | .call (.insertSession sessionId _) =>
    copying.shared.manager.sessions.lookup sessionId = none ∧
      ∀ frame ∈ copying.frames, ∀ copy ∈ frame.copy?, copy.source ≠ sessionId
  | _ => True

instance (copying : Copying) (turn : CopyTurn) : Decidable (copying.Distinct turn) := by
  unfold Distinct
  split <;> infer_instance

/-- When a copy locks its slot, no eviction has taken the source and not given it back. When an
allocation is over, no other copy has locked the slot. -/
def Exclusive : CopyTurn → Prop
  | .resume (.locking copy) _ => ∀ frame ∈ copying.frames, frame.closes ≠ some copy.source
  | .resume (.allocating copy) _ => ∀ frame ∈ copying.frames.erase (.allocating copy),
    ∀ other ∈ frame.locked?, other.slotToCopyFrom ≠ copy.slotToCopyFrom
  | _ => True

instance (copying : Copying) (turn : CopyTurn) : Decidable (copying.Exclusive turn) := by
  unfold Exclusive
  split <;> infer_instance

def Protective (turn : CopyTurn) : Prop :=
  copying.Distinct turn ∧ copying.Exclusive turn

instance (copying : Copying) (turn : CopyTurn) : Decidable (copying.Protective turn) :=
  inferInstanceAs (Decidable (_ ∧ _))

end Copying

/-- Sessions keep their slots or go, and the locks stay. -/
structure Narrows (before after : SessionManager) : Prop where
  locks : after.lockedSlots = before.lockedSlots
  sessions : ∀ sessionId, ∀ session ∈ after.sessions.lookup sessionId,
    ∃ earlier ∈ before.sessions.lookup sessionId, earlier.slotId = session.slotId

namespace Narrows

variable {before after : SessionManager}

theorem refl (manager : SessionManager) : Narrows manager manager :=
  ⟨rfl, fun _ session found => ⟨session, found, rfl⟩⟩

theorem erase (manager : SessionManager) (sessionId : String) :
    Narrows manager { manager with sessions := manager.sessions.erase sessionId } := by
  refine ⟨rfl, fun other session found => ⟨session, ?_, rfl⟩⟩
  by_cases same : other = sessionId
  · subst same
    rw [AList.lookup_erase] at found
    cases found
  · rwa [AList.lookup_erase_ne same] at found

theorem modify {change : Session → Session}
    (kept : ∀ session, (change session).slotId = session.slotId) (manager : SessionManager)
    (sessionId : String) : Narrows manager (manager.modify sessionId change) := by
  refine ⟨rfl, fun other session found => ?_⟩
  have found : (Table.modify sessionId change manager.sessions).lookup other = some session :=
    found
  have slots : ((Table.modify sessionId change manager.sessions).lookup other).map
      Session.slotId = (manager.sessions.lookup other).map Session.slotId :=
    Table.map_lookup_modify Session.slotId kept manager.sessions other
  rw [found, Option.map_some] at slots
  exact Option.map_eq_some_iff.mp slots.symm

/-- The indexes do not matter, nor what is given back. -/
theorem of_eq (sessions : after.sessions = before.sessions)
    (locks : after.lockedSlots = before.lockedSlots) : Narrows before after :=
  ⟨locks, fun _ session found => ⟨session, sessions ▸ found, rfl⟩⟩

theorem trans {middle : SessionManager} (first : Narrows before middle)
    (second : Narrows middle after) : Narrows before after := by
  refine ⟨second.locks.trans first.locks, fun sessionId session found => ?_⟩
  obtain ⟨earlier, here, same⟩ := second.sessions sessionId session found
  obtain ⟨first, there, equal⟩ := first.sessions sessionId earlier here
  exact ⟨first, there, equal.trans same⟩

end Narrows

theorem Change.slotId_apply (change : Change) (session : Session) :
    (change.apply session).slotId = session.slotId := by
  cases change with
  | markInFlight =>
    simp only [apply, Session.markInFlight]
    split <;> rfl
  | clearInFlight =>
    simp only [apply, Session.clearInFlight]
    split <;> rfl
  | shrinkCommittedBlocks blocks =>
    simp only [apply, Session.shrinkCommittedBlocks]
    split <;> rfl
  | setHash | setResponseId | setCommittedBlocks | setBeingGenerated => rfl

theorem onSessionClosed_narrows (manager : SessionManager) (sessionId : String)
    (session : Session) : Narrows manager ((manager.onSessionClosed sessionId session.hash
      session.responseId).finalizeSessionClose session) := by
  unfold SessionManager.finalizeSessionClose SessionManager.onSessionClosed
    SessionManager.removeResponseId
  split <;> split <;> exact .of_eq rfl rfl

theorem closeSession_narrows (manager : SessionManager) (sessionId : String) :
    Narrows manager (manager.closeSession sessionId) := by
  rw [SessionManager.closeSession]
  split
  · exact .refl manager
  · exact (Narrows.erase manager sessionId).trans (onSessionClosed_narrows _ sessionId _)

/-- What a step of an eviction does: sessions keep their slots or go, and one that it has taken
was idle and not locked. -/
theorem evict_spec (config : SessionConfig) (desk : EvictionDesk) (leastRecent : List String)
    (eviction : Eviction) (next : Option SlotCopy) :
    Narrows desk.manager (desk.evict config leastRecent eviction).1.manager ∧
      ∀ left ∈ (desk.evict config leastRecent eviction).2,
        ∀ sessionId ∈ (CopyFrame.evicting left next).closes,
        ∃ session ∈ desk.manager.sessions.lookup sessionId, desk.manager.Idle session := by
  fun_cases EvictionDesk.evict config desk leastRecent eviction with
  | case1 | case2 | case3 | case4 | case5 | case6 | case7 | case8 | case10 =>
    exact ⟨.refl _, by rintro left ⟨⟩ sessionId ⟨⟩⟩
  | case9 sessionId candidates session found idle =>
    refine ⟨.erase desk.manager sessionId, ?_⟩
    rintro left ⟨⟩ closed ⟨⟩
    exact ⟨session, found, idle⟩
  | case11 sessionId session candidates =>
    exact ⟨onSessionClosed_narrows desk.manager sessionId session,
      by rintro left ⟨⟩ sessionId ⟨⟩⟩

/-- The source of a copy has the slot that it had, and the slot is locked for an allocation. -/
structure CopyFrame.Holds (manager : SessionManager) (frame : CopyFrame) : Prop where
  slot : ∀ copy ∈ frame.copy?, ∀ session ∈ manager.sessions.lookup copy.source,
    session.slotId = copy.slotToCopyFrom
  locked : ∀ copy ∈ frame.locked?, copy.slotToCopyFrom ∈ manager.lockedSlots

/-- The second frame has not taken the source of the first. -/
def CopyFrame.Spares (frame other : CopyFrame) : Prop :=
  ∀ copy ∈ frame.locked?, other.closes ≠ some copy.source

/-- Sources are locked, and no eviction has taken one. -/
structure Guarded (manager : SessionManager) (frames : List CopyFrame) : Prop where
  holds : ∀ frame ∈ frames, frame.Holds manager
  spares : ∀ frame ∈ frames, ∀ other ∈ frames, frame.Spares other

section Guarded

variable {before after : SessionManager} {frame : CopyFrame} {frames : List CopyFrame}

theorem CopyFrame.Holds.narrow (holds : frame.Holds before) (narrows : Narrows before after) :
    frame.Holds after := by
  refine ⟨fun copy copied session found => ?_, fun copy locked => ?_⟩
  · obtain ⟨earlier, present, same⟩ := narrows.sessions copy.source session found
    exact same.symm.trans (holds.slot copy copied earlier present)
  · rw [narrows.locks]
    exact holds.locked copy locked

section

variable (guarded : Guarded before frames)
include guarded

theorem Guarded.narrow (narrows : Narrows before after) : Guarded after frames :=
  ⟨fun frame waits => (guarded.holds frame waits).narrow narrows, guarded.spares⟩

theorem Guarded.erase (frame : CopyFrame) : Guarded before (frames.erase frame) :=
  ⟨fun other waits => guarded.holds other (List.mem_of_mem_erase waits),
    fun other waits more here =>
      guarded.spares other (List.mem_of_mem_erase waits) more (List.mem_of_mem_erase here)⟩

theorem Guarded.add (added : Option CopyFrame) (holds : ∀ frame ∈ added, frame.Holds before)
    (self : ∀ frame ∈ added, frame.Spares frame)
    (others : ∀ frame ∈ added, ∀ other ∈ frames, frame.Spares other ∧ other.Spares frame) :
    Guarded before (added.toList ++ frames) := by
  cases added with
  | none => exact guarded
  | some frame =>
    have spares := others frame rfl
    refine ⟨List.forall_mem_cons.mpr ⟨holds frame rfl, guarded.holds⟩,
      List.forall_mem_cons.mpr ⟨List.forall_mem_cons.mpr ⟨self frame rfl, ?_⟩, ?_⟩⟩
    · exact fun other waits => (spares other waits).1
    · exact fun other waits =>
        List.forall_mem_cons.mpr ⟨(spares other waits).2, guarded.spares other waits⟩

end

/-- The source of an allocation is not idle to an eviction. -/
theorem CopyFrame.Holds.not_idle (holds : frame.Holds before) {copy : SlotCopy}
    (locked : copy ∈ frame.locked?) {session : Session}
    (found : session ∈ before.sessions.lookup copy.source) : ¬before.Idle session := by
  intro idle
  refine idle.2 ?_
  rw [holds.slot copy (CopyFrame.copy_of_locked locked) session found]
  exact holds.locked copy locked

end Guarded

section Steps

variable {config : SessionConfig} {desk : EvictionDesk} {frames : List CopyFrame}
variable {manager : SessionManager} {frame : CopyFrame}

theorem bestSlotToCopyFrom_slot {best : Candidate String} {candidates : List (Candidate String)}
    {plan : SlotCopyPlan}
    (planned : manager.bestSlotToCopyFrom config (best :: candidates) = some plan) :
    ∃ session ∈ manager.sessions.lookup best.sessionId, session.slotId = plan.slotToCopyFrom := by
  simp only [SessionManager.bestSlotToCopyFrom] at planned
  split at planned
  · cases planned
  · next session found =>
    split at planned
    · cases planned
      exact ⟨session, found, rfl⟩
    · cases planned

/-- A request that is about to lock the slot of a session. -/
theorem holds_locking {copy : SlotCopy} (found : ∃ session ∈ manager.sessions.lookup copy.source,
      session.slotId = copy.slotToCopyFrom) : (CopyFrame.locking copy).Holds manager := by
  obtain ⟨session, here, slot⟩ := found
  refine ⟨?_, by rintro _ ⟨⟩⟩
  rintro _ ⟨⟩ other present
  obtain rfl := Option.some.inj (here.symm.trans present)
  exact slot

/-- An eviction that belongs to no copy. -/
theorem holds_evicting (manager : SessionManager) (eviction : Eviction) :
    (CopyFrame.evicting eviction none).Holds manager :=
  ⟨by rintro _ ⟨⟩, by rintro _ ⟨⟩⟩

/-- A frame that holds no lock and has taken no session. -/
theorem Guarded.begin (guarded : Guarded manager frames) (holds : frame.Holds manager)
    (unlocked : frame.locked? = none) (untaken : frame.closes = none) :
    Guarded manager (frame :: frames) := by
  have spares : ∀ other, CopyFrame.Spares frame other := by
    intro other copy locked
    rw [unlocked] at locked
    cases locked
  have spared : ∀ other, CopyFrame.Spares other frame := by
    intro other copy locked
    rw [untaken]
    exact nofun
  refine guarded.add (some frame) ?_ ?_ ?_
  · rintro _ ⟨⟩
    exact holds
  · rintro _ ⟨⟩
    exact spares _
  · rintro _ ⟨⟩ other waits
    exact ⟨spares other, spared other⟩

section

variable (guarded : Guarded desk.manager frames)
include guarded

theorem guarded_call (call : CopyCall)
    (distinct : Copying.Distinct { shared := desk, frames } (.call call)) :
    Guarded (desk.call config call).1.manager
      ((desk.call config call).2.toList ++ frames) := by
  cases call with
  | modify sessionId change =>
    exact guarded.narrow (.modify change.slotId_apply desk.manager sessionId)
  | insertSession sessionId session =>
    refine ⟨fun frame waits => ⟨fun copy copied found present => ?_, ?_⟩, guarded.spares⟩
    · have other : copy.source ≠ sessionId := distinct.2 frame waits copy copied
      have kept : desk.manager.sessions.lookup copy.source = some found :=
        (AList.lookup_insert_ne other).symm.trans present
      exact (guarded.holds frame waits).slot copy copied found kept
    · exact (guarded.holds frame waits).locked
  | closeSession sessionId => exact guarded.narrow (closeSession_narrows desk.manager sessionId)
  | getSlot candidates =>
    simp only [EvictionDesk.call]
    split
    · next plan best rest planned =>
      exact guarded.begin (holds_locking (bestSlotToCopyFrom_slot planned)) rfl rfl
    · exact guarded.begin (holds_evicting desk.manager .entering) rfl rfl
  | prepareSlotCopy sessionId =>
    simp only [EvictionDesk.call]
    split
    · exact guarded.begin (holds_evicting desk.manager .entering) rfl rfl
    · next session found =>
      split
      · exact guarded.begin (holds_evicting desk.manager .entering) rfl rfl
      · exact guarded.begin (holds_locking ⟨session, found, rfl⟩) rfl rfl
  | evictOldSessions => exact guarded.begin (holds_evicting desk.manager .entering) rfl rfl

theorem guarded_evict {eviction : Eviction} {next : Option SlotCopy}
    (waits : .evicting eviction next ∈ frames) (leastRecent : List String) :
    Guarded (desk.resume config (.evicting eviction next) leastRecent).1.manager
      ((desk.resume config (.evicting eviction next) leastRecent).2.toList ++
        frames.erase (.evicting eviction next)) := by
  obtain ⟨narrows, taken⟩ := evict_spec config desk leastRecent eviction next
  have holds := (guarded.holds _ waits).narrow narrows
  have spares := guarded.spares _ waits
  have rest := (guarded.erase (.evicting eviction next)).narrow narrows
  rw [EvictionDesk.resume]
  generalize desk.evict config leastRecent eviction = outcome at narrows taken holds rest ⊢
  obtain ⟨after, left⟩ := outcome
  have spared : ∀ left' ∈ left, ∀ other ∈ frames, other.Spares (.evicting left' next) := by
    intro left' still other here copy locked closed
    obtain ⟨session, found, idle⟩ := taken left' still copy.source closed
    exact (guarded.holds other here).not_idle locked found idle
  cases left with
  | some left' =>
    refine rest.add (some (.evicting left' next)) ?_ ?_ ?_
    · rintro _ ⟨⟩
      exact ⟨holds.slot, holds.locked⟩
    · rintro _ ⟨⟩ copy locked
      exact spared left' rfl _ waits copy locked
    · rintro _ ⟨⟩ other here
      have here := List.mem_of_mem_erase here
      exact ⟨spares other here, spared left' rfl other here⟩
  | none =>
    refine rest.add (EvictionDesk.issue next) ?_ ?_ ?_
    all_goals
      intro frame issued
      obtain ⟨copy, rfl, rfl⟩ := Option.map_eq_some_iff.mp issued
    · exact ⟨holds.slot, holds.locked⟩
    · exact nofun
    · exact fun other here => ⟨spares other (List.mem_of_mem_erase here), fun _ _ => nofun⟩

theorem guarded_resume (waits : frame ∈ frames) (leastRecent : List String)
    (exclusive : Copying.Exclusive { shared := desk, frames } (.resume frame leastRecent)) :
    Guarded (desk.resume config frame leastRecent).1.manager
      ((desk.resume config frame leastRecent).2.toList ++ frames.erase frame) := by
  cases frame with
  | locking copy =>
    have more : Guarded (desk.manager.lockSlot copy.slotToCopyFrom) frames :=
      ⟨fun other here => ⟨(guarded.holds other here).slot, fun locked copied =>
        Finset.mem_insert_of_mem ((guarded.holds other here).locked locked copied)⟩,
        guarded.spares⟩
    refine (more.erase _).add (some (.evicting .entering (some copy))) ?_ ?_ ?_
    · rintro _ ⟨⟩
      refine ⟨(guarded.holds _ waits).slot, ?_⟩
      rintro _ ⟨⟩
      exact Finset.mem_insert_self ..
    · rintro _ ⟨⟩ _ _
      exact nofun
    · rintro _ ⟨⟩ other here
      refine ⟨?_, fun _ _ => nofun⟩
      rintro _ ⟨⟩
      exact exclusive other (List.mem_of_mem_erase here)
  | evicting eviction next => exact guarded_evict guarded waits leastRecent
  | allocating copy =>
    have rest := guarded.erase (.allocating copy)
    refine ⟨fun other here => ⟨(rest.holds other here).slot, fun locked copied => ?_⟩,
      rest.spares⟩
    exact Finset.mem_erase.mpr ⟨exclusive other here locked copied,
      (rest.holds other here).locked locked copied⟩

end

theorem closes_of_deallocates {leastRecent : List String} {sessionId : String}
    (given : Copying.deallocates (.resume frame leastRecent) = some sessionId) :
    frame.closes = some sessionId := by
  cases frame with
  | locking | allocating => cases given
  | evicting eviction next =>
    cases eviction with
    | closing closed session candidates =>
      simp only [Copying.deallocates] at given
      split at given
      · cases given
      · exact given
    | entering | counting | snapshotting | selecting | taking => cases given

/-- What is guarded is spared. -/
theorem Guarded.sourcesSpared (guarded : Guarded desk.manager frames) :
    Copying.SourcesSpared config { shared := desk, frames } := by
  intro frame waits copy locked turn after stepped
  cases turn with
  | call => exact ⟨nofun, nofun⟩
  | resume other leastRecent =>
    have here : other ∈ frames := by
      by_contra absent
      rw [Handlers.step, if_neg absent] at stepped
      cases stepped
    have spares := guarded.spares frame waits other here copy locked
    constructor
    · intro evicted
      unfold Copying.evicts at evicted
      split at evicted
      · split at evicted
        · next idle =>
          cases evicted
          obtain ⟨session, found, idle⟩ := idle
          exact (guarded.holds frame waits).not_idle locked found idle
        · cases evicted
      · cases evicted
    · exact fun given => spares (closes_of_deallocates given)

end Steps

/-- In every run whose copies lock slots that no eviction is giving back, and unlock slots that no
other copy has locked, evictions leave the sources of allocations alone. -/
theorem sources_spared {config : SessionConfig} {manager : SessionManager} {copying : Copying}
    (reached : Reaches (copyHandlers config).step Copying.Protective
      { shared := { manager } } copying) : copying.SourcesSpared config := by
  refine Guarded.sourcesSpared (Handlers.invariant
    (fun copying => Guarded copying.shared.manager copying.frames) ?_ ?_ ?_ reached)
  · exact ⟨by rintro _ ⟨⟩, by rintro _ ⟨⟩⟩
  · exact fun copying call guarded permitted => guarded_call guarded call permitted.1
  · exact fun copying frame leastRecent guarded permitted waits =>
      guarded_resume guarded waits leastRecent permitted.2

section Runs

def sourceCopy : SlotCopy :=
  { source := "a", slotToCopyFrom := 1 }

/-- Two requests copy the slot of an idle session, and both allocations are issued. -/
def twoCopies : List CopyTurn :=
  [.call (.insertSession "a" { hash := 7, slotId := 1 }),
    .call (.modify "a" (.setBeingGenerated false)),
    .call (.getSlot [{ sessionId := "a", matchedBlocks := 1, sessionBlocks := 1, thinkTokens := 0 }]),
    .resume (.locking sourceCopy) [],
    .resume (.evicting .entering (some sourceCopy)) [],
    .resume (.evicting .counting (some sourceCopy)) [],
    .call (.prepareSlotCopy "a"),
    .resume (.locking sourceCopy) [],
    .resume (.evicting .entering (some sourceCopy)) [],
    .resume (.evicting .counting (some sourceCopy)) []]

theorem twoCopies_run : (runWithin (copyHandlers decodeConfig).step Copying.Protective
    { shared := { manager := {} } } twoCopies).isSome = true := by
  decide +kernel

theorem sources_spared_twoCopies : Copying.SourcesSpared decodeConfig
    ((runWithin (copyHandlers decodeConfig).step Copying.Protective
      { shared := { manager := {} } } twoCopies).get twoCopies_run) :=
  sources_spared (reaches_get twoCopies_run)

/-- The first allocation is over while the second is still to come. With three sessions there is an
eviction. -/
def firstOver : List CopyTurn :=
  twoCopies ++
    [.call (.insertSession "b" { hash := 0, slotId := 2, state := .prepared }),
      .resume (.allocating sourceCopy) [],
      .call (.insertSession "c" { hash := 0, slotId := 3, state := .prepared }),
      .call .evictOldSessions,
      .resume (.evicting .entering none) [],
      .resume (.evicting .counting none) [],
      .resume (.evicting .snapshotting none) [],
      .resume (.evicting (.selecting ∅) none) ["a", "b", "c"]]

theorem firstOver_run : (runWithin (copyHandlers decodeConfig).step Copying.Distinct
    { shared := { manager := {} } } firstOver).isSome = true := by
  decide +kernel

def afterFirstOver : Copying :=
  (runWithin (copyHandlers decodeConfig).step Copying.Distinct { shared := { manager := {} } }
    firstOver).get firstOver_run

/-- An allocation that is over unlocks the source of another. -/
theorem not_sources_spared :
    ¬∀ (config : SessionConfig) (manager : SessionManager) (copying : Copying),
      Reaches (copyHandlers config).step Copying.Distinct { shared := { manager } } copying →
      copying.SourcesSpared config := by
  intro spared
  have waits : .allocating sourceCopy ∈ afterFirstOver.frames := by
    decide +kernel
  have evicted : afterFirstOver.evicts (.resume (.evicting (.taking ["a"]) none) []) =
      some "a" := by
    decide +kernel
  have goes_on : ((copyHandlers decodeConfig).step afterFirstOver
      (.resume (.evicting (.taking ["a"]) none) [])).isSome = true := by
    decide +kernel
  obtain ⟨after, stepped⟩ := Option.isSome_iff_exists.mp goes_on
  exact (spared decodeConfig {} afterFirstOver (reaches_get firstOver_run) _ waits sourceCopy rfl
    _ after stepped).1 evicted

end Runs

end InferenceServer.Sessions
