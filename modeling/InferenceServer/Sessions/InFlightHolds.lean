import InferenceServer.Sessions.IndexAgreement

/-! Who holds a session that is in flight. A request that has marked a session releases it with
its final chunk, and again when its writer aborts; an error releases it as well. A release does not
say whose it is. A step of a thread is one access to the sessions, to the stream callbacks or to a
writer. -/
namespace InferenceServer.Sessions
open Machine PrefixCache

/-- Requests over HTTP with either writer, requests and decode hops over dynamo, and prefill
work. -/
inductive RequestKind
  | streaming
  | nonStreaming
  | dynamo
  | decode
  | prefill
  deriving DecidableEq

structure Request where
  taskId : Nat
  sessionId : String
  kind : RequestKind
  deriving DecidableEq

/-- What a thread does for a request. Before a decode hop, the reservation is answered. -/
inductive HoldStep
  | preProcess
  | dispatch
  | sendError
  /-- The callback for a chunk that is not the final one. -/
  | chunk
  | eraseCallback
  | finalizeAndRegisterHashes
  | release
  /-- The end of the callback for the final chunk. -/
  | finalize
  /-- The writer is done. A streaming writer's event loop does this later. -/
  | close
  | abortRequest
  deriving DecidableEq

namespace RequestKind

/-- What follows when the session is marked. -/
def start : RequestKind → List HoldStep
  | prefill => [.dispatch]
  | streaming | nonStreaming | dynamo | decode => [.preProcess]

def hasWriter : RequestKind → Bool
  | streaming | nonStreaming => true
  | dynamo | decode | prefill => false

/-- The callback for the final chunk. -/
def finalCallback : RequestKind → List HoldStep
  | streaming | nonStreaming => [.finalizeAndRegisterHashes, .release, .finalize]
  | dynamo => [.finalizeAndRegisterHashes, .release]
  | decode | prefill => [.release]

def onDispatchError : RequestKind → List HoldStep
  | streaming | dynamo => [.release]
  | nonStreaming => [.sendError]
  | decode | prefill => []

/-- A chunk that could not be sent. A streaming writer finds out in its event loop. -/
def unsent : RequestKind → List HoldStep
  | dynamo => [.abortRequest]
  | decode => [.release, .abortRequest]
  | streaming | nonStreaming | prefill => []

end RequestKind

/-- A thread with its steps to come. -/
structure HoldFrame where
  request : Request
  steps : List HoldStep
  deriving DecidableEq

/-- What is left to chance: whether a call succeeds, whether a dispatch registers the callback
before it fails, and the blocks at the end of a turn, if the accumulator is set up. -/
structure HoldChance where
  succeeds : Bool := true
  registers : Bool := true
  allBlocks : Option (List BlockHashInfo) := none

inductive HoldCall
  | getSlot (request : Request) (expectedKeyHash : Option UInt64)
      (expectedResponseId : Option String)
  /-- A consumer thread has got a token for a task. -/
  | token (taskId : Nat) (isFinal isError : Bool)
  /-- The disaggregation service calls the callback that it was given. -/
  | deliver (request : Request) (isFinal : Bool)
  /-- A session that is closed cancels its request. -/
  | abortRequest (taskId : Nat)
  /-- The client of a streaming writer is gone. -/
  | abort (request : Request)
  | insertSession (sessionId : String) (session : Session)
  | closeSession (sessionId : String)
  | evictSession (sessionId : String)

/-- The sessions, the callbacks of the service, the requests whose callbacks are handed out, and
the writers that are not done. Beside these are kept, for the record, the requests that were marked,
whose hold each session is, and the tasks that have released their session. -/
structure HoldDesk where
  manager : SessionManager := {}
  streamCallbacks : Table Nat Request := ∅
  dispatched : List Request := []
  openWriters : List Request := []
  marked : List Request := []
  holders : Table String Nat := ∅
  released : Finset Nat := ∅

namespace HoldDesk

variable (desk : HoldDesk)

/-- The session's own hook, whoever calls it. A hold is over when its own request releases it. -/
def release (request : Request) : HoldDesk :=
  { desk with
    manager := desk.manager.releaseInFlight request.sessionId
    holders :=
      if desk.holders.lookup request.sessionId = some request.taskId then
        desk.holders.erase request.sessionId
      else desk.holders
    released := insert request.taskId desk.released }

def closeSession (sessionId : String) : HoldDesk :=
  { desk with
    manager := desk.manager.closeSession sessionId
    holders := desk.holders.erase sessionId }

/-- A turn without new blocks closes its session. -/
def finalizeAndRegisterHashes (sessionId : String) :
    Option (List BlockHashInfo) → HoldDesk
  | none => desk
  | some [] => desk.closeSession sessionId
  | some (front :: remaining) =>
    { desk with
      manager := desk.manager.finalizeAndRegisterHashes sessionId (front :: remaining) }

/-- A step, and the steps that it puts before the others. -/
def perform (request : Request) (chance : HoldChance) :
    HoldStep → HoldDesk × List HoldStep
  | .preProcess => (desk, if chance.succeeds then [.dispatch] else [.release])
  | .dispatch =>
    ({ desk with
      streamCallbacks :=
        if chance.registers then desk.streamCallbacks.insert request.taskId request
        else desk.streamCallbacks
      dispatched := request :: desk.dispatched
      openWriters :=
        if request.kind.hasWriter then request :: desk.openWriters else desk.openWriters },
      if chance.succeeds then [] else request.kind.onDispatchError)
  | .sendError =>
    if request ∈ desk.openWriters then
      ({ desk with openWriters := desk.openWriters.erase request }, [.release])
    else (desk, [])
  | .chunk => (desk, if chance.succeeds then [] else request.kind.unsent)
  | .eraseCallback =>
    ({ desk with streamCallbacks := desk.streamCallbacks.erase request.taskId },
      request.kind.finalCallback)
  | .finalizeAndRegisterHashes =>
    (desk.finalizeAndRegisterHashes request.sessionId chance.allBlocks, [])
  | .release => (desk.release request, [])
  | .finalize => (desk, if request ∈ desk.openWriters then [.close] else [])
  | .close => ({ desk with openWriters := desk.openWriters.erase request }, [])
  | .abortRequest =>
    match desk.streamCallbacks.lookup request.taskId with
    | none => (desk, [])
    | some callback =>
      ({ desk with streamCallbacks := desk.streamCallbacks.erase request.taskId },
        callback.kind.finalCallback)

def call : HoldCall → HoldDesk × Option HoldFrame
  | .getSlot request expectedKeyHash expectedResponseId =>
    match desk.manager.tryMarkInFlight request.sessionId expectedKeyHash expectedResponseId with
    | (manager, { outcome := .marked, .. }) =>
      ({ desk with
        manager
        marked := request :: desk.marked
        holders := desk.holders.insert request.sessionId request.taskId },
        some { request, steps := request.kind.start })
    | _ => (desk, none)
  | .token taskId isFinal isError =>
    match desk.streamCallbacks.lookup taskId with
    | none => (desk, none)
    | some request =>
      if isFinal then
        ({ desk with streamCallbacks := desk.streamCallbacks.erase taskId },
          some { request, steps := request.kind.finalCallback })
      else (desk, some { request, steps := [if isError then .eraseCallback else .chunk] })
  | .deliver request isFinal =>
    if request ∈ desk.dispatched then
      (desk, some { request, steps := if isFinal then request.kind.finalCallback else [.chunk] })
    else (desk, none)
  | .abortRequest taskId =>
    match desk.streamCallbacks.lookup taskId with
    | none => (desk, none)
    | some request =>
      ({ desk with streamCallbacks := desk.streamCallbacks.erase taskId },
        some { request, steps := request.kind.finalCallback })
  | .abort request =>
    if request ∈ desk.openWriters ∧ request.kind = .streaming then
      ({ desk with openWriters := desk.openWriters.erase request },
        some { request, steps := [.abortRequest, .release] })
    else (desk, none)
  | .insertSession sessionId session =>
    ({ desk with manager := desk.manager.insertSession sessionId session }, none)
  | .closeSession sessionId => (desk.closeSession sessionId, none)
  | .evictSession sessionId =>
    ({ desk with manager := desk.manager.evictSession sessionId }, none)

def resume (frame : HoldFrame) (chance : HoldChance) : HoldDesk × Option HoldFrame :=
  match frame.steps with
  | [] => (desk, none)
  | step :: rest =>
    let (desk, more) := desk.perform frame.request chance step
    (desk, some { frame with steps := more ++ rest })

end HoldDesk

def holdHandlers : Handlers HoldDesk HoldCall HoldFrame HoldChance where
  call := HoldDesk.call
  resume := HoldDesk.resume

abbrev Holding := Running HoldDesk HoldFrame

abbrev HoldTurn := Turn HoldCall HoldFrame HoldChance

namespace Holding

variable (holding : Holding)

/-- A session that a request holds is in flight, and nobody else is marked on it. -/
def Kept : Prop :=
  ∀ sessionId taskId, holding.shared.holders.lookup sessionId = some taskId →
    (∃ session ∈ holding.shared.manager.sessions.lookup sessionId, session.state = .inFlight) ∧
    ∀ expectedKeyHash expectedResponseId, (holding.shared.manager.tryMarkInFlight sessionId
      expectedKeyHash expectedResponseId).2.outcome ≠ .marked

/-- Task ids and session ids are distinct. -/
def Distinct : HoldTurn → Prop
  | .call (.getSlot request _ _) =>
    ∀ other ∈ holding.shared.marked, other.taskId ≠ request.taskId
  | .call (.insertSession sessionId _) =>
    holding.shared.manager.sessions.lookup sessionId = none ∧
      ∀ other ∈ holding.shared.marked, other.sessionId ≠ sessionId
  | _ => True

instance (holding : Holding) (turn : HoldTurn) : Decidable (holding.Distinct turn) := by
  unfold Distinct
  split <;> infer_instance

/-- A request that has released its session does so again only while no other request holds it. -/
def Prompt : HoldTurn → Prop
  | .resume { request, steps := .release :: _ } _ =>
    request.taskId ∈ holding.shared.released →
      ∀ taskId ∈ holding.shared.holders.lookup request.sessionId, taskId = request.taskId
  | _ => True

instance (holding : Holding) (turn : HoldTurn) : Decidable (holding.Prompt turn) := by
  unfold Prompt
  split <;> infer_instance

def Orderly (turn : HoldTurn) : Prop :=
  holding.Distinct turn ∧ holding.Prompt turn

instance (holding : Holding) (turn : HoldTurn) : Decidable (holding.Orderly turn) :=
  inferInstanceAs (Decidable (_ ∧ _))

end Holding

/-- Every hold is of a session in flight and of a request that has not released it yet; a request
that has not released its session holds it, or the session is gone. -/
structure Owned (desk : HoldDesk) : Prop where
  inFlight : ∀ sessionId taskId, desk.holders.lookup sessionId = some taskId →
    ∃ session ∈ desk.manager.sessions.lookup sessionId, session.state = .inFlight
  owner : ∀ sessionId taskId, desk.holders.lookup sessionId = some taskId →
    ∃ request ∈ desk.marked, request.taskId = taskId ∧ request.sessionId = sessionId ∧
      taskId ∉ desk.released
  unreleased : ∀ request ∈ desk.marked, request.taskId ∉ desk.released →
    desk.manager.sessions.lookup request.sessionId = none ∨
      desk.holders.lookup request.sessionId = some request.taskId
  released : ∀ taskId ∈ desk.released, ∃ request ∈ desk.marked, request.taskId = taskId
  distinct : ∀ request ∈ desk.marked, ∀ other ∈ desk.marked, request.taskId = other.taskId →
    request = other

/-- Threads, callbacks and writers are of requests that were marked. -/
structure Known (desk : HoldDesk) (frames : List HoldFrame) : Prop where
  frames : ∀ frame ∈ frames, frame.request ∈ desk.marked
  callbacks : ∀ taskId request, desk.streamCallbacks.lookup taskId = some request →
    request ∈ desk.marked
  dispatched : ∀ request ∈ desk.dispatched, request ∈ desk.marked
  writers : ∀ request ∈ desk.openWriters, request ∈ desk.marked

section Owned

variable {desk : HoldDesk}
variable {manager : SessionManager} {sessionId : String} {request : Request}

/-- The state of a session, if it is there. -/
def SessionManager.stateOf (manager : SessionManager) (sessionId : String) :
    Option SessionState :=
  (manager.sessions.lookup sessionId).map Session.state

theorem stateOf_eq_none :
    manager.stateOf sessionId = none ↔ manager.sessions.lookup sessionId = none :=
  Option.map_eq_none_iff

theorem stateOf_eq_inFlight : manager.stateOf sessionId = some .inFlight ↔
      ∃ session ∈ manager.sessions.lookup sessionId, session.state = .inFlight :=
  Option.map_eq_some_iff

/-- A change of the sessions' other fields. -/
theorem Owned.of_stateOf (owned : Owned desk)
    (same : ∀ sessionId, manager.stateOf sessionId = desk.manager.stateOf sessionId) :
    Owned { desk with manager } where
  inFlight sessionId taskId held := by
    rw [← stateOf_eq_inFlight, same, stateOf_eq_inFlight]
    exact owned.inFlight sessionId taskId held
  owner := owned.owner
  unreleased request marked free := by
    rw [← stateOf_eq_none, same, stateOf_eq_none]
    exact owned.unreleased request marked free
  released := owned.released
  distinct := owned.distinct

theorem stateOf_erase (manager : SessionManager) (sessionId other : String) :
    ({ manager with sessions := manager.sessions.erase sessionId } : SessionManager).stateOf
      other = if other = sessionId then none else manager.stateOf other := by
  unfold SessionManager.stateOf
  split
  · next same =>
    rw [same, AList.lookup_erase, Option.map_none]
  · next different =>
    rw [AList.lookup_erase_ne different]

theorem stateOf_takeOut (manager : SessionManager) (sessionId : String) (session : Session)
    (other : String) : (manager.takeOut sessionId session).stateOf other =
      if other = sessionId then none else manager.stateOf other := by
  rw [takeOut_eq]
  exact stateOf_erase manager sessionId other

theorem stateOf_closeSession (manager : SessionManager) (sessionId other : String) :
    (manager.closeSession sessionId).stateOf other =
      if other = sessionId then none else manager.stateOf other := by
  rw [SessionManager.closeSession]
  split
  · next absent =>
    split
    · next same => rw [same, stateOf_eq_none, absent]
    · rfl
  · exact stateOf_takeOut manager sessionId _ other

/-- The session is gone, and its hold with it. -/
theorem Owned.without (owned : Owned desk) (gone : ∀ other, manager.stateOf other =
      if other = sessionId then none else desk.manager.stateOf other) :
    Owned { desk with manager, holders := desk.holders.erase sessionId } := by
  have kept : ∀ other taskId, (desk.holders.erase sessionId).lookup other = some taskId →
      other ≠ sessionId ∧ desk.holders.lookup other = some taskId := by
    intro other taskId held
    by_cases same : other = sessionId
    · subst same
      rw [AList.lookup_erase] at held
      cases held
    · rw [AList.lookup_erase_ne same] at held
      exact ⟨same, held⟩
  refine ⟨fun other taskId held => ?_, fun other taskId held => ?_,
    fun request marked free => ?_, owned.released, owned.distinct⟩
  · obtain ⟨different, held⟩ := kept other taskId held
    rw [← stateOf_eq_inFlight, gone, if_neg different, stateOf_eq_inFlight]
    exact owned.inFlight other taskId held
  · exact owned.owner other taskId (kept other taskId held).2
  · by_cases same : request.sessionId = sessionId
    · exact .inl (stateOf_eq_none.mp ((gone _).trans (if_pos same)))
    · rcases owned.unreleased request marked free with absent | held
      · refine .inl (stateOf_eq_none.mp ((gone _).trans ?_))
        rw [if_neg same, stateOf_eq_none]
        exact absent
      · exact .inr ((AList.lookup_erase_ne same).trans held)

theorem Owned.close (owned : Owned desk) (sessionId : String) :
    Owned (desk.closeSession sessionId) :=
  owned.without (stateOf_closeSession desk.manager sessionId)

/-- An eviction takes a session that is idle, which nobody holds. -/
theorem Owned.evict (owned : Owned desk) (sessionId : String) :
    Owned { desk with manager := desk.manager.evictSession sessionId } := by
  rw [SessionManager.evictSession]
  cases found : desk.manager.sessions.lookup sessionId with
  | none => exact owned
  | some session =>
    simp only
    split
    · next idle =>
      have free : desk.holders.lookup sessionId = none := by
        by_contra held
        obtain ⟨taskId, held⟩ := Option.ne_none_iff_exists'.mp held
        obtain ⟨other, here, busy⟩ := owned.inFlight sessionId taskId held
        obtain rfl := Option.some.inj (found.symm.trans here)
        rw [idle.1] at busy
        cases busy
      have same : desk.holders.erase sessionId = desk.holders :=
        AList.ext (List.kerase_of_notMem_keys (AList.lookup_eq_none.mp free))
      have gone := owned.without (stateOf_takeOut desk.manager sessionId session)
      rwa [same] at gone
    · exact owned

theorem stateOf_modify {change : Session → Session}
    (kept : ∀ session, (change session).state = session.state) (manager : SessionManager)
    (sessionId other : String) :
    (manager.modify sessionId change).stateOf other = manager.stateOf other :=
  Table.map_lookup_modify Session.state kept manager.sessions other

theorem stateOf_registerPrefixHash (manager : SessionManager) (sessionId : String)
    (blockInfos : List BlockHashInfo) (clearBeingGenerated : Bool) (other : String) :
    (manager.registerPrefixHash sessionId blockInfos clearBeingGenerated).stateOf other =
      manager.stateOf other := by
  unfold SessionManager.registerPrefixHash
  split
  · refine stateOf_modify ?_ manager sessionId other
    exact fun _ => rfl
  · rfl

section

variable (owned : Owned desk)
include owned

theorem Owned.finalize (sessionId : String) (allBlocks : Option (List BlockHashInfo)) :
    Owned (desk.finalizeAndRegisterHashes sessionId allBlocks) := by
  match allBlocks with
  | none => exact owned
  | some [] => exact owned.close sessionId
  | some (front :: remaining) =>
    refine owned.of_stateOf fun other => ?_
    refine (stateOf_registerPrefixHash _ sessionId (front :: remaining) true other).trans ?_
    refine stateOf_modify ?_ desk.manager sessionId other
    exact fun _ => rfl

theorem Owned.insert (session : Session)
    (new : ∀ request ∈ desk.marked, request.sessionId ≠ sessionId) :
    Owned { desk with manager := desk.manager.insertSession sessionId session } := by
  have kept : ∀ other, other ≠ sessionId →
      (desk.manager.insertSession sessionId session).sessions.lookup other =
        desk.manager.sessions.lookup other :=
    fun other different => AList.lookup_insert_ne different
  refine ⟨fun other taskId held => ?_, owned.owner, fun request marked free => ?_,
    owned.released, owned.distinct⟩
  · obtain ⟨request, marked, -, same, -⟩ := owned.owner other taskId held
    rw [kept other (same ▸ new request marked)]
    exact owned.inFlight other taskId held
  · rw [kept _ (new request marked)]
    exact owned.unreleased request marked free

/-- A session that was free is held by the request that has marked it. -/
theorem Owned.mark {session : Session}
    (found : desk.manager.sessions.lookup request.sessionId = some session)
    (free : session.state ≠ .inFlight) (new : ∀ other ∈ desk.marked, other.taskId ≠ request.taskId) :
    Owned { desk with
      manager := desk.manager.modify request.sessionId Session.markInFlight
      marked := request :: desk.marked
      holders := desk.holders.insert request.sessionId request.taskId } := by
  have unheld : ∀ taskId, desk.holders.lookup request.sessionId ≠ some taskId := by
    intro taskId held
    obtain ⟨other, here, busy⟩ := owned.inFlight _ taskId held
    obtain rfl := Option.some.inj (found.symm.trans here)
    exact free busy
  have fresh : request.taskId ∉ desk.released := by
    intro released
    obtain ⟨other, marked, same⟩ := owned.released _ released
    exact new other marked same
  have sessions : ∀ other, (desk.manager.modify request.sessionId
      Session.markInFlight).sessions.lookup other =
      if other = request.sessionId then some session.markInFlight
      else desk.manager.sessions.lookup other := by
    intro other
    rw [SessionManager.modify, Table.lookup_modify, found, Option.map_some]
  refine ⟨fun other taskId held => ?_, fun other taskId held => ?_, ?_, fun taskId released => ?_, ?_⟩
  · by_cases same : other = request.sessionId
    · refine ⟨session.markInFlight, (sessions other).trans (if_pos same), ?_⟩
      rw [Session.markInFlight, if_neg free]
    · rw [sessions, if_neg same]
      exact owned.inFlight other taskId ((AList.lookup_insert_ne same).symm.trans held)
  · by_cases same : other = request.sessionId
    · subst same
      obtain rfl := Option.some.inj ((AList.lookup_insert _).symm.trans held)
      exact ⟨request, List.mem_cons_self, rfl, rfl, fresh⟩
    · obtain ⟨owner, marked, rest⟩ :=
        owned.owner other taskId ((AList.lookup_insert_ne same).symm.trans held)
      exact ⟨owner, List.mem_cons_of_mem _ marked, rest⟩
  · intro other marked unreleased
    rcases List.mem_cons.mp marked with rfl | marked
    · exact .inr (AList.lookup_insert _)
    · rcases owned.unreleased other marked unreleased with absent | held
      · have different : other.sessionId ≠ request.sessionId := by
          intro same
          rw [same, found] at absent
          cases absent
        exact .inl ((sessions _).trans ((if_neg different).trans absent))
      · have different : other.sessionId ≠ request.sessionId := fun same =>
          unheld other.taskId (same ▸ held)
        exact .inr ((AList.lookup_insert_ne different).trans held)
  · obtain ⟨other, marked, same⟩ := owned.released taskId released
    exact ⟨other, List.mem_cons_of_mem _ marked, same⟩
  · intro first here second there same
    rcases List.mem_cons.mp here with rfl | old <;> rcases List.mem_cons.mp there with rfl | older
    · rfl
    · exact absurd same.symm (new second older)
    · exact absurd same (new first old)
    · exact owned.distinct first old second older same

/-- A request that releases its session for the first time ends its own hold; when it does so again,
there is no hold to end. -/
theorem Owned.release (marked : request ∈ desk.marked) (prompt : request.taskId ∈ desk.released →
      ∀ taskId ∈ desk.holders.lookup request.sessionId, taskId = request.taskId) :
    Owned (desk.release request) := by
  have others : ∀ other, other ≠ request.sessionId →
      (desk.manager.releaseInFlight request.sessionId).sessions.lookup other =
        desk.manager.sessions.lookup other := by
    intro other different
    rw [SessionManager.releaseInFlight, SessionManager.modify, Table.lookup_modify,
      if_neg different]
  have gone : desk.manager.sessions.lookup request.sessionId = none →
      (desk.manager.releaseInFlight request.sessionId).sessions.lookup request.sessionId =
        none := by
    intro absent
    rw [SessionManager.releaseInFlight, SessionManager.modify, Table.lookup_modify, if_pos rfl,
      absent, Option.map_none]
  -- whatever the session's hold was, it is this request's
  have own : ∀ taskId, desk.holders.lookup request.sessionId = some taskId →
      taskId = request.taskId := by
    intro taskId held
    by_cases again : request.taskId ∈ desk.released
    · exact prompt again taskId held
    · rcases owned.unreleased request marked again with absent | mine
      · obtain ⟨session, found, -⟩ := owned.inFlight _ taskId held
        rw [absent] at found
        cases found
      · exact Option.some.inj (held.symm.trans mine)
  have holders : ∀ other, (desk.release request).holders.lookup other =
      if other = request.sessionId then none else desk.holders.lookup other := by
    intro other
    simp only [HoldDesk.release]
    by_cases same : other = request.sessionId
    · subst same
      rw [if_pos rfl]
      split
      · exact AList.lookup_erase _ _
      · next unheld =>
        by_contra held
        obtain ⟨taskId, held⟩ := Option.ne_none_iff_exists'.mp held
        exact unheld (own taskId held ▸ held)
    · rw [if_neg same]
      split
      · exact AList.lookup_erase_ne same
      · rfl
  have apart : ∀ other taskId, (desk.release request).holders.lookup other = some taskId →
      other ≠ request.sessionId ∧ desk.holders.lookup other = some taskId := by
    intro other taskId held
    rw [holders] at held
    split at held
    · cases held
    · next different => exact ⟨different, held⟩
  refine ⟨fun other taskId held => ?_, fun other taskId held => ?_,
    fun other here unreleased => ?_, fun taskId released => ?_, owned.distinct⟩
  · obtain ⟨different, held⟩ := apart other taskId held
    have found := owned.inFlight other taskId held
    rwa [← others other different] at found
  · obtain ⟨different, held⟩ := apart other taskId held
    obtain ⟨owner, here, same, session, free⟩ := owned.owner other taskId held
    refine ⟨owner, here, same, session, fun released => ?_⟩
    rcases Finset.mem_insert.mp released with mine | earlier
    · have equal := owned.distinct owner here request marked (same.trans mine)
      exact different (session.symm.trans (congrArg Request.sessionId equal))
    · exact free earlier
  · have earlier : other.taskId ∉ desk.released := fun released =>
      unreleased (Finset.mem_insert_of_mem released)
    have apart : other.taskId ≠ request.taskId := fun same =>
      unreleased (Finset.mem_insert.mpr (.inl same))
    by_cases same : other.sessionId = request.sessionId
    · rcases owned.unreleased other here earlier with absent | held
      · rw [same] at absent ⊢
        exact .inl (gone absent)
      · exact absurd (own _ (same ▸ held)) apart
    · rcases owned.unreleased other here earlier with absent | held
      · exact .inl ((others _ same).trans absent)
      · exact .inr ((holders _).trans ((if_neg same).trans held))
  · rcases Finset.mem_insert.mp released with mine | earlier
    · exact ⟨request, marked, mine.symm⟩
    · exact owned.released taskId earlier

/-- Callbacks and writers do not matter to holds. -/
theorem Owned.of_eq {after : HoldDesk} (manager : after.manager = desk.manager)
    (marked : after.marked = desk.marked) (holders : after.holders = desk.holders)
    (released : after.released = desk.released) : Owned after := by
  obtain ⟨_, _, _, _, _, _, _⟩ := after
  subst manager marked holders released
  exact ⟨owned.inFlight, owned.owner, owned.unreleased, owned.released, owned.distinct⟩

theorem Owned.perform (marked : request ∈ desk.marked) (chance : HoldChance) {step : HoldStep}
    (prompt : step = .release → request.taskId ∈ desk.released →
      ∀ taskId ∈ desk.holders.lookup request.sessionId, taskId = request.taskId) :
    Owned (desk.perform request chance step).1 := by
  cases step with
  | preProcess | chunk | finalize => exact owned
  | dispatch | eraseCallback | close => exact owned.of_eq rfl rfl rfl rfl
  | sendError =>
    simp only [HoldDesk.perform]
    split
    · exact owned.of_eq rfl rfl rfl rfl
    · exact owned
  | finalizeAndRegisterHashes => exact owned.finalize request.sessionId chance.allBlocks
  | release => exact owned.release marked (prompt rfl)
  | abortRequest =>
    simp only [HoldDesk.perform]
    split
    · exact owned
    · exact owned.of_eq rfl rfl rfl rfl

end

end Owned

section Known

variable {desk : HoldDesk} {frames : List HoldFrame} {request : Request}

theorem marked_perform (desk : HoldDesk) (request : Request) (chance : HoldChance)
    (step : HoldStep) : (desk.perform request chance step).1.marked = desk.marked := by
  cases step with
  | sendError | abortRequest =>
    simp only [HoldDesk.perform]
    split <;> rfl
  | finalizeAndRegisterHashes =>
    simp only [HoldDesk.perform, HoldDesk.finalizeAndRegisterHashes]
    split <;> rfl
  | preProcess | dispatch | chunk | eraseCallback | release | finalize | close => rfl

section

variable (known : Known desk frames)
include known

theorem Known.erase (frame : HoldFrame) : Known desk (frames.erase frame) :=
  ⟨fun other waits => known.frames other (List.mem_of_mem_erase waits), known.callbacks,
    known.dispatched, known.writers⟩

theorem Known.add {added : Option HoldFrame} (marked : ∀ frame ∈ added, frame.request ∈ desk.marked) :
    Known desk (added.toList ++ frames) := by
  cases added with
  | none => exact known
  | some frame =>
    exact ⟨List.forall_mem_cons.mpr ⟨marked frame rfl, known.frames⟩, known.callbacks,
      known.dispatched, known.writers⟩

/-- More requests are marked, and callbacks and writers go. -/
theorem Known.mono {after : HoldDesk} (marked : ∀ request ∈ desk.marked, request ∈ after.marked)
    (callbacks : ∀ taskId request, after.streamCallbacks.lookup taskId = some request →
      desk.streamCallbacks.lookup taskId = some request)
    (dispatched : after.dispatched = desk.dispatched)
    (writers : ∀ request ∈ after.openWriters, request ∈ desk.openWriters) : Known after frames where
  frames frame waits := marked _ (known.frames frame waits)
  callbacks taskId request found := marked _ (known.callbacks taskId request
    (callbacks taskId request found))
  dispatched request sent := marked _ (known.dispatched request (dispatched ▸ sent))
  writers request opened := marked _ (known.writers request (writers request opened))

end

theorem lookup_of_erase {callbacks : Table Nat Request} {erased taskId : Nat} {request : Request}
    (found : (callbacks.erase erased).lookup taskId = some request) :
    callbacks.lookup taskId = some request := by
  by_cases same : taskId = erased
  · subst same
    rw [AList.lookup_erase] at found
    cases found
  · exact (AList.lookup_erase_ne same).symm.trans found

theorem Known.perform (known : Known desk frames) (marked : request ∈ desk.marked)
    (chance : HoldChance) (step : HoldStep) :
    Known (desk.perform request chance step).1 frames := by
  cases step with
  | preProcess | chunk | finalize => exact known
  | dispatch =>
    refine ⟨known.frames, fun taskId other found => ?_, List.forall_mem_cons.mpr
      ⟨marked, known.dispatched⟩, fun other opened => ?_⟩
    · simp only [HoldDesk.perform] at found
      split at found
      · by_cases same : taskId = request.taskId
        · subst same
          obtain rfl := Option.some.inj ((AList.lookup_insert _).symm.trans found)
          exact marked
        · exact known.callbacks taskId other ((AList.lookup_insert_ne same).symm.trans found)
      · exact known.callbacks taskId other found
    · simp only [HoldDesk.perform] at opened
      split at opened
      · rcases List.mem_cons.mp opened with rfl | earlier
        · exact marked
        · exact known.writers other earlier
      · exact known.writers other opened
  | eraseCallback =>
    exact known.mono (fun _ => id) (fun _ _ => lookup_of_erase) rfl fun _ => id
  | close =>
    exact known.mono (fun _ => id) (fun _ _ => id) rfl fun _ => List.mem_of_mem_erase
  | sendError =>
    simp only [HoldDesk.perform]
    split
    · exact known.mono (fun _ => id) (fun _ _ => id) rfl fun _ => List.mem_of_mem_erase
    · exact known
  | finalizeAndRegisterHashes =>
    simp only [HoldDesk.perform, HoldDesk.finalizeAndRegisterHashes]
    split
    · exact known
    · exact known.mono (fun _ => id) (fun _ _ => id) rfl fun _ => id
    · exact known.mono (fun _ => id) (fun _ _ => id) rfl fun _ => id
  | release => exact known.mono (fun _ => id) (fun _ _ => id) rfl fun _ => id
  | abortRequest =>
    simp only [HoldDesk.perform]
    split
    · exact known
    · exact known.mono (fun _ => id) (fun _ _ => lookup_of_erase) rfl fun _ => id

end Known

section Turns

variable {desk : HoldDesk} {frames : List HoldFrame}

theorem called (owned : Owned desk) (known : Known desk frames) (call : HoldCall)
    (distinct : Holding.Distinct { shared := desk, frames } (.call call)) :
    Owned (desk.call call).1 ∧
      Known (desk.call call).1 ((desk.call call).2.toList ++ frames) := by
  cases call with
  | getSlot request expectedKeyHash expectedResponseId =>
    have marks := tryMarkInFlight_spec desk.manager request.sessionId expectedKeyHash
      expectedResponseId
    simp only [HoldDesk.call]
    generalize desk.manager.tryMarkInFlight request.sessionId expectedKeyHash
      expectedResponseId = outcome at marks ⊢
    cases marks with
    | notFound | stale | busy => exact ⟨owned, known⟩
    | marked found free =>
      refine ⟨owned.mark found free distinct, Known.add ?_ ?_⟩
      · exact known.mono (fun _ => List.mem_cons_of_mem _) (fun _ _ => id) rfl fun _ => id
      · rintro _ ⟨⟩
        exact List.mem_cons_self
  | token taskId isFinal isError =>
    simp only [HoldDesk.call]
    cases found : desk.streamCallbacks.lookup taskId with
    | none => exact ⟨owned, known⟩
    | some request =>
      have marked := known.callbacks taskId request found
      cases isFinal with
      | true =>
        refine ⟨owned.of_eq rfl rfl rfl rfl, Known.add ?_ ?_⟩
        · exact known.mono (fun _ => id) (fun _ _ => lookup_of_erase) rfl fun _ => id
        · rintro _ ⟨⟩
          exact marked
      | false =>
        refine ⟨owned, known.add ?_⟩
        rintro _ ⟨⟩
        exact marked
  | deliver request isFinal =>
    simp only [HoldDesk.call]
    split
    · next sent =>
      refine ⟨owned, known.add ?_⟩
      rintro _ ⟨⟩
      exact known.dispatched request sent
    · exact ⟨owned, known⟩
  | abortRequest taskId =>
    simp only [HoldDesk.call]
    cases found : desk.streamCallbacks.lookup taskId with
    | none => exact ⟨owned, known⟩
    | some request =>
      refine ⟨owned.of_eq rfl rfl rfl rfl, Known.add ?_ ?_⟩
      · exact known.mono (fun _ => id) (fun _ _ => lookup_of_erase) rfl fun _ => id
      · rintro _ ⟨⟩
        exact known.callbacks taskId request found
  | abort request =>
    simp only [HoldDesk.call]
    split
    · next opened =>
      refine ⟨owned.of_eq rfl rfl rfl rfl, Known.add ?_ ?_⟩
      · exact known.mono (fun _ => id) (fun _ _ => id) rfl fun _ => List.mem_of_mem_erase
      · rintro _ ⟨⟩
        exact known.writers request opened.1
    · exact ⟨owned, known⟩
  | insertSession sessionId session =>
    exact ⟨owned.insert session distinct.2, known.mono (fun _ => id) (fun _ _ => id) rfl
      fun _ => id⟩
  | closeSession sessionId =>
    exact ⟨owned.close sessionId, known.mono (fun _ => id) (fun _ _ => id) rfl fun _ => id⟩
  | evictSession sessionId =>
    exact ⟨owned.evict sessionId, known.mono (fun _ => id) (fun _ _ => id) rfl fun _ => id⟩

theorem resumed (owned : Owned desk) (known : Known desk frames) {frame : HoldFrame}
    (waits : frame ∈ frames) (chance : HoldChance)
    (prompt : Holding.Prompt { shared := desk, frames } (.resume frame chance)) :
    Owned (desk.resume frame chance).1 ∧
      Known (desk.resume frame chance).1
        ((desk.resume frame chance).2.toList ++ frames.erase frame) := by
  have marked := known.frames frame waits
  obtain ⟨request, steps⟩ := frame
  cases steps with
  | nil => exact ⟨owned, known.erase _⟩
  | cons step rest =>
    refine ⟨owned.perform marked chance ?_, ((known.erase _).perform marked chance step).add ?_⟩
    · rintro rfl
      exact prompt
    · rintro _ ⟨⟩
      rw [marked_perform]
      exact marked

theorem Owned.kept (owned : Owned desk) : Holding.Kept { shared := desk, frames } := by
  intro sessionId taskId held
  have busy := owned.inFlight sessionId taskId held
  refine ⟨busy, fun expectedKeyHash expectedResponseId => ?_⟩
  obtain ⟨session, found, inFlight⟩ := busy
  have marks := tryMarkInFlight_spec desk.manager sessionId expectedKeyHash expectedResponseId
  generalize desk.manager.tryMarkInFlight sessionId expectedKeyHash expectedResponseId =
    outcome at marks ⊢
  cases marks with
  | notFound | stale | busy => exact nofun
  | marked here free =>
    obtain rfl := Option.some.inj (found.symm.trans here)
    exact absurd inFlight free

end Turns

section Reached

variable {manager : SessionManager} {holding after : Holding}

theorem owned_of_reaches
    (reached : Reaches holdHandlers.step Holding.Orderly { shared := { manager } } holding) :
    Owned holding.shared ∧ Known holding.shared holding.frames := by
  refine Handlers.invariant
    (fun holding => Owned holding.shared ∧ Known holding.shared holding.frames) ?_ ?_ ?_ reached
  · refine ⟨⟨?_, ?_, ?_, ?_, ?_⟩, ⟨?_, ?_, ?_, ?_⟩⟩ <;> exact nofun
  · exact fun holding call kept permitted => called kept.1 kept.2 call permitted.1
  · exact fun holding frame chance kept permitted waits =>
      resumed kept.1 kept.2 waits chance permitted.2

/-- In every run in which no request releases its session again under another's hold, whoever has
marked a session keeps it until it releases it itself or the session is closed. -/
theorem holds_kept
    (reached : Reaches holdHandlers.step Holding.Orderly { shared := { manager } } holding) :
    holding.Kept :=
  (owned_of_reaches reached).1.kept

/-- A release under another's hold ends it. -/
theorem not_kept_of_release {desk : HoldDesk} {request : Request} {taskId : Nat}
    (held : desk.holders.lookup request.sessionId = some taskId)
    (other : taskId ≠ request.taskId) (frames : List HoldFrame) :
    ¬Holding.Kept { shared := desk.release request, frames } := by
  intro kept
  have still : (desk.release request).holders.lookup request.sessionId = some taskId := by
    rw [HoldDesk.release, held, if_neg fun same => other (Option.some.inj same), held]
  obtain ⟨session, found, inFlight⟩ := (kept request.sessionId taskId still).1
  have cleared : (desk.manager.releaseInFlight request.sessionId).sessions.lookup
      request.sessionId = (desk.manager.sessions.lookup request.sessionId).map
        Session.clearInFlight := by
    rw [SessionManager.releaseInFlight, SessionManager.modify, Table.lookup_modify, if_pos rfl]
  obtain ⟨before, -, rfl⟩ := Option.map_eq_some_iff.mp (cleared.symm.trans found)
  rw [Session.clearInFlight] at inFlight
  split at inFlight
  · cases inFlight
  · next free => exact free inFlight

/-- The condition on releases is exact: the first turn that breaks it ends another's hold. -/
theorem kept_iff_prompt {turn : HoldTurn}
    (reached : Reaches holdHandlers.step Holding.Orderly { shared := { manager } } holding)
    (distinct : holding.Distinct turn) (stepped : holdHandlers.step holding turn = some after) :
    after.Kept ↔ holding.Prompt turn := by
  constructor
  · intro kept
    unfold Holding.Prompt
    split
    · next request rest chance =>
      intro again taskId held
      by_contra other
      rw [Handlers.step] at stepped
      split at stepped
      · cases stepped
        exact not_kept_of_release held other _ kept
      · cases stepped
    · trivial
  · exact fun prompt => (owned_of_reaches (.tail reached ⟨distinct, prompt⟩ stepped)).1.kept

end Reached

section Runs

def firstRequest : Request :=
  { taskId := 1, sessionId := "a", kind := .streaming }

def secondRequest : Request :=
  { taskId := 2, sessionId := "a", kind := .streaming }

/-- A streaming request up to the release with its final chunk. -/
def firstReleased : List HoldTurn :=
  [.call (.insertSession "a" { hash := 7, slotId := 1, state := .prepared }),
    .call (.getSlot firstRequest none none),
    .resume { request := firstRequest, steps := [.preProcess] } {},
    .resume { request := firstRequest, steps := [.dispatch] } {},
    .call (.token 1 true false),
    .resume { request := firstRequest, steps := [.finalizeAndRegisterHashes, .release, .finalize] }
      { allBlocks := some [⟨7, 0⟩] },
    .resume { request := firstRequest, steps := [.release, .finalize] } {}]

/-- The writer is done before the next request comes. -/
def oneAfterTheOther : List HoldTurn :=
  firstReleased ++
    [.resume { request := firstRequest, steps := [.finalize] } {},
      .resume { request := firstRequest, steps := [.close] } {},
      .call (.getSlot secondRequest (some 7) none)]

theorem oneAfterTheOther_runs : (runWithin holdHandlers.step Holding.Orderly
    { shared := { manager := {} } } oneAfterTheOther).isSome = true := by
  decide +kernel

theorem holds_kept_oneAfterTheOther : Holding.Kept ((runWithin holdHandlers.step Holding.Orderly
    { shared := { manager := {} } } oneAfterTheOther).get oneAfterTheOther_runs) :=
  holds_kept (reaches_get oneAfterTheOther_runs)

/-- The next request comes before the writer is done, and the first client is gone. -/
def lateAbort : List HoldTurn :=
  firstReleased ++
    [.call (.getSlot secondRequest (some 7) none),
      .call (.abort firstRequest),
      .resume { request := firstRequest, steps := [.abortRequest, .release] } {},
      .resume { request := firstRequest, steps := [.release] } {}]

theorem lateAbort_runs : (runWithin holdHandlers.step Holding.Distinct
    { shared := { manager := {} } } lateAbort).isSome = true := by
  decide +kernel

def afterLateAbort : Holding :=
  (runWithin holdHandlers.step Holding.Distinct { shared := { manager := {} } } lateAbort).get
    lateAbort_runs

/-- An abort after the final chunk releases the session of the next request. -/
theorem not_holds_kept :
    ¬∀ (manager : SessionManager) (holding : Holding),
      Reaches holdHandlers.step Holding.Distinct { shared := { manager } } holding →
      holding.Kept := by
  intro kept
  have held : afterLateAbort.shared.holders.lookup "a" = some 2 := by
    decide +kernel
  have idle : afterLateAbort.shared.manager.stateOf "a" = some .idle := by
    decide +kernel
  have busy := (kept {} afterLateAbort (reaches_get lateAbort_runs) "a" 2 held).1
  rw [← stateOf_eq_inFlight, idle] at busy
  cases busy

theorem lateAbort_orderly : (runWithin holdHandlers.step Holding.Orderly
    { shared := { manager := {} } } lateAbort.dropLast).isSome = true := by
  decide +kernel

/-- Before the release that the abort leads to. -/
def beforeLateRelease : Holding :=
  (runWithin holdHandlers.step Holding.Orderly { shared := { manager := {} } }
    lateAbort.dropLast).get lateAbort_orderly

theorem kept_iff_prompt_lateAbort :
    ∃ after : Holding, holdHandlers.step beforeLateRelease
      (.resume { request := firstRequest, steps := [.release] } {}) = some after ∧
        ¬after.Kept := by
  have moves : (holdHandlers.step beforeLateRelease
      (.resume { request := firstRequest, steps := [.release] } {})).isSome = true := by
    decide +kernel
  have stepped := (Option.some_get moves).symm
  have late : ¬beforeLateRelease.Prompt
      (.resume { request := firstRequest, steps := [.release] } {}) := by
    decide +kernel
  refine ⟨_, stepped, fun kept => late ?_⟩
  exact (kept_iff_prompt (reaches_get lateAbort_orderly) (by decide +kernel) stepped).mp kept

end Runs

end InferenceServer.Sessions
