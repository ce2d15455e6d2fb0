import InferenceServer.Sessions.CopyProtection

/-! Slots for new sessions: the allocations a session manager has under way, where they wait,
and what it sends to the memory manager. A call is one step that no other call comes between.
The indexes that lead to a session play no part in this. -/
namespace InferenceServer.Slots
open Machine PrefixCache
open Sessions (Session SessionState Change invalidSlotId)

structure SlotConfig where
  maxSessionsCount : Nat
  sessionEvictionRate : Nat
  sessionEvictionCount : Nat
  sessionAllocationMaxRetries : UInt32
  /-- Whether the queues to and from the memory manager could be created. -/
  memoryQueues : Bool := true

inductive ManageMemoryTask
  | allocate (taskId : UInt32) (slotIdToCopyFrom : Option UInt32)
  | deallocate (slotId : UInt32)
  deriving DecidableEq

inductive ManageMemoryStatus
  | success
  | failure
  deriving DecidableEq

structure ManageMemoryResult where
  taskId : UInt32
  status : ManageMemoryStatus
  slotId : UInt32
  deriving DecidableEq

/-- A record of an allocation. Its callbacks go by the number of the `createSession` call that
brought them. -/
structure PendingAllocation where
  call : Nat
  sessionId : String
  session : Session
  attemptsRemaining : Int32
  slotIdToCopyFrom : Option UInt32
  deriving DecidableEq

structure DeferredDealloc where
  sessionId : String
  slotId : UInt32
  deriving DecidableEq

/-- A callback on an event loop. -/
inductive Callback
  | onCompletion (call : Nat) (sessionId : String) (session : Session)
  | onError (call : Nat) (errorMessage : String)
  deriving DecidableEq

inductive CloseSessionResult
  | success
  | notFound
  deriving DecidableEq

/-- Beside the source's fields, the number of `createSession` calls, the callbacks that were queued,
and for each ALLOCATE task that was made, the call it was made for. -/
structure SessionManager where
  sessions : Table String Session := ∅
  lockedSlots : Finset UInt32 := ∅
  pendingAllocationsMap : Table UInt32 PendingAllocation := ∅
  pendingAllocationsRetryQueue : List PendingAllocation := []
  deferredDeallocQueue : List DeferredDealloc := []
  memoryRequestQueue : List ManageMemoryTask := []
  calls : Nat := 0
  callbacks : List Callback := []
  allocateTasks : List Nat := []

/-- What is left to chance in an eviction: the sessions in the order of their last activity, and
for which of them there is no room for the request. -/
structure EvictionChance where
  leastRecent : List String := []
  queueFull : String → Bool := fun _ => false

/-- What is left to chance when an allocation is sent. -/
structure Attempt where
  taskId : UInt32
  queueFull : Bool := false

/-- The arguments of `createSession`, and the id that is generated for the session. -/
structure Creation where
  sessionId : String
  initialBlockInfos : List BlockHashInfo := []
  slotId : Option UInt32 := none
  slotIdToCopyFrom : Option UInt32 := none

namespace SessionManager

variable (manager : SessionManager)

def queueInLoop (callback : Callback) : SessionManager :=
  { manager with callbacks := manager.callbacks ++ [callback] }

def insertSession (sessionId : String) (session : Session) : SessionManager :=
  { manager with sessions := manager.sessions.insert sessionId session }

variable (config : SlotConfig)

def sendDeallocRequest (manager : SessionManager) (sessionId : String) (slotId : UInt32)
    (queueFull : Bool) : SessionManager :=
  if !config.memoryQueues then manager
  else if queueFull then
    { manager with
      deferredDeallocQueue := manager.deferredDeallocQueue ++ [{ sessionId, slotId }] }
  else
    { manager with memoryRequestQueue := manager.memoryRequestQueue ++ [.deallocate slotId] }

def finalizeSessionClose (manager : SessionManager) (sessionId : String) (session : Session)
    (queueFull : Bool) : SessionManager :=
  if session.slotId ≠ invalidSlotId then
    manager.sendDeallocRequest config sessionId session.slotId queueFull
  else manager

def closeSession (manager : SessionManager) (sessionId : String) (queueFull : Bool) :
    SessionManager × CloseSessionResult :=
  match manager.sessions.take sessionId with
  | (none, _) => (manager, .notFound)
  | (some session, sessions) =>
    ({ manager with sessions }.finalizeSessionClose config sessionId session queueFull, .success)

/-- A session that may be evicted. -/
def Idle (session : Session) : Prop :=
  session.state = .idle ∧ session.slotId ∉ manager.lockedSlots

instance (manager : SessionManager) (session : Session) : Decidable (manager.Idle session) :=
  inferInstanceAs (Decidable (_ ∧ _))

/-- One round of the loop over the candidates for eviction. -/
def evictSession (queueFull : String → Bool) (manager : SessionManager) (sessionId : String) :
    SessionManager :=
  match manager.sessions.lookup sessionId with
  | none => manager
  | some session =>
    if manager.Idle session then (manager.closeSession config sessionId (queueFull sessionId)).1
    else manager

def candidatesForEviction : List String :=
  (manager.sessions.select fun _ session => manager.Idle session).map Prod.fst

def evictOldSessions (manager : SessionManager) (chance : EvictionChance) : SessionManager :=
  if manager.sessions.entries.length * 100 ≤
      config.maxSessionsCount * config.sessionEvictionRate then manager
  else
    ((chance.leastRecent.filter (· ∈ manager.candidatesForEviction)).take
      config.sessionEvictionCount).foldl (evictSession config chance.queueFull) manager

/-- Puts an allocation off, or gives it up when no attempt is left. -/
def retryOrFail (pendingAllocation : PendingAllocation) (errorMessage : String) : SessionManager :=
  if pendingAllocation.attemptsRemaining = 0 then
    manager.queueInLoop (.onError pendingAllocation.call errorMessage)
  else
    { manager with
      pendingAllocationsRetryQueue := manager.pendingAllocationsRetryQueue ++
        [{ pendingAllocation with
          attemptsRemaining := pendingAllocation.attemptsRemaining - 1 }] }

/-- Nothing when the new task id is that of another pending allocation. -/
def sendAsyncAllocationRequest (manager : SessionManager) (pendingAllocation : PendingAllocation)
    (attempt : Attempt) : Option SessionManager :=
  if config.maxSessionsCount ≤ manager.sessions.entries.length then
    some (manager.retryOrFail pendingAllocation
      "Failed to allocate: max session count reached after all attempts")
  else if (manager.pendingAllocationsMap.lookup attempt.taskId).isSome then none
  else
    let inserted := { manager with
      pendingAllocationsMap :=
        manager.pendingAllocationsMap.insert attempt.taskId pendingAllocation
      allocateTasks := manager.allocateTasks ++ [pendingAllocation.call] }
    if attempt.queueFull then
      match inserted.pendingAllocationsMap.take attempt.taskId with
      | (none, _) => some inserted
      | (some taken, pendingAllocationsMap) =>
        some ({ inserted with pendingAllocationsMap }.retryOrFail taken
          "Failed to allocate: IPC queue full after all attempts")
    else
      some { inserted with
        memoryRequestQueue := inserted.memoryRequestQueue ++
          [.allocate attempt.taskId pendingAllocation.slotIdToCopyFrom] }

def createSession (manager : SessionManager) (creation : Creation) (chance : EvictionChance)
    (attempt : Attempt) : Option SessionManager :=
  let evicted := manager.evictOldSessions config chance
  let call := evicted.calls
  let called := { evicted with calls := call + 1 }
  let hash := (creation.initialBlockInfos.head?.map BlockHashInfo.hash).getD 0
  match creation.slotId with
  | some slotId =>
    let session : Session := { hash, slotId }
    some ((called.insertSession creation.sessionId session).queueInLoop
      (.onCompletion call creation.sessionId session))
  | none =>
    if !config.memoryQueues then
      some (called.queueInLoop (.onError call "Memory management IPC not available"))
    else
      called.sendAsyncAllocationRequest config
        { call
          sessionId := creation.sessionId
          session := { hash, slotId := invalidSlotId }
          attemptsRemaining := config.sessionAllocationMaxRetries.toInt32
          slotIdToCopyFrom := creation.slotIdToCopyFrom } attempt

/-- One round of the loop over what was in the retry queue. Without an attempt its time has not
come. -/
def retryFailedAllocation (attempts : Nat → Option Attempt) (manager : SessionManager)
    (pendingAllocation : PendingAllocation) : Option SessionManager :=
  match attempts pendingAllocation.call with
  | some attempt => manager.sendAsyncAllocationRequest config pendingAllocation attempt
  | none =>
    some { manager with
      pendingAllocationsRetryQueue :=
        manager.pendingAllocationsRetryQueue ++ [pendingAllocation] }

def retryFailedAllocations (manager : SessionManager) (chance : EvictionChance)
    (attempts : Nat → Option Attempt) : Option SessionManager :=
  if manager.pendingAllocationsRetryQueue.isEmpty then some manager
  else
    let drained := { manager with pendingAllocationsRetryQueue := [] }
    manager.pendingAllocationsRetryQueue.foldlM (retryFailedAllocation config attempts)
      (drained.evictOldSessions config chance)

def handleMemoryResult (result : ManageMemoryResult) : SessionManager :=
  match manager.pendingAllocationsMap.take result.taskId with
  | (none, _) => manager
  | (some pendingAllocation, pendingAllocationsMap) =>
    let taken := { manager with pendingAllocationsMap }
    if result.status = .success ∧ result.slotId ≠ invalidSlotId then
      let session :=
        { pendingAllocation.session with slotId := result.slotId, state := .prepared }
      (taken.insertSession pendingAllocation.sessionId session).queueInLoop
        (.onCompletion pendingAllocation.call pendingAllocation.sessionId session)
    else if 0 < pendingAllocation.attemptsRemaining then
      { taken with
        pendingAllocationsRetryQueue := taken.pendingAllocationsRetryQueue ++
          [{ pendingAllocation with
            attemptsRemaining := pendingAllocation.attemptsRemaining - 1 }] }
    else
      taken.queueInLoop
        (.onError pendingAllocation.call "Failed to allocate slot id: All attempts have failed")

def retryFailedDeallocs (manager : SessionManager) (queueFull : String → Bool) : SessionManager :=
  manager.deferredDeallocQueue.foldl (fun manager deferred =>
      manager.sendDeallocRequest config deferred.sessionId deferred.slotId
        (queueFull deferred.sessionId))
    { manager with deferredDeallocQueue := [] }

end SessionManager

/-- A call, with what is left to chance in it. What requests do to their sessions, and to the locks
on slots, comes between. -/
inductive Call
  | createSession (creation : Creation) (chance : EvictionChance) (attempt : Attempt)
  | handleMemoryResult (result : ManageMemoryResult)
  | retryFailedAllocations (chance : EvictionChance) (attempts : Nat → Option Attempt)
  | retryFailedDeallocs (queueFull : String → Bool)
  | closeSession (sessionId : String) (queueFull : Bool)
  | modify (sessionId : String) (change : Change)
  | lockSlot (slotId : UInt32)
  | unlockSlot (slotId : UInt32)

def step (config : SlotConfig) (manager : SessionManager) : Call → Option SessionManager
  | .createSession creation chance attempt => manager.createSession config creation chance attempt
  | .handleMemoryResult result => some (manager.handleMemoryResult result)
  | .retryFailedAllocations chance attempts => manager.retryFailedAllocations config chance attempts
  | .retryFailedDeallocs queueFull => some (manager.retryFailedDeallocs config queueFull)
  | .closeSession sessionId queueFull => some (manager.closeSession config sessionId queueFull).1
  | .modify sessionId change =>
    some { manager with sessions := manager.sessions.modify sessionId change.apply }
  | .lockSlot slotId => some { manager with lockedSlots := insert slotId manager.lockedSlots }
  | .unlockSlot slotId => some { manager with lockedSlots := manager.lockedSlots.erase slotId }

/-- Too many sessions, no room for the task, or the task is on its way. -/
theorem SessionManager.sendAsyncAllocationRequest_cases {config : SlotConfig}
    {before after : SessionManager} {pendingAllocation : PendingAllocation} {attempt : Attempt}
    (sent : before.sendAsyncAllocationRequest config pendingAllocation attempt = some after) :
    (config.maxSessionsCount ≤ before.sessions.entries.length ∧
      after = before.retryOrFail pendingAllocation
        "Failed to allocate: max session count reached after all attempts") ∨
    (before.sessions.entries.length < config.maxSessionsCount ∧
      before.pendingAllocationsMap.lookup attempt.taskId = none ∧
      ((attempt.queueFull = true ∧ after = retryOrFail
          { before with allocateTasks := before.allocateTasks ++ [pendingAllocation.call] }
          pendingAllocation "Failed to allocate: IPC queue full after all attempts") ∨
        (attempt.queueFull = false ∧ after =
          { before with
            pendingAllocationsMap :=
              before.pendingAllocationsMap.insert attempt.taskId pendingAllocation
            allocateTasks := before.allocateTasks ++ [pendingAllocation.call]
            memoryRequestQueue := before.memoryRequestQueue ++
              [.allocate attempt.taskId pendingAllocation.slotIdToCopyFrom] }))) := by
  rw [sendAsyncAllocationRequest] at sent
  split at sent
  · rename_i full
    exact .inl ⟨full, (Option.some.inj sent).symm⟩
  · rename_i room
    split at sent
    · cases sent
    · rename_i unique
      have unique := Option.not_isSome_iff_eq_none.mp unique
      refine .inr ⟨Nat.not_le.mp room, unique, ?_⟩
      cases queue : attempt.queueFull with
      | true =>
        simp only [queue, ↓reduceIte, Table.take, AList.lookup_insert, Table.erase_insert,
          Table.erase_absent unique] at sent
        exact .inl ⟨rfl, (Option.some.inj sent).symm⟩
      | false =>
        simp only [queue, Bool.false_eq_true, ↓reduceIte] at sent
        exact .inr ⟨rfl, (Option.some.inj sent).symm⟩

/-- An eviction is a number of closes. -/
theorem SessionManager.evictOldSessions_keeps {config : SlotConfig} {manager : SessionManager}
    (holds : SessionManager → Prop) (kept : ∀ manager sessionId queueFull, holds manager →
      holds (manager.closeSession config sessionId queueFull).1)
    (held : holds manager) (chance : EvictionChance) :
    holds (manager.evictOldSessions config chance) := by
  rw [evictOldSessions]
  split
  · exact held
  · refine List.foldlRecOn _ _ held fun middle held sessionId _ => ?_
    rw [evictSession]
    split
    · exact held
    · split
      · exact kept middle sessionId _ held
      · exact held

theorem SessionManager.sessions_sendDeallocRequest (config : SlotConfig)
    (manager : SessionManager) (sessionId : String) (slotId : UInt32) (queueFull : Bool) :
    (manager.sendDeallocRequest config sessionId slotId queueFull).sessions = manager.sessions := by
  rw [sendDeallocRequest]
  split
  · rfl
  · split <;> rfl

theorem SessionManager.sessions_retryFailedDeallocs (config : SlotConfig)
    (manager : SessionManager) (queueFull : String → Bool) :
    (manager.retryFailedDeallocs config queueFull).sessions = manager.sessions :=
  List.foldlRecOn _ _ (motive := fun after : SessionManager => after.sessions = manager.sessions)
    rfl fun middle same _ _ => (middle.sessions_sendDeallocRequest config _ _ _).trans same

/-- A session that is closed is in the map no more. -/
theorem SessionManager.sessions_closeSession (config : SlotConfig) (manager : SessionManager)
    (sessionId : String) (queueFull : Bool) :
    (manager.closeSession config sessionId queueFull).1.sessions =
      manager.sessions.erase sessionId := by
  rw [closeSession, Table.take]
  cases found : manager.sessions.lookup sessionId with
  | none => exact (Table.erase_absent found).symm
  | some session =>
    simp only [finalizeSessionClose]
    split
    · exact sessions_sendDeallocRequest ..
    · rfl

/-- What closing sessions leaves as it is. -/
structure Undisturbed (before after : SessionManager) : Prop where
  requested : after.pendingAllocationsMap = before.pendingAllocationsMap
  retrying : after.pendingAllocationsRetryQueue = before.pendingAllocationsRetryQueue
  calls : after.calls = before.calls
  callbacks : after.callbacks = before.callbacks
  tasks : after.allocateTasks = before.allocateTasks

namespace Undisturbed

variable {config : SlotConfig} {before middle after : SessionManager}

theorem refl (manager : SessionManager) : Undisturbed manager manager :=
  ⟨rfl, rfl, rfl, rfl, rfl⟩

theorem trans (first : Undisturbed before middle) (second : Undisturbed middle after) :
    Undisturbed before after where
  requested := second.requested.trans first.requested
  retrying := second.retrying.trans first.retrying
  calls := second.calls.trans first.calls
  callbacks := second.callbacks.trans first.callbacks
  tasks := second.tasks.trans first.tasks

section

variable (manager : SessionManager)
include manager

theorem insertSession (sessionId : String) (session : Session) :
    Undisturbed manager (manager.insertSession sessionId session) :=
  ⟨rfl, rfl, rfl, rfl, rfl⟩

theorem sendDeallocRequest (sessionId : String) (slotId : UInt32) (queueFull : Bool) :
    Undisturbed manager (manager.sendDeallocRequest config sessionId slotId queueFull) := by
  rw [SessionManager.sendDeallocRequest]
  split
  · exact .refl manager
  · split <;> exact ⟨rfl, rfl, rfl, rfl, rfl⟩

theorem closeSession (sessionId : String) (queueFull : Bool) :
    Undisturbed manager (manager.closeSession config sessionId queueFull).1 := by
  rw [SessionManager.closeSession]
  split
  · exact .refl manager
  · rename_i session sessions _
    have taken : Undisturbed manager { manager with sessions } := ⟨rfl, rfl, rfl, rfl, rfl⟩
    simp only [SessionManager.finalizeSessionClose]
    split
    · exact taken.trans (sendDeallocRequest _ sessionId session.slotId queueFull)
    · exact taken

theorem evictOldSessions (chance : EvictionChance) :
    Undisturbed manager (manager.evictOldSessions config chance) :=
  SessionManager.evictOldSessions_keeps (Undisturbed manager)
    (fun middle sessionId queueFull kept => kept.trans (closeSession middle sessionId queueFull))
    (.refl manager) chance

theorem retryFailedDeallocs (queueFull : String → Bool) :
    Undisturbed manager (manager.retryFailedDeallocs config queueFull) := by
  have drained : Undisturbed manager { manager with deferredDeallocQueue := [] } :=
    ⟨rfl, rfl, rfl, rfl, rfl⟩
  exact List.foldlRecOn _ _ drained
    fun middle kept _ _ => kept.trans (sendDeallocRequest middle _ _ _)

end

end Undisturbed

end InferenceServer.Slots
