import InferenceServer.Slots.Allocations

/-! Who has a slot. The session manager runs against a memory manager that grants slots and takes
them back. A slot that is granted waits in the result queue, belongs to one session, or is to be
given back by one request, and none is in two places. -/
namespace InferenceServer.Slots
open Machine
open Sessions (Session Change invalidSlotId)

namespace ManageMemoryTask

/-- The id of a task that asks for a slot. -/
def allocated : ManageMemoryTask → Option UInt32
  | allocate taskId _ => some taskId
  | deallocate _ => none

/-- The slot that a task gives back. -/
def deallocated : ManageMemoryTask → Option UInt32
  | allocate _ _ => none
  | deallocate slotId => some slotId

end ManageMemoryTask

/-- The slot that a result grants. -/
def ManageMemoryResult.granted (result : ManageMemoryResult) : Option UInt32 :=
  if result.status = .success then some result.slotId else none

/-- The two managers with the queues between them: the ALLOCATE tasks that the memory manager has
taken and not answered, its results, and the slots that it has granted. -/
structure Ownership where
  manager : SessionManager := {}
  received : List UInt32 := []
  memoryResultQueue : List ManageMemoryResult := []
  granted : Finset UInt32 := ∅

inductive OwnershipEvent
  | call (call : Call)
  | popResult
  | getRequest
  | replyAllocateSuccess (taskId slotId : UInt32)
  | replyAllocateFailure (taskId : UInt32)

namespace SessionManager

variable (manager : SessionManager)

/-- How many live sessions hold a slot. -/
def live (slotId : UInt32) : Nat :=
  manager.sessions.total fun _ session => hits slotId (some session.slotId)

/-- How many deallocations of a slot are deferred or sent. -/
def outstanding (slotId : UInt32) : Nat :=
  tally (fun deferred => some deferred.slotId) manager.deferredDeallocQueue slotId +
    tally ManageMemoryTask.deallocated manager.memoryRequestQueue slotId

/-- How often a session id is in use: by a session, or by one that is to be. -/
def uses (sessionId : String) : Nat :=
  manager.sessions.total (fun other _ => hits sessionId (some other)) +
    manager.pendingAllocationsMap.total (fun _ pendingAllocation =>
      hits sessionId (some pendingAllocation.sessionId)) +
    tally (fun pendingAllocation => some pendingAllocation.sessionId)
      manager.pendingAllocationsRetryQueue sessionId

end SessionManager

/-- Sessions come from allocations, under new ids, and results from the queue. -/
def Call.Expected (manager : SessionManager) : Call → Prop
  | createSession creation _ _ => creation.slotId = none ∧ manager.uses creation.sessionId = 0
  | handleMemoryResult _ => False
  | _ => True

instance (manager : SessionManager) : DecidablePred (Call.Expected manager)
  | .createSession creation _ _ =>
    inferInstanceAs (Decidable (creation.slotId = none ∧ manager.uses creation.sessionId = 0))
  | .handleMemoryResult _ => inferInstanceAs (Decidable False)
  | .retryFailedAllocations .. => inferInstanceAs (Decidable True)
  | .retryFailedDeallocs _ => inferInstanceAs (Decidable True)
  | .closeSession .. => inferInstanceAs (Decidable True)
  | .modify .. => inferInstanceAs (Decidable True)
  | .lockSlot _ => inferInstanceAs (Decidable True)
  | .unlockSlot _ => inferInstanceAs (Decidable True)

namespace Ownership

/-- How many results that grant a slot wait to be handled. -/
def waiting (ownership : Ownership) (slotId : UInt32) : Nat :=
  tally ManageMemoryResult.granted ownership.memoryResultQueue slotId

/-- An ALLOCATE task is answered once, and a slot granted that is not granted already. A grant ends
when its DEALLOCATE task is received. -/
def step (config : SlotConfig) (ownership : Ownership) : OwnershipEvent → Option Ownership
  | .call call =>
    if call.Expected ownership.manager then
      (Slots.step config ownership.manager call).map fun manager => { ownership with manager }
    else none
  | .popResult =>
    match ownership.memoryResultQueue with
    | [] => none
    | result :: rest =>
      some { ownership with
        manager := ownership.manager.handleMemoryResult result
        memoryResultQueue := rest }
  | .getRequest =>
    match ownership.manager.memoryRequestQueue with
    | [] => none
    | task :: rest =>
      let popped :=
        { ownership with manager := { ownership.manager with memoryRequestQueue := rest } }
      match task with
      | .allocate taskId _ => some { popped with received := popped.received ++ [taskId] }
      | .deallocate slotId => some { popped with granted := popped.granted.erase slotId }
  | .replyAllocateSuccess taskId slotId =>
    if taskId ∈ ownership.received ∧ slotId ∉ ownership.granted ∧
        slotId ≠ invalidSlotId then
      some { ownership with
        received := ownership.received.erase taskId
        granted := insert slotId ownership.granted
        memoryResultQueue := ownership.memoryResultQueue ++
          [{ taskId, status := .success, slotId }] }
    else none
  | .replyAllocateFailure taskId =>
    if taskId ∈ ownership.received then
      some { ownership with
        received := ownership.received.erase taskId
        memoryResultQueue := ownership.memoryResultQueue ++
          [{ taskId, status := .failure, slotId := invalidSlotId }] }
    else none

end Ownership

/-- How many entries of `pendingAllocationsMap` a task id has. -/
def SessionManager.pending (manager : SessionManager) (taskId : UInt32) : Nat :=
  manager.pendingAllocationsMap.total fun other _ => hits taskId (some other)

/-- How many ALLOCATE tasks of an id are in the request queue. -/
def SessionManager.sent (manager : SessionManager) (taskId : UInt32) : Nat :=
  tally ManageMemoryTask.allocated manager.memoryRequestQueue taskId

theorem SessionManager.pending_eq (manager : SessionManager) (taskId : UInt32) :
    manager.pending taskId =
      (manager.pendingAllocationsMap.lookup taskId).elim 0 fun _ => 1 := by
  rw [pending, Table.total_single fun other _ _ different => ?_, hits_self]
  rw [hits, if_neg fun same => different (Option.some.inj same)]

/-- Every pending allocation has its task on the way, its session id is used nowhere else, and every
slot is in one place if it is granted. Beside what the session manager has, tasks are `answered` or
about to be, and results are `waiting`; some records are taken out of the retry queue. -/
structure Owned (manager : SessionManager) (drained : List PendingAllocation)
    (answered waiting granted : UInt32 → Nat) : Prop where
  tasks : ∀ taskId, manager.sent taskId + answered taskId = manager.pending taskId
  uses : ∀ sessionId, manager.uses sessionId +
    tally (fun pendingAllocation => some pendingAllocation.sessionId) drained sessionId ≤ 1
  slots : ∀ slotId, slotId ≠ invalidSlotId →
    manager.live slotId + manager.outstanding slotId + waiting slotId = granted slotId
  valid : manager.live invalidSlotId = 0

namespace Owned

variable {config : SlotConfig} {before after manager : SessionManager}
variable {pendingAllocation : PendingAllocation} {drained : List PendingAllocation}
variable {answered waiting granted : UInt32 → Nat}
variable {chance : EvictionChance} {attempts : Nat → Option Attempt}

section

variable (available : config.memoryQueues = true)
include available

/-- A slot that is in nobody's hands any more is to be given back. -/
theorem sendDeallocRequest {slotId : UInt32} (owned : Owned manager drained answered
      (fun other => waiting other + hits other (some slotId)) granted) (sessionId : String)
    (queueFull : Bool) :
    Owned (manager.sendDeallocRequest config sessionId slotId queueFull) drained answered waiting
      granted := by
  simp only [SessionManager.sendDeallocRequest, available, Bool.not_true, Bool.false_eq_true,
    ↓reduceIte]
  split
  · refine ⟨owned.tasks, owned.uses, fun other valid => ?_, owned.valid⟩
    have slots := owned.slots other valid
    simp only [SessionManager.live, SessionManager.outstanding, tally_append, tally_single]
      at slots ⊢
    omega
  · refine ⟨fun taskId => ?_, owned.uses, fun other valid => ?_, owned.valid⟩
    · have tasks := owned.tasks taskId
      simp only [SessionManager.sent, SessionManager.pending, tally_append, tally_single,
        ManageMemoryTask.allocated, hits_none] at tasks ⊢
      exact tasks
    · have slots := owned.slots other valid
      simp only [SessionManager.live, SessionManager.outstanding, tally_append, tally_single,
        ManageMemoryTask.deallocated] at slots ⊢
      omega

section

variable (owned : Owned manager drained answered waiting granted)
include owned

theorem closeSession (sessionId : String) (queueFull : Bool) :
    Owned (manager.closeSession config sessionId queueFull).1 drained answered waiting granted := by
  rw [SessionManager.closeSession, Table.take]
  cases found : manager.sessions.lookup sessionId with
  | none => exact owned
  | some session =>
    have held : ∀ slotId, manager.live slotId =
        SessionManager.live { manager with sessions := manager.sessions.erase sessionId } slotId +
          hits slotId (some session.slotId) := fun _ => Table.total_erase _ found
    have valid := owned.valid
    rw [held] at valid
    have hasSlot : session.slotId ≠ invalidSlotId := by
      intro invalid
      rw [invalid, hits_self] at valid
      omega
    simp only [SessionManager.finalizeSessionClose, ne_eq, hasSlot, not_false_eq_true, ↓reduceIte]
    have taken : Owned { manager with sessions := manager.sessions.erase sessionId } drained
        answered (fun slotId => waiting slotId + hits slotId (some session.slotId)) granted := by
      refine ⟨owned.tasks, fun other => ?_, fun slotId valid => ?_, ?_⟩
      · have uses := owned.uses other
        simp only [SessionManager.uses, Table.total_erase _ found] at uses ⊢
        omega
      · have slots := owned.slots slotId valid
        rw [held] at slots
        simp only [SessionManager.outstanding] at slots ⊢
        omega
      · omega
    exact taken.sendDeallocRequest available sessionId queueFull

theorem evictOldSessions (chance : EvictionChance) :
    Owned (manager.evictOldSessions config chance) drained answered waiting granted :=
  SessionManager.evictOldSessions_keeps (Owned · drained answered waiting granted)
    (fun _ sessionId queueFull owned => owned.closeSession available sessionId queueFull) owned
    chance

/-- The slots in the deferred queue are in nobody's hands while the loop is on its way. -/
theorem retryFailedDeallocs (queueFull : String → Bool) :
    Owned (manager.retryFailedDeallocs config queueFull) drained answered waiting granted := by
  have taken : Owned { manager with deferredDeallocQueue := [] } drained answered
      (fun slotId => waiting slotId +
        tally (fun deferred => some deferred.slotId) manager.deferredDeallocQueue slotId)
      granted := by
    refine ⟨owned.tasks, owned.uses, fun slotId valid => ?_, owned.valid⟩
    have slots := owned.slots slotId valid
    simp only [SessionManager.live, SessionManager.outstanding, tally_nil] at slots ⊢
    omega
  rw [SessionManager.retryFailedDeallocs]
  generalize manager.deferredDeallocQueue = deferred at taken
  generalize ({ manager with deferredDeallocQueue := [] } : SessionManager) = middle at taken
  clear owned
  induction deferred generalizing middle with
  | nil => exact taken
  | cons first rest ih =>
    refine ih _ (sendDeallocRequest available ⟨taken.tasks, taken.uses, fun slotId valid => ?_,
      taken.valid⟩ _ _)
    have slots := taken.slots slotId valid
    rw [tally_cons] at slots
    omega

end

end

section

variable (owned : Owned manager (pendingAllocation :: drained) answered waiting granted)
include owned

/-- A record goes back to the retry queue for its session. -/
theorem requeue {requeued : PendingAllocation}
    (sameSession : requeued.sessionId = pendingAllocation.sessionId) :
    Owned { manager with
      pendingAllocationsRetryQueue := manager.pendingAllocationsRetryQueue ++ [requeued] }
      drained answered waiting granted := by
  refine ⟨owned.tasks, fun sessionId => ?_, owned.slots, owned.valid⟩
  have uses := owned.uses sessionId
  simp only [SessionManager.uses, tally_append, tally_cons, tally_nil, sameSession] at uses ⊢
  omega

/-- A record is gone, and with it the id of its session. -/
theorem drop : Owned manager drained answered waiting granted := by
  refine ⟨owned.tasks, fun sessionId => ?_, owned.slots, owned.valid⟩
  have uses := owned.uses sessionId
  rw [tally_cons] at uses
  omega

theorem retryOrFail (errorMessage : String) :
    Owned (manager.retryOrFail pendingAllocation errorMessage) drained answered waiting
      granted := by
  rw [SessionManager.retryOrFail]
  split
  · obtain ⟨tasks, uses, slots, valid⟩ := owned.drop
    exact ⟨tasks, uses, slots, valid⟩
  · exact owned.requeue rfl

/-- An ALLOCATE task is sent for a record. -/
theorem request {taskId : UInt32} (unique : manager.pendingAllocationsMap.lookup taskId = none) :
    Owned { manager with
      pendingAllocationsMap := manager.pendingAllocationsMap.insert taskId pendingAllocation
      allocateTasks := manager.allocateTasks ++ [pendingAllocation.call]
      memoryRequestQueue := manager.memoryRequestQueue ++
        [.allocate taskId pendingAllocation.slotIdToCopyFrom] }
      drained answered waiting granted := by
  refine ⟨fun other => ?_, fun sessionId => ?_, fun slotId valid => ?_, owned.valid⟩
  · have tasks := owned.tasks other
    simp only [SessionManager.sent, SessionManager.pending, tally_append, tally_single,
      ManageMemoryTask.allocated, Table.total_insert_new _ unique] at tasks ⊢
    omega
  · have uses := owned.uses sessionId
    simp only [SessionManager.uses, tally_cons, Table.total_insert_new _ unique] at uses ⊢
    omega
  · have slots := owned.slots slotId valid
    simp only [SessionManager.live, SessionManager.outstanding, tally_append, tally_single,
      ManageMemoryTask.deallocated, hits_none] at slots ⊢
    exact slots

theorem sendAsyncAllocationRequest {attempt : Attempt}
    (sent : manager.sendAsyncAllocationRequest config pendingAllocation attempt = some after) :
    Owned after drained answered waiting granted := by
  obtain ⟨-, rfl⟩ | ⟨-, unique, ⟨-, rfl⟩ | ⟨-, rfl⟩⟩ :=
    SessionManager.sendAsyncAllocationRequest_cases sent
  · exact owned.retryOrFail _
  · have made : Owned { manager with
        allocateTasks := manager.allocateTasks ++ [pendingAllocation.call] }
        (pendingAllocation :: drained) answered waiting granted :=
      ⟨owned.tasks, owned.uses, owned.slots, owned.valid⟩
    exact made.retryOrFail _
  · exact owned.request unique

end

theorem createSession (available : config.memoryQueues = true)
    (owned : Owned manager [] answered waiting granted) {creation : Creation} {attempt : Attempt}
    (allocated : creation.slotId = none) (fresh : manager.uses creation.sessionId = 0)
    (created : manager.createSession config creation chance attempt = some after) :
    Owned after [] answered waiting granted := by
  rw [SessionManager.createSession] at created
  simp only [allocated, available, Bool.not_true, Bool.false_eq_true, ↓reduceIte] at created
  generalize recorded : PendingAllocation.mk _ _ _ _ _ = record at created
  have opened : Owned manager [record] answered waiting granted := by
    refine ⟨owned.tasks, fun other => ?_, owned.slots, owned.valid⟩
    have uses := owned.uses other
    rw [tally_single, ← recorded, hits]
    split
    · rename_i same
      have same : creation.sessionId = other := Option.some.inj same
      rw [← same, fresh]
    · exact uses
  obtain ⟨tasks, uses, slots, valid⟩ := opened.evictOldSessions available chance
  have called : Owned { manager.evictOldSessions config chance with
    calls := (manager.evictOldSessions config chance).calls + 1 } [record] answered waiting
      granted := ⟨tasks, uses, slots, valid⟩
  exact called.sendAsyncAllocationRequest created

/-- The loop over what was in the retry queue. -/
theorem retryLoop (owned : Owned manager drained answered waiting granted)
    (retried : drained.foldlM (SessionManager.retryFailedAllocation config attempts) manager =
      some after) : Owned after [] answered waiting granted := by
  induction drained generalizing manager with
  | nil =>
    cases retried
    exact owned
  | cons pendingAllocation rest ih =>
    obtain ⟨middle, first, others⟩ := Option.bind_eq_some_iff.mp retried
    refine ih ?_ others
    rw [SessionManager.retryFailedAllocation] at first
    split at first
    · exact owned.sendAsyncAllocationRequest first
    · cases first
      exact owned.requeue rfl

theorem retryFailedAllocations (available : config.memoryQueues = true)
    (owned : Owned manager [] answered waiting granted)
    (retried : manager.retryFailedAllocations config chance attempts = some after) :
    Owned after [] answered waiting granted := by
  rw [SessionManager.retryFailedAllocations] at retried
  split at retried
  · cases retried
    exact owned
  · have taken : Owned { manager with pendingAllocationsRetryQueue := [] }
        manager.pendingAllocationsRetryQueue answered waiting granted := by
      refine ⟨owned.tasks, fun sessionId => ?_, owned.slots, owned.valid⟩
      have uses := owned.uses sessionId
      simp only [SessionManager.uses, tally_nil] at uses ⊢
      omega
    exact (taken.evictOldSessions available chance).retryLoop retried

/-- A result that waits is handled. -/
theorem handleMemoryResult {result : ManageMemoryResult}
    (owned : Owned manager [] (fun taskId => answered taskId + hits taskId (some result.taskId))
      (fun slotId => waiting slotId + hits slotId result.granted) granted) :
    Owned (manager.handleMemoryResult result) [] answered waiting granted := by
  rw [SessionManager.handleMemoryResult]
  cases found : manager.pendingAllocationsMap.lookup result.taskId with
  | none =>
    -- the task of the result is among those that are pending
    have tasks := owned.tasks result.taskId
    rw [SessionManager.pending_eq, found, Option.elim_none] at tasks
    simp only [hits_self] at tasks
    omega
  | some pendingAllocation =>
    simp only [Table.take, found]
    have tasks : ∀ taskId, manager.sent taskId + answered taskId =
        SessionManager.pending { manager with
          pendingAllocationsMap := manager.pendingAllocationsMap.erase result.taskId } taskId := by
      intro taskId
      have tasks := owned.tasks taskId
      simp only [SessionManager.pending, Table.total_erase _ found] at tasks ⊢
      omega
    have uses : ∀ sessionId, SessionManager.uses { manager with
          pendingAllocationsMap := manager.pendingAllocationsMap.erase result.taskId } sessionId +
        hits sessionId (some pendingAllocation.sessionId) ≤ 1 := by
      intro sessionId
      have uses := owned.uses sessionId
      simp only [SessionManager.uses, Table.total_erase _ found, tally_nil] at uses ⊢
      omega
    split
    · rename_i success
      have slot : result.granted = some result.slotId := by
        rw [ManageMemoryResult.granted, if_pos success.1]
      have new : manager.sessions.lookup pendingAllocation.sessionId = none := by
        by_contra taken
        obtain ⟨session, taken⟩ := Option.ne_none_iff_exists'.mp taken
        have uses := uses pendingAllocation.sessionId
        simp only [SessionManager.uses, Table.total_erase _ taken, hits_self] at uses
        omega
      refine ⟨tasks, fun sessionId => ?_, fun slotId valid => ?_, ?_⟩
      · have uses := uses sessionId
        simp only [SessionManager.uses, SessionManager.queueInLoop, SessionManager.insertSession,
          Table.total_insert_new _ new, tally_nil] at uses ⊢
        omega
      · have slots := owned.slots slotId valid
        simp only [slot, SessionManager.live, SessionManager.outstanding,
          SessionManager.queueInLoop, SessionManager.insertSession,
          Table.total_insert_new _ new] at slots ⊢
        omega
      · have valid := owned.valid
        simp only [SessionManager.live, SessionManager.queueInLoop, SessionManager.insertSession,
          Table.total_insert_new _ new] at valid ⊢
        rw [valid, hits, if_neg fun same => success.2 (Option.some.inj same)]
    · rename_i failure
      have nothing : ∀ slotId, slotId ≠ invalidSlotId → hits slotId result.granted = 0 := by
        intro slotId valid
        rw [ManageMemoryResult.granted, hits, if_neg]
        split
        · rename_i success
          intro same
          exact failure ⟨success, Option.some.inj same ▸ valid⟩
        · rintro ⟨⟩
      have taken : Owned { manager with
          pendingAllocationsMap := manager.pendingAllocationsMap.erase result.taskId }
          [pendingAllocation] answered waiting granted := by
        refine ⟨tasks, fun sessionId => ?_, fun slotId valid => ?_, owned.valid⟩
        · rw [tally_single]
          exact uses sessionId
        · have slots := owned.slots slotId valid
          rw [nothing slotId valid] at slots
          exact slots
      split
      · exact taken.requeue rfl
      · obtain ⟨tasks, uses, slots, valid⟩ := taken.drop
        exact ⟨tasks, uses, slots, valid⟩

theorem modify (owned : Owned manager drained answered waiting granted) (sessionId : String)
    (change : Change) :
    Owned { manager with sessions := manager.sessions.modify sessionId change.apply } drained
      answered waiting granted := by
  have live : ∀ slotId, SessionManager.live
      { manager with sessions := manager.sessions.modify sessionId change.apply } slotId =
        manager.live slotId := by
    intro slotId
    refine Table.total_modify (fun _ session => ?_) sessionId manager.sessions
    rw [change.slotId_apply]
  refine ⟨owned.tasks, fun other => ?_, fun slotId valid => ?_, (live _).trans owned.valid⟩
  · have uses := owned.uses other
    have same : (manager.sessions.modify sessionId change.apply).total
        (fun id _ => hits other (some id)) =
          manager.sessions.total fun id _ => hits other (some id) :=
      Table.total_modify (by intro _ _; rfl) sessionId manager.sessions
    simp only [SessionManager.uses, same] at uses ⊢
    exact uses
  · rw [live]
    exact owned.slots slotId valid

theorem step (available : config.memoryQueues = true)
    (owned : Owned before [] answered waiting granted) {call : Call}
    (expected : call.Expected before) (stepped : Slots.step config before call = some after) :
    Owned after [] answered waiting granted := by
  cases call with
  | createSession creation chance attempt =>
    exact owned.createSession available expected.1 expected.2 stepped
  | handleMemoryResult result => exact expected.elim
  | retryFailedAllocations chance attempts =>
    exact owned.retryFailedAllocations available stepped
  | retryFailedDeallocs queueFull =>
    cases stepped
    exact owned.retryFailedDeallocs available queueFull
  | closeSession sessionId queueFull =>
    cases stepped
    exact owned.closeSession available sessionId queueFull
  | modify sessionId change =>
    cases stepped
    exact owned.modify sessionId change
  | lockSlot | unlockSlot =>
    cases stepped
    exact ⟨owned.tasks, owned.uses, owned.slots, owned.valid⟩

end Owned

namespace Ownership

/-- How many ALLOCATE tasks of an id the memory manager has, or has answered with a result that
waits. -/
def answered (ownership : Ownership) (taskId : UInt32) : Nat :=
  ownership.received.count taskId +
    tally (fun result => some result.taskId) ownership.memoryResultQueue taskId

/-- One for a slot that is granted. -/
def isGranted (ownership : Ownership) (slotId : UInt32) : Nat :=
  if slotId ∈ ownership.granted then 1 else 0

/-- The session manager's share, and that what is granted can be held. -/
structure Sound (ownership : Ownership) : Prop where
  owned : Owned ownership.manager [] ownership.answered ownership.waiting ownership.isGranted
  valid : invalidSlotId ∉ ownership.granted

namespace Sound

variable {config : SlotConfig} {before after ownership : Ownership}

section

variable (sound : Sound before)
include sound

theorem popResult (popped : before.step config .popResult = some after) : Sound after := by
  rw [Ownership.step] at popped
  cases queue : before.memoryResultQueue with
  | nil => simp only [queue, reduceCtorEq] at popped
  | cons result rest =>
    simp only [queue, Option.some.injEq] at popped
    subst popped
    have waits : Owned before.manager []
        (fun taskId => answered { before with memoryResultQueue := rest } taskId +
          hits taskId (some result.taskId))
        (fun slotId => waiting { before with memoryResultQueue := rest } slotId +
          hits slotId result.granted) before.isGranted := by
      refine ⟨fun taskId => ?_, sound.owned.uses, fun slotId valid => ?_, sound.owned.valid⟩
      · have tasks := sound.owned.tasks taskId
        simp only [answered, queue, tally_cons] at tasks ⊢
        omega
      · have slots := sound.owned.slots slotId valid
        simp only [waiting, queue, tally_cons] at slots ⊢
        omega
    exact ⟨waits.handleMemoryResult, sound.valid⟩

theorem getRequest (popped : before.step config .getRequest = some after) : Sound after := by
  rw [Ownership.step] at popped
  cases queue : before.manager.memoryRequestQueue with
  | nil => simp only [queue, reduceCtorEq] at popped
  | cons task rest =>
    cases task with
    | allocate taskId slotIdToCopyFrom =>
      simp only [queue, Option.some.injEq] at popped
      subst popped
      refine ⟨⟨fun other => ?_, sound.owned.uses, fun slotId valid => ?_, sound.owned.valid⟩,
        sound.valid⟩
      · have tasks := sound.owned.tasks other
        simp only [SessionManager.sent, SessionManager.pending, answered, queue, tally_cons,
          ManageMemoryTask.allocated, List.count_append, count_single] at tasks ⊢
        omega
      · have slots := sound.owned.slots slotId valid
        simp only [SessionManager.live, SessionManager.outstanding, queue, tally_cons,
          ManageMemoryTask.deallocated, hits_none, Nat.zero_add] at slots ⊢
        exact slots
    | deallocate slotId =>
      simp only [queue, Option.some.injEq] at popped
      subst popped
      refine ⟨⟨fun other => ?_, sound.owned.uses, fun other valid => ?_, sound.owned.valid⟩,
        fun member => sound.valid (Finset.mem_of_mem_erase member)⟩
      · have tasks := sound.owned.tasks other
        simp only [SessionManager.sent, SessionManager.pending, answered, queue, tally_cons,
          ManageMemoryTask.allocated, hits_none, Nat.zero_add] at tasks ⊢
        exact tasks
      · have slots := sound.owned.slots other valid
        simp only [SessionManager.live, SessionManager.outstanding, waiting, isGranted, queue,
          tally_cons, ManageMemoryTask.deallocated, Finset.mem_erase] at slots ⊢
        by_cases same : other = slotId
        · rw [same, hits_self] at slots
          rw [same, if_neg fun member => member.1 rfl]
          split at slots <;> omega
        · rw [hits, if_neg fun equal => same (Option.some.inj equal).symm] at slots
          simp [same]
          omega

theorem replyAllocateSuccess {taskId slotId : UInt32}
    (replied : before.step config (.replyAllocateSuccess taskId slotId) = some after) :
    Sound after := by
  rw [Ownership.step] at replied
  split at replied
  · rename_i free
    cases replied
    have erased := count_erase_of_mem free.1
    refine ⟨⟨fun other => ?_, sound.owned.uses, fun other valid => ?_, sound.owned.valid⟩,
      ?_⟩
    · have tasks := sound.owned.tasks other
      rw [answered, erased] at tasks
      simp [answered]
      omega
    · have slots := sound.owned.slots other valid
      simp only [waiting, isGranted, tally_append, tally_single, ManageMemoryResult.granted,
        ↓reduceIte, Finset.mem_insert] at slots ⊢
      by_cases same : other = slotId
      · rw [same, hits_self, if_pos (.inl rfl)]
        rw [same, if_neg free.2.1] at slots
        omega
      · rw [hits, if_neg fun equal => same (Option.some.inj equal).symm]
        simp [same]
        omega
    · intro member
      obtain same | earlier := Finset.mem_insert.mp member
      · exact free.2.2 same.symm
      · exact sound.valid earlier
  · cases replied

theorem replyAllocateFailure {taskId : UInt32}
    (replied : before.step config (.replyAllocateFailure taskId) = some after) : Sound after := by
  rw [Ownership.step] at replied
  split at replied
  · rename_i waits
    cases replied
    have erased := count_erase_of_mem waits
    refine ⟨⟨fun other => ?_, sound.owned.uses, fun other valid => ?_, sound.owned.valid⟩,
      sound.valid⟩
    · have tasks := sound.owned.tasks other
      rw [answered, erased] at tasks
      simp [answered]
      omega
    · have slots := sound.owned.slots other valid
      simp only [waiting, tally_append, tally_single, ManageMemoryResult.granted, reduceCtorEq,
        ↓reduceIte, hits_none, Nat.add_zero] at slots ⊢
      exact slots
  · cases replied

end

theorem step (available : config.memoryQueues = true) (sound : Sound before)
    {event : OwnershipEvent} (stepped : before.step config event = some after) : Sound after := by
  cases event with
  | call call =>
    rw [Ownership.step] at stepped
    split at stepped
    · rename_i expected
      obtain ⟨manager, called, rfl⟩ := Option.map_eq_some_iff.mp stepped
      exact ⟨sound.owned.step available expected called, sound.valid⟩
    · cases stepped
  | popResult => exact sound.popResult stepped
  | getRequest => exact sound.getRequest stepped
  | replyAllocateSuccess taskId slotId => exact sound.replyAllocateSuccess stepped
  | replyAllocateFailure taskId => exact sound.replyAllocateFailure stepped

theorem initial : Sound {} :=
  ⟨⟨fun _ => rfl, fun _ => Nat.zero_le _, fun _ _ => rfl, rfl⟩, Finset.notMem_empty _⟩

end Sound

end Ownership

/-- No two sessions have one slot, and a slot that is granted waits in the result queue, is held by
one session or has one deallocation outstanding, and only one of these. -/
theorem slots_owned_once (config : SlotConfig) (available : config.memoryQueues = true)
    {ownership : Ownership}
    (reached : Reaches (Ownership.step config) (fun _ _ => True) {} ownership) :
    (∀ first second session other,
      ownership.manager.sessions.lookup first = some session →
      ownership.manager.sessions.lookup second = some other →
      session.slotId = other.slotId → first = second) ∧
    ∀ slotId ∈ ownership.granted, ownership.waiting slotId + ownership.manager.live slotId +
      ownership.manager.outstanding slotId = 1 := by
  have sound := reached.invariant Ownership.Sound .initial
    fun _ _ _ held _ stepped => held.step available stepped
  have valid := sound.owned.valid
  constructor
  · intro first second session other here there same
    by_contra different
    have rest : (ownership.manager.sessions.erase first).lookup second = some other := by
      rwa [AList.lookup_erase_ne (Ne.symm different)]
    have twice : 2 ≤ ownership.manager.live session.slotId := by
      rw [SessionManager.live, Table.total_erase _ here, Table.total_erase _ rest, same,
        hits_self]
      omega
    have slots := sound.owned.slots session.slotId
    rw [Ownership.isGranted] at slots
    have hasSlot : session.slotId ≠ invalidSlotId := by
      intro invalid
      rw [invalid, valid] at twice
      omega
    have slots := slots hasSlot
    split at slots <;> omega
  · intro slotId granted
    have slots := sound.owned.slots slotId (fun invalid => sound.valid (invalid ▸ granted))
    rw [Ownership.isGranted, if_pos granted] at slots
    omega

section Runs

def twoSlots : SlotConfig where
  maxSessionsCount := 2
  sessionEvictionRate := 100
  sessionEvictionCount := 1
  sessionAllocationMaxRetries := 1

/-- A slot that is granted. -/
def slotGranted : List OwnershipEvent :=
  [.call (.createSession { sessionId := "a" } {} { taskId := 1 }), .getRequest,
    .replyAllocateSuccess 1 5]

/-- A session is closed twice while the request queue is full, and another gets its slot later. -/
def slotReused : List OwnershipEvent :=
  slotGranted ++
    [.popResult,
      .call (.closeSession "a" true),
      .call (.closeSession "a" false),
      .call (.retryFailedDeallocs fun _ => false),
      .getRequest,
      .call (.createSession { sessionId := "b" } {} { taskId := 2 }), .getRequest,
      .replyAllocateSuccess 2 5, .popResult]

theorem slotReused_runs : (runWithin (Ownership.step twoSlots) (fun _ _ => True) {}
    slotReused).isSome = true := by
  decide +kernel

/-- What the run ends in. -/
def reused : Ownership :=
  (runWithin (Ownership.step twoSlots) (fun _ _ => True) {} slotReused).get slotReused_runs

theorem slots_owned_once_reused : (∀ first second session other,
      reused.manager.sessions.lookup first = some session →
      reused.manager.sessions.lookup second = some other →
      session.slotId = other.slotId → first = second) ∧
    ∀ slotId ∈ reused.granted, reused.waiting slotId + reused.manager.live slotId +
      reused.manager.outstanding slotId = 1 :=
  slots_owned_once twoSlots rfl (reaches_get slotReused_runs)

theorem slotGranted_runs : (runWithin (Ownership.step twoSlots) (fun _ _ => True) {}
    slotGranted).isSome = true := by
  decide +kernel

/-- A slot is granted before the session that it is for has it. -/
theorem not_slots_owned_once : ¬∀ (config : SlotConfig) (ownership : Ownership),
    config.memoryQueues = true →
    Reaches (Ownership.step config) (fun _ _ => True) {} ownership →
      (∀ first second session other,
        ownership.manager.sessions.lookup first = some session →
        ownership.manager.sessions.lookup second = some other →
        session.slotId = other.slotId → first = second) ∧
      ∀ slotId ∈ ownership.granted,
        ownership.manager.live slotId + ownership.manager.outstanding slotId = 1 := by
  intro law
  have member : (5 : UInt32) ∈ ((runWithin (Ownership.step twoSlots) (fun _ _ => True) {}
      slotGranted).get slotGranted_runs).granted := by
    decide +kernel
  have once := (law twoSlots _ rfl (reaches_get slotGranted_runs)).2 5 member
  exact absurd once (by decide +kernel)

end Runs

end InferenceServer.Slots
