import InferenceServer.Slots.Allocations

/-! Every `createSession` call is pending in one place or has been called back once. Two sums
say so, each with a share for every record of the call: how many records and callbacks there
are, and how many ALLOCATE tasks have been made and can still be. A record that moves takes its
shares along. -/
namespace InferenceServer.Slots
open Machine

namespace PendingAllocation

/-- The share of a record in the places that a call is in. -/
def place (call : Nat) (pendingAllocation : PendingAllocation) : Nat :=
  hits call (some pendingAllocation.call)

/-- How many more ALLOCATE tasks may follow the one that a record waits for. -/
def retries (call : Nat) (pendingAllocation : PendingAllocation) : Nat :=
  if pendingAllocation.call = call then pendingAllocation.attemptsRemaining.toUInt32.toNat else 0

end PendingAllocation

namespace Callback

def call : Callback → Nat
  | onCompletion call _ _ => call
  | onError call _ => call

/-- The call that is completed. -/
def completed : Callback → Option Nat
  | onCompletion call _ _ => some call
  | onError _ _ => none

/-- The call that has failed. -/
def failed : Callback → Option Nat
  | onCompletion _ _ _ => none
  | onError call _ => some call

theorem completed_or_failed (callback : Callback) (call : Nat) :
    hits call callback.completed + hits call callback.failed = hits call (some callback.call) := by
  cases callback with
  | onCompletion => exact Nat.add_zero _
  | onError => exact Nat.zero_add _

end Callback

namespace SessionManager

variable (manager : SessionManager)

/-- Entries of a call in `pendingAllocationsMap`. -/
def requested (call : Nat) : Nat :=
  manager.pendingAllocationsMap.total fun _ => PendingAllocation.place call

/-- Entries of a call in `pendingAllocationsRetryQueue`. -/
def retrying (call : Nat) : Nat :=
  (manager.pendingAllocationsRetryQueue.map (PendingAllocation.place call)).sum

/-- How often a call's `onCompletion` has been queued. -/
def completions (call : Nat) : Nat :=
  tally Callback.completed manager.callbacks call

/-- How often a call's `onError` has been queued. -/
def errors (call : Nat) : Nat :=
  tally Callback.failed manager.callbacks call

/-- How many ALLOCATE tasks have been made for a call. -/
def issued (call : Nat) : Nat :=
  manager.allocateTasks.count call

/-- How many more may be made after those that wait for a result. -/
def retriesRequested (call : Nat) : Nat :=
  manager.pendingAllocationsMap.total fun _ => PendingAllocation.retries call

end SessionManager

/-- How many ALLOCATE tasks may be made for records that are to be sent. -/
def attempts (waiting : List PendingAllocation) (call : Nat) : Nat :=
  (waiting.map fun pendingAllocation =>
    pendingAllocation.place call + pendingAllocation.retries call).sum

@[simp] theorem attempts_nil (call : Nat) : attempts [] call = 0 := rfl

@[simp] theorem attempts_cons (pendingAllocation : PendingAllocation)
    (rest : List PendingAllocation) (call : Nat) : attempts (pendingAllocation :: rest) call =
      pendingAllocation.place call + pendingAllocation.retries call + attempts rest call := by
  simp [attempts]

@[simp] theorem attempts_append (waiting more : List PendingAllocation) (call : Nat) :
    attempts (waiting ++ more) call = attempts waiting call + attempts more call := by
  simp [attempts]

/-- The sums come out right for every call that was made, and there is nothing of any other. Some
records have been taken out of the retry queue and are about to be dealt with. -/
structure Accounted (config : SlotConfig) (manager : SessionManager)
    (drained : List PendingAllocation) : Prop where
  placed : ∀ call, manager.requested call +
      (manager.retrying call + (drained.map (PendingAllocation.place call)).sum) +
      (manager.completions call + manager.errors call) = if call < manager.calls then 1 else 0
  within : ∀ call, manager.issued call + manager.retriesRequested call +
      (attempts manager.pendingAllocationsRetryQueue call + attempts drained call) ≤
    if call < manager.calls then config.sessionAllocationMaxRetries.toNat + 1 else 0

/-- An attempt that is left is counted down. -/
theorem toNat_sub_one {attempts : Int32} (left : attempts ≠ 0) :
    (attempts - 1).toUInt32.toNat + 1 = attempts.toUInt32.toNat := by
  have positive : attempts.toUInt32.toNat ≠ 0 := by
    intro zero
    have zero : attempts.toUInt32 = 0 := UInt32.toNat_inj.mp zero
    exact left (congrArg Int32.ofUInt32 zero)
  have one : (1 : Int32).toUInt32.toNat = 1 := rfl
  have atLeast : (1 : Int32).toUInt32 ≤ attempts.toUInt32 := by
    rw [UInt32.le_iff_toNat_le, one]
    omega
  rw [Int32.toUInt32_sub, UInt32.toNat_sub_of_le _ _ atLeast, one]
  omega

namespace PendingAllocation

theorem retries_sub_one {pendingAllocation : PendingAllocation}
    (left : pendingAllocation.attemptsRemaining ≠ 0) (call : Nat) :
    retries call { pendingAllocation with
          attemptsRemaining := pendingAllocation.attemptsRemaining - 1 } +
        pendingAllocation.place call = pendingAllocation.retries call := by
  have counted := toNat_sub_one left
  by_cases same : pendingAllocation.call = call
  · simp only [retries, same, ↓reduceIte, place, hits_self]
    exact counted
  · simp [retries, place, hits, same]

end PendingAllocation

namespace Accounted

variable {config : SlotConfig} {before after manager : SessionManager}
variable {pendingAllocation : PendingAllocation} {drained : List PendingAllocation}
variable {taskId : UInt32} {attempts : Nat → Option Attempt}

theorem undisturbed (accounted : Accounted config before drained)
    (same : Undisturbed before after) : Accounted config after drained where
  placed call := by
    simp only [SessionManager.requested, SessionManager.retrying, SessionManager.completions,
      SessionManager.errors, same.requested, same.retrying, same.callbacks, same.calls]
    exact accounted.placed call
  within call := by
    simp only [SessionManager.issued, SessionManager.retriesRequested, same.requested,
      same.retrying, same.tasks, same.calls]
    exact accounted.within call

section

variable (accounted : Accounted config manager (pendingAllocation :: drained))
include accounted

/-- A record goes back to the retry queue, with no more attempts than before. -/
theorem requeue {requeued : PendingAllocation} (sameCall : requeued.call = pendingAllocation.call)
    (fewer : ∀ call, requeued.retries call ≤ pendingAllocation.retries call) :
    Accounted config { manager with
      pendingAllocationsRetryQueue := manager.pendingAllocationsRetryQueue ++ [requeued] }
      drained where
  placed call := by
    refine Eq.trans ?_ (accounted.placed call)
    simp [SessionManager.requested, SessionManager.retrying, SessionManager.completions, SessionManager.errors, PendingAllocation.place, sameCall]
    omega
  within call := by
    refine Nat.le_trans ?_ (accounted.within call)
    have fewer := fewer call
    simp [SessionManager.issued, SessionManager.retriesRequested, PendingAllocation.place, sameCall]
    omega

/-- The callback of a record is queued. -/
theorem finish {callback : Callback} (sameCall : callback.call = pendingAllocation.call) :
    Accounted config (manager.queueInLoop callback) drained where
  placed call := by
    refine Eq.trans ?_ (accounted.placed call)
    have once := callback.completed_or_failed call
    simp [SessionManager.requested, SessionManager.retrying, SessionManager.completions, SessionManager.errors, SessionManager.queueInLoop, PendingAllocation.place, ← sameCall]
    omega
  within call := by
    refine Nat.le_trans ?_ (accounted.within call)
    simp only [SessionManager.issued, SessionManager.retriesRequested,
      SessionManager.queueInLoop, attempts_cons]
    omega

/-- An ALLOCATE task is made for a record. -/
theorem request (unique : manager.pendingAllocationsMap.lookup taskId = none) :
    Accounted config { manager with
      pendingAllocationsMap := manager.pendingAllocationsMap.insert taskId pendingAllocation
      allocateTasks := manager.allocateTasks ++ [pendingAllocation.call] } drained where
  placed call := by
    refine Eq.trans ?_ (accounted.placed call)
    simp [SessionManager.requested, SessionManager.retrying, SessionManager.completions, SessionManager.errors, Table.total_insert_new _ unique]
    omega
  within call := by
    refine Nat.le_trans ?_ (accounted.within call)
    have one : [pendingAllocation.call].count call = pendingAllocation.place call :=
      count_single _ _
    simp [SessionManager.issued, SessionManager.retriesRequested, one, Table.total_insert_new _ unique]
    omega

end

/-- A record is taken out of the map to be tried again. -/
theorem take (accounted : Accounted config manager drained)
    (found : manager.pendingAllocationsMap.lookup taskId = some pendingAllocation)
    (left : pendingAllocation.attemptsRemaining ≠ 0) :
    Accounted config
      { manager with pendingAllocationsMap := manager.pendingAllocationsMap.erase taskId }
      ({ pendingAllocation with
        attemptsRemaining := pendingAllocation.attemptsRemaining - 1 } :: drained) where
  placed call := by
    refine Eq.trans ?_ (accounted.placed call)
    simp [SessionManager.requested, SessionManager.retrying, SessionManager.completions, SessionManager.errors, Table.total_erase _ found, PendingAllocation.place]
    omega
  within call := by
    refine Nat.le_trans ?_ (accounted.within call)
    have counted := PendingAllocation.retries_sub_one left call
    simp only [SessionManager.issued, SessionManager.retriesRequested,
      Table.total_erase _ found, attempts_cons, PendingAllocation.place] at counted ⊢
    omega

/-- A record is taken out of the map, and its callback is queued. -/
theorem takeAndFinish (accounted : Accounted config manager drained)
    (found : manager.pendingAllocationsMap.lookup taskId = some pendingAllocation)
    {callback : Callback} (sameCall : callback.call = pendingAllocation.call) :
    Accounted config (SessionManager.queueInLoop
      { manager with pendingAllocationsMap := manager.pendingAllocationsMap.erase taskId }
      callback) drained where
  placed call := by
    refine Eq.trans ?_ (accounted.placed call)
    have once := callback.completed_or_failed call
    simp [SessionManager.requested, SessionManager.retrying, SessionManager.completions, SessionManager.errors, SessionManager.queueInLoop, Table.total_erase _ found, PendingAllocation.place, ← sameCall]
    omega
  within call := by
    refine Nat.le_trans ?_ (accounted.within call)
    simp only [SessionManager.issued, SessionManager.retriesRequested,
      SessionManager.queueInLoop, Table.total_erase _ found]
    omega

/-- A new call comes with a record of its own. -/
theorem called (accounted : Accounted config manager []) (record : PendingAllocation)
    (new : record.call = manager.calls)
    (all : record.attemptsRemaining = config.sessionAllocationMaxRetries.toInt32) :
    Accounted config { manager with calls := manager.calls + 1 } [record] where
  placed call := by
    have before := accounted.placed call
    simp only [SessionManager.requested, SessionManager.retrying, SessionManager.completions,
      SessionManager.errors, List.map_cons, List.map_nil, List.sum_cons, List.sum_nil,
      PendingAllocation.place, hits, new, Option.some.injEq] at before ⊢
    split at before <;> split <;> split <;> omega
  within call := by
    have before := accounted.within call
    have budget : record.retries call ≤ config.sessionAllocationMaxRetries.toNat := by
      rw [PendingAllocation.retries, all, UInt32.toUInt32_toInt32]
      split <;> omega
    have share : record.place call + record.retries call ≤
        if call = manager.calls then config.sessionAllocationMaxRetries.toNat + 1 else 0 := by
      by_cases same : call = manager.calls
      · have one := hits_le_one call (some record.call)
        rw [if_pos same, PendingAllocation.place]
        omega
      · rw [if_neg same, PendingAllocation.place, PendingAllocation.retries, hits, new,
          if_neg (fun equal => same (Option.some.inj equal).symm),
          if_neg (fun equal => same equal.symm)]
    simp only [SessionManager.issued, SessionManager.retriesRequested, attempts_cons,
      attempts_nil] at before ⊢
    split at before <;> split at share <;> split <;> omega

theorem retryOrFail (accounted : Accounted config manager (pendingAllocation :: drained))
    (errorMessage : String) :
    Accounted config (manager.retryOrFail pendingAllocation errorMessage) drained := by
  rw [SessionManager.retryOrFail]
  split
  · exact accounted.finish rfl
  · rename_i left
    refine accounted.requeue rfl fun call => ?_
    have counted := PendingAllocation.retries_sub_one left call
    omega

/-- A record that is taken out of the map is put off or given up. -/
theorem takeAndRetryOrFail (accounted : Accounted config manager drained)
    (found : manager.pendingAllocationsMap.lookup taskId = some pendingAllocation)
    (errorMessage : String) :
    Accounted config (SessionManager.retryOrFail
      { manager with pendingAllocationsMap := manager.pendingAllocationsMap.erase taskId }
      pendingAllocation errorMessage) drained := by
  rw [SessionManager.retryOrFail]
  split
  · exact accounted.takeAndFinish found rfl
  · rename_i left
    exact (accounted.take found left).requeue rfl fun _ => Nat.le_refl _

theorem sendAsyncAllocationRequest
    (accounted : Accounted config manager (pendingAllocation :: drained)) {attempt : Attempt}
    (sent : manager.sendAsyncAllocationRequest config pendingAllocation attempt = some after) :
    Accounted config after drained := by
  obtain ⟨-, rfl⟩ | ⟨-, unique, sent⟩ :=
    SessionManager.sendAsyncAllocationRequest_cases sent
  · exact accounted.retryOrFail _
  · have inserted := accounted.request unique
    obtain ⟨-, rfl⟩ | ⟨-, rfl⟩ := sent
    · -- the record is in the map, and out again
      have retried := inserted.takeAndRetryOrFail (AList.lookup_insert _)
        "Failed to allocate: IPC queue full after all attempts"
      rwa [Table.erase_insert, Table.erase_absent unique] at retried
    · exact inserted.undisturbed ⟨rfl, rfl, rfl, rfl, rfl⟩

theorem createSession (accounted : Accounted config manager []) {creation : Creation}
    {chance : EvictionChance} {attempt : Attempt}
    (created : manager.createSession config creation chance attempt = some after) :
    Accounted config after [] := by
  rw [SessionManager.createSession] at created
  have accounted : Accounted config (manager.evictOldSessions config chance) [] :=
    accounted.undisturbed (Undisturbed.evictOldSessions manager chance)
  generalize manager.evictOldSessions config chance = manager at accounted created
  have accounted := fun session => accounted.called
    { call := manager.calls
      sessionId := creation.sessionId
      session
      attemptsRemaining := config.sessionAllocationMaxRetries.toInt32
      slotIdToCopyFrom := creation.slotIdToCopyFrom } rfl rfl
  split at created
  · rename_i slotId _
    cases created
    exact ((accounted { hash := 0, slotId }).undisturbed (.insertSession _ _ _)).finish rfl
  · split at created
    · cases created
      exact (accounted { hash := 0, slotId := Sessions.invalidSlotId }).finish rfl
    · exact (accounted _).sendAsyncAllocationRequest created

theorem retryFailedAllocation (accounted : Accounted config manager (pendingAllocation :: drained))
    (retried : manager.retryFailedAllocation config attempts pendingAllocation = some after) :
    Accounted config after drained := by
  rw [SessionManager.retryFailedAllocation] at retried
  split at retried
  · exact accounted.sendAsyncAllocationRequest retried
  · cases retried
    exact accounted.requeue rfl fun _ => Nat.le_refl _

/-- The loop deals with one record after the other. -/
theorem retryLoop (accounted : Accounted config manager drained)
    (retried : drained.foldlM (SessionManager.retryFailedAllocation config attempts) manager =
      some after) : Accounted config after [] := by
  induction drained generalizing manager with
  | nil =>
    cases retried
    exact accounted
  | cons pendingAllocation rest ih =>
    obtain ⟨middle, first, others⟩ := Option.bind_eq_some_iff.mp retried
    exact ih (accounted.retryFailedAllocation first) others

theorem retryFailedAllocations (accounted : Accounted config manager []) {chance : EvictionChance}
    (retried : manager.retryFailedAllocations config chance attempts = some after) :
    Accounted config after [] := by
  rw [SessionManager.retryFailedAllocations] at retried
  split at retried
  · cases retried
    exact accounted
  · have drained : Accounted config { manager with pendingAllocationsRetryQueue := [] }
        manager.pendingAllocationsRetryQueue := by
      constructor
      · intro call
        refine Eq.trans ?_ (accounted.placed call)
        simp only [SessionManager.requested, SessionManager.retrying,
          SessionManager.completions, SessionManager.errors, List.map_nil, List.sum_nil]
        omega
      · intro call
        refine Nat.le_trans ?_ (accounted.within call)
        simp only [SessionManager.issued, SessionManager.retriesRequested, attempts_nil]
        omega
    exact (drained.undisturbed (Undisturbed.evictOldSessions _ chance)).retryLoop retried

theorem handleMemoryResult (accounted : Accounted config manager [])
    (result : ManageMemoryResult) : Accounted config (manager.handleMemoryResult result) [] := by
  rw [SessionManager.handleMemoryResult]
  cases found : manager.pendingAllocationsMap.lookup result.taskId with
  | none =>
    simp only [Table.take, found]
    exact accounted
  | some pendingAllocation =>
    simp only [Table.take, found]
    split
    · exact (accounted.takeAndFinish found rfl).undisturbed ⟨rfl, rfl, rfl, rfl, rfl⟩
    · split
      · rename_i left
        have left : pendingAllocation.attemptsRemaining ≠ 0 := by
          intro zero
          rw [zero] at left
          exact Int32.lt_irrefl left
        exact (accounted.take found left).requeue rfl fun _ => Nat.le_refl _
      · exact accounted.takeAndFinish found rfl

theorem step (accounted : Accounted config before []) {call : Call}
    (stepped : Slots.step config before call = some after) : Accounted config after [] := by
  cases call with
  | createSession creation chance attempt => exact accounted.createSession stepped
  | handleMemoryResult result =>
    cases stepped
    exact accounted.handleMemoryResult result
  | retryFailedAllocations chance attempts => exact accounted.retryFailedAllocations stepped
  | retryFailedDeallocs queueFull =>
    cases stepped
    exact accounted.undisturbed (Undisturbed.retryFailedDeallocs before queueFull)
  | closeSession sessionId queueFull =>
    cases stepped
    exact accounted.undisturbed (Undisturbed.closeSession before sessionId queueFull)
  | modify | lockSlot | unlockSlot =>
    cases stepped
    exact accounted.undisturbed ⟨rfl, rfl, rfl, rfl, rfl⟩

end Accounted

theorem accounted_initial (config : SlotConfig) : Accounted config {} [] :=
  ⟨fun _ => rfl, fun _ => Nat.le_refl _⟩

/-- Whatever the calls, their order, the results and the queues, a `createSession` call has one
entry in the map, or one in the retry queue, or exactly one of its callbacks has been queued, once.
It takes no more ALLOCATE tasks than one and its retries. -/
theorem called_back_once (config : SlotConfig) {manager : SessionManager}
    (reached : Reaches (step config) (fun _ _ => True) {} manager) {call : Nat}
    (called : call < manager.calls) :
    manager.requested call + manager.retrying call + manager.completions call +
        manager.errors call = 1 ∧
      manager.issued call ≤ config.sessionAllocationMaxRetries.toNat + 1 := by
  have accounted := reached.invariant (Accounted config · []) (accounted_initial config)
    fun _ _ _ held _ stepped => held.step stepped
  have placed := accounted.placed call
  have within := accounted.within call
  rw [if_pos called] at placed within
  rw [List.map_nil, List.sum_nil] at placed
  constructor <;> omega

section Runs

def twoRetries : SlotConfig where
  maxSessionsCount := 2
  sessionEvictionRate := 100
  sessionEvictionCount := 1
  sessionAllocationMaxRetries := 2

/-- A failure and a full queue before a slot comes, and a result that nobody waits for. -/
def slotAtLast : List Call :=
  [.createSession { sessionId := "a" } {} { taskId := 1 },
    .handleMemoryResult { taskId := 9, status := .success, slotId := 4 },
    .handleMemoryResult { taskId := 1, status := .failure, slotId := Sessions.invalidSlotId },
    .retryFailedAllocations {} fun _ => some { taskId := 2, queueFull := true },
    .retryFailedAllocations {} fun _ => none,
    .retryFailedAllocations {} fun _ => some { taskId := 3 },
    .handleMemoryResult { taskId := 3, status := .success, slotId := 5 }]

theorem slotAtLast_runs :
    (runWithin (step twoRetries) (fun _ _ => True) {} slotAtLast).isSome = true := by
  decide +kernel

/-- The state that the run ends in. -/
def withSlot : SessionManager :=
  (runWithin (step twoRetries) (fun _ _ => True) {} slotAtLast).get slotAtLast_runs

theorem called_back_once_withSlot : withSlot.completions 0 = 1 ∧
    (withSlot.requested 0 + withSlot.retrying 0 + withSlot.completions 0 + withSlot.errors 0 = 1 ∧
      withSlot.issued 0 ≤ 3) :=
  ⟨by decide +kernel,
    called_back_once twoRetries (reaches_get slotAtLast_runs) (by decide +kernel)⟩

end Runs

end InferenceServer.Slots
