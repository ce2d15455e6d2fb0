import InferenceServer.Slots.Allocations

/-! The number of sessions. It is compared with the limit when an allocation is sent, and grows when
the result comes back, so that the limit holds as long as what is outstanding is within it, too. -/
namespace InferenceServer.Slots
open Machine

/-- No slot is assigned in advance. -/
def AllocatedOnly : Call → Prop
  | .createSession creation _ _ => creation.slotId = none
  | _ => True

namespace Call

/-- The eviction that a call begins with. -/
def evicted (config : SlotConfig) (manager : SessionManager) : Call → SessionManager
  | createSession _ chance _ => manager.evictOldSessions config chance
  | retryFailedAllocations chance _ =>
    { manager with pendingAllocationsRetryQueue := [] }.evictOldSessions config chance
  | _ => manager

/-- An attempt that is made and finds room in the queue. -/
def Sends (attempts : Nat → Option Attempt) (pendingAllocation : PendingAllocation) : Bool :=
  (attempts pendingAllocation.call).any fun attempt => !attempt.queueFull

/-- How many allocations a call sends unless there are too many sessions. -/
def sends (config : SlotConfig) (manager : SessionManager) : Call → Nat
  | createSession creation _ attempt =>
    if creation.slotId = none ∧ config.memoryQueues ∧ !attempt.queueFull then 1 else 0
  | retryFailedAllocations _ attempts =>
    manager.pendingAllocationsRetryQueue.countP (Sends attempts)
  | _ => 0

end Call

/-- Allocations are sent only while the sessions, with all that are outstanding then, are within the
limit. -/
def WithinCap (config : SlotConfig) (manager : SessionManager) (call : Call) : Prop :=
  0 < call.sends config manager →
    (call.evicted config manager).sessions.entries.length < config.maxSessionsCount →
    (call.evicted config manager).sessions.entries.length +
      (call.evicted config manager).pendingAllocationsMap.entries.length +
      call.sends config manager ≤ config.maxSessionsCount

/-- Sessions and outstanding allocations together are within the limit. -/
def Capped (config : SlotConfig) (manager : SessionManager) : Prop :=
  manager.sessions.entries.length + manager.pendingAllocationsMap.entries.length ≤
    config.maxSessionsCount

theorem SessionManager.retryOrFail_keeps (manager : SessionManager)
    (pendingAllocation : PendingAllocation) (errorMessage : String) :
    (manager.retryOrFail pendingAllocation errorMessage).sessions = manager.sessions ∧
      (manager.retryOrFail pendingAllocation errorMessage).pendingAllocationsMap =
        manager.pendingAllocationsMap := by
  rw [retryOrFail]
  split <;> exact ⟨rfl, rfl⟩

/-- An allocation becomes outstanding if there is room for a session and for the task. -/
theorem SessionManager.sendAsyncAllocationRequest_spec {config : SlotConfig}
    {before after : SessionManager} {pendingAllocation : PendingAllocation} {attempt : Attempt}
    (sent : before.sendAsyncAllocationRequest config pendingAllocation attempt = some after) :
    after.sessions = before.sessions ∧
      after.pendingAllocationsMap.entries.length = before.pendingAllocationsMap.entries.length +
        if before.sessions.entries.length < config.maxSessionsCount ∧ !attempt.queueFull then 1
        else 0 := by
  obtain ⟨full, rfl⟩ | ⟨room, unique, sent⟩ := sendAsyncAllocationRequest_cases sent
  · obtain ⟨sessions, map⟩ := before.retryOrFail_keeps pendingAllocation
      "Failed to allocate: max session count reached after all attempts"
    rw [if_neg fun room => Nat.not_lt.mpr full room.1]
    exact ⟨sessions, congrArg (·.entries.length) map⟩
  · obtain ⟨queueFull, rfl⟩ | ⟨queueRoom, rfl⟩ := sent
    · obtain ⟨sessions, map⟩ := retryOrFail_keeps
        { before with allocateTasks := before.allocateTasks ++ [pendingAllocation.call] }
        pendingAllocation "Failed to allocate: IPC queue full after all attempts"
      rw [if_neg fun both => by simp [queueFull] at both]
      exact ⟨sessions, congrArg (·.entries.length) map⟩
    · rw [if_pos ⟨room, by simp [queueRoom]⟩]
      exact ⟨rfl, Table.length_insert_new unique _⟩

namespace Capped

variable {config : SlotConfig} {before after manager : SessionManager}
variable {attempt : Attempt} {chance : EvictionChance} {attempts : Nat → Option Attempt}

theorem closeSession (capped : Capped config manager) (sessionId : String) (queueFull : Bool) :
    Capped config (manager.closeSession config sessionId queueFull).1 := by
  have fewer := Table.length_erase_le sessionId manager.sessions
  have same : (manager.closeSession config sessionId queueFull).1.pendingAllocationsMap =
      manager.pendingAllocationsMap := (Undisturbed.closeSession manager _ _).requested
  unfold Capped at capped ⊢
  rw [manager.sessions_closeSession, same]
  omega

theorem evictOldSessions (capped : Capped config manager) (chance : EvictionChance) :
    Capped config (manager.evictOldSessions config chance) :=
  SessionManager.evictOldSessions_keeps (Capped config)
    (fun _ sessionId queueFull capped => capped.closeSession sessionId queueFull) capped chance

section

variable (capped : Capped config before)
include capped

/-- An allocation is sent while the limit counts it. -/
theorem send {pendingAllocation : PendingAllocation} (within : !attempt.queueFull →
      before.sessions.entries.length < config.maxSessionsCount →
      before.sessions.entries.length + before.pendingAllocationsMap.entries.length + 1 ≤
        config.maxSessionsCount)
    (sent : before.sendAsyncAllocationRequest config pendingAllocation attempt = some after) :
    Capped config after := by
  obtain ⟨sessions, outstanding⟩ := SessionManager.sendAsyncAllocationRequest_spec sent
  unfold Capped at capped ⊢
  rw [sessions, outstanding]
  split
  · rename_i room
    exact within room.2 room.1
  · exact capped

theorem createSession {creation : Creation} (allocated : creation.slotId = none)
    (within : WithinCap config before (.createSession creation chance attempt))
    (created : before.createSession config creation chance attempt = some after) :
    Capped config after := by
  rw [SessionManager.createSession] at created
  have capped : Capped config (before.evictOldSessions config chance) :=
    capped.evictOldSessions chance
  simp only [WithinCap, Call.sends, Call.evicted, allocated, true_and] at within
  generalize before.evictOldSessions config chance = evicted at created capped within
  simp only [allocated] at created
  split at created
  · cases created
    exact capped
  · rename_i queues
    have called : Capped config { evicted with calls := evicted.calls + 1 } := capped
    refine called.send (fun room => ?_) created
    rw [if_pos ⟨by simpa using queues, room⟩] at within
    exact within Nat.one_pos

/-- The loop over the retry queue. The number of sessions stays the same meanwhile. -/
theorem retryLoop {drained : List PendingAllocation}
    (within : 0 < drained.countP (Call.Sends attempts) →
      before.sessions.entries.length < config.maxSessionsCount →
      before.sessions.entries.length + before.pendingAllocationsMap.entries.length +
        drained.countP (Call.Sends attempts) ≤ config.maxSessionsCount)
    (retried : drained.foldlM (SessionManager.retryFailedAllocation config attempts) before =
      some after) : Capped config after := by
  induction drained generalizing before with
  | nil =>
    cases retried
    exact capped
  | cons pendingAllocation rest ih =>
    obtain ⟨middle, first, others⟩ := Option.bind_eq_some_iff.mp retried
    rw [List.countP_cons] at within
    rw [SessionManager.retryFailedAllocation] at first
    split at first
    · rename_i attempt tried
      have sends : Call.Sends attempts pendingAllocation = !attempt.queueFull := by
        rw [Call.Sends, tried, Option.any_some]
      rw [sends] at within
      obtain ⟨sessions, outstanding⟩ := SessionManager.sendAsyncAllocationRequest_spec first
      refine ih (capped.send (fun room enough => ?_) first) (fun some_ enough => ?_) others
      · rw [if_pos room] at within
        have := within (by omega) enough
        omega
      · rw [sessions] at enough ⊢
        have within := within (by omega) enough
        simp only [enough, true_and] at outstanding
        omega
    · rename_i notYet
      cases first
      have sends : Call.Sends attempts pendingAllocation = false := by
        rw [Call.Sends, notYet, Option.any_none]
      rw [sends] at within
      have requeued : Capped config { before with
          pendingAllocationsRetryQueue :=
            before.pendingAllocationsRetryQueue ++ [pendingAllocation] } := capped
      exact ih requeued within others

theorem retryFailedAllocations
    (within : WithinCap config before (.retryFailedAllocations chance attempts))
    (retried : before.retryFailedAllocations config chance attempts = some after) :
    Capped config after := by
  rw [SessionManager.retryFailedAllocations] at retried
  split at retried
  · cases retried
    exact capped
  · have drained : Capped config { before with pendingAllocationsRetryQueue := [] } := capped
    exact (drained.evictOldSessions chance).retryLoop within retried

end

theorem handleMemoryResult (capped : Capped config manager) (result : ManageMemoryResult) :
    Capped config (manager.handleMemoryResult result) := by
  rw [SessionManager.handleMemoryResult]
  cases found : manager.pendingAllocationsMap.lookup result.taskId with
  | none =>
    simp only [Table.take, found]
    exact capped
  | some pendingAllocation =>
    have taken := Table.length_erase found
    simp only [Table.take, found]
    unfold Capped at capped ⊢
    split
    · refine Nat.le_trans (Nat.add_le_add_right (Table.length_insert_le _ _ _) _) ?_
      simp only [SessionManager.queueInLoop, SessionManager.insertSession]
      omega
    · split
      · simp only
        omega
      · simp only [SessionManager.queueInLoop]
        omega

theorem step {call : Call} (capped : Capped config before) (allocated : AllocatedOnly call)
    (within : WithinCap config before call) (stepped : Slots.step config before call = some after) :
    Capped config after := by
  cases call with
  | createSession creation chance attempt => exact capped.createSession allocated within stepped
  | handleMemoryResult result =>
    cases stepped
    exact capped.handleMemoryResult result
  | retryFailedAllocations chance attempts => exact capped.retryFailedAllocations within stepped
  | retryFailedDeallocs queueFull =>
    cases stepped
    have sessions := before.sessions_retryFailedDeallocs config queueFull
    have map : (before.retryFailedDeallocs config queueFull).pendingAllocationsMap =
        before.pendingAllocationsMap := (Undisturbed.retryFailedDeallocs before queueFull).requested
    unfold Capped at capped ⊢
    rw [sessions, map]
    exact capped
  | closeSession sessionId queueFull =>
    cases stepped
    exact capped.closeSession sessionId queueFull
  | modify sessionId change =>
    cases stepped
    unfold Capped at capped ⊢
    rw [Table.length_modify]
    exact capped
  | lockSlot | unlockSlot =>
    cases stepped
    exact capped

end Capped

/-- The limit holds in every run without slots assigned in advance in which allocations are sent
within it. -/
theorem sessions_within_max (config : SlotConfig) {manager : SessionManager}
    (reached : Reaches (step config)
      (fun before call => AllocatedOnly call ∧ WithinCap config before call) {} manager) :
    manager.sessions.entries.length ≤ config.maxSessionsCount := by
  have capped := reached.invariant (Capped config) (Nat.zero_le _)
    fun _ _ _ held allowed stepped => held.step allowed.1 allowed.2 stepped
  exact Nat.le_trans (Nat.le_add_right _ _) capped

section Runs

instance : DecidablePred AllocatedOnly
  | .createSession creation _ _ => inferInstanceAs (Decidable (creation.slotId = none))
  | .handleMemoryResult _ => inferInstanceAs (Decidable True)
  | .retryFailedAllocations .. => inferInstanceAs (Decidable True)
  | .retryFailedDeallocs _ => inferInstanceAs (Decidable True)
  | .closeSession .. => inferInstanceAs (Decidable True)
  | .modify .. => inferInstanceAs (Decidable True)
  | .lockSlot _ => inferInstanceAs (Decidable True)
  | .unlockSlot _ => inferInstanceAs (Decidable True)

instance (config : SlotConfig) (manager : SessionManager) (call : Call) :
    Decidable (WithinCap config manager call) :=
  inferInstanceAs (Decidable (_ → _ → _))

def oneSession : SlotConfig where
  maxSessionsCount := 1
  sessionEvictionRate := 100
  sessionEvictionCount := 1
  sessionAllocationMaxRetries := 1

def created (sessionId : String) (taskId : UInt32) : Call :=
  .createSession { sessionId } {} { taskId }

def granted (taskId slotId : UInt32) : Call :=
  .handleMemoryResult { taskId, status := .success, slotId }

/-- The second session is created once the first is there. -/
def inTurn : List Call :=
  [created "a" 1, granted 1 5, created "b" 2]

theorem inTurn_runs : (runWithin (step oneSession)
    (fun before call => AllocatedOnly call ∧ WithinCap oneSession before call) {}
    inTurn).isSome = true := by
  decide +kernel

theorem sessions_within_max_inTurn : ((runWithin (step oneSession)
    (fun before call => AllocatedOnly call ∧ WithinCap oneSession before call) {}
    inTurn).get inTurn_runs).sessions.entries.length ≤ 1 :=
  sessions_within_max oneSession (reaches_get inTurn_runs)

/-- Two sessions are created before the first result comes. -/
def atOnce : List Call :=
  [created "a" 1, created "b" 2, granted 1 5, granted 2 6]

theorem atOnce_runs : (runWithin (step oneSession) (fun _ call => AllocatedOnly call) {}
    atOnce).isSome = true := by
  decide +kernel

/-- Allocations that are outstanding together all come back with a session. -/
theorem not_sessions_within_max : ¬∀ (config : SlotConfig) (manager : SessionManager),
    Reaches (step config) (fun _ call => AllocatedOnly call) {} manager →
      manager.sessions.entries.length ≤ config.maxSessionsCount := by
  intro law
  have two : ((runWithin (step oneSession) (fun _ call => AllocatedOnly call) {}
      atOnce).get atOnce_runs).sessions.entries.length = 2 := by
    decide +kernel
  have bounded := law oneSession _ (reaches_get atOnce_runs)
  rw [two] at bounded
  exact absurd bounded (by decide)

end Runs

end InferenceServer.Slots
