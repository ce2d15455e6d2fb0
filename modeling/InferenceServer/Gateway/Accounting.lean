import InferenceServer.Gateway.Dispatcher
import InferenceServer.Machine.Run

/-! The counter of each prefill server against the tasks that the dispatcher has assigned
to it. -/
namespace InferenceServer.Gateway
open Machine

inductive Event
  | request (msg : PrefillRequestMessage) (now : Time) (sent : Bool)
  | result (fromServerId : ServerId) (msg : PrefillResultMessage)
  | cancel (taskId : TaskId)
  | down (serverId : ServerId)
  | timeouts (now : Time)
  | registration (serverId : ServerId) (maxInFlight : Nat)
  | cacheBlocksAdded (serverId : ServerId) (blockHashes : List UInt64)

namespace Dispatcher

def handle (options : Options) (dispatcher : Dispatcher) : Event → Dispatcher × List Sent
  | .request msg now sent => dispatcher.onPrefillRequest msg now sent
  | .result fromServerId msg => dispatcher.onPrefillResult fromServerId msg
  | .cancel taskId => dispatcher.onPrefillCancel taskId
  | .down serverId => dispatcher.markDown serverId
  | .timeouts now => onRequestTimeouts options dispatcher now
  | .registration serverId maxInFlight => (dispatcher.onRegistration serverId maxInFlight, [])
  | .cacheBlocksAdded serverId blockHashes =>
    (dispatcher.onCacheBlocksAdded serverId blockHashes, [])

def next (options : Options) (dispatcher : Dispatcher) (event : Event) : Dispatcher :=
  (dispatcher.handle options event).1

/-- The number of tasks assigned to a server. -/
def outstanding (dispatcher : Dispatcher) (serverId : ServerId) : Nat :=
  dispatcher.inFlight.entries.countP fun entry => entry.2.prefillId = serverId

/-- Counters agree with the tasks, and so an idle server is not kept out. -/
structure Accurate (dispatcher : Dispatcher) : Prop where
  counted : dispatcher.registry.Counts dispatcher.outstanding
  idle_eligible : ∀ peer ∈ dispatcher.registry.prefills,
    dispatcher.outstanding peer.serverId = 0 → peer.healthy = true → peer.acceptingTasks = true →
      ∀ depth, (peer.makeSnapshot depth).isEligible = true

variable {dispatcher : Dispatcher} {taskId : TaskId} {entry : InFlightEntry} {serverId : ServerId}
variable {before after : Dispatcher} {taken : InFlightEntry → Bool} {msg : PrefillRequestMessage}

/-- A counter at zero keeps no healthy server out. -/
theorem accurate_iff : dispatcher.Accurate ↔ dispatcher.registry.Counts dispatcher.outstanding := by
  constructor
  · exact Accurate.counted
  · intro counted
    refine ⟨counted, fun peer member idle healthy accepting depth => ?_⟩
    have zero : peer.inFlight = 0 := (counted peer member).trans idle
    simp only [PrefillSnapshot.isEligible, PrefillPeer.makeSnapshot, healthy, accepting, zero,
      Bool.not_true, Bool.false_eq_true, ↓reduceIte]
    rw [if_neg (by omega)]

/-- Tasks are assigned to servers of the registry. -/
def Known (dispatcher : Dispatcher) : Prop :=
  ∀ taskId entry, ⟨taskId, entry⟩ ∈ dispatcher.inFlight.entries →
    dispatcher.registry.Knows entry.prefillId

/-- A new request has an id of its own. -/
def FreshTask (dispatcher : Dispatcher) : Event → Prop
  | .request msg _ _ => dispatcher.inFlight.lookup msg.taskId = none
  | _ => True

instance (dispatcher : Dispatcher) (event : Event) : Decidable (dispatcher.FreshTask event) := by
  cases event <;> unfold FreshTask <;> infer_instance

/-- A result comes from its task's own server, and a server that is lost has no tasks. -/
def ReturnsCounts (dispatcher : Dispatcher) : Event → Prop
  | .result fromServerId msg => ∀ entry, dispatcher.inFlight.lookup msg.taskId = some entry →
      entry.prefillId = fromServerId
  | .down serverId => dispatcher.outstanding serverId = 0
  | _ => True

instance (dispatcher : Dispatcher) (event : Event) :
    Decidable (dispatcher.ReturnsCounts event) := by
  cases event with
  | result fromServerId msg =>
    exact decidable_of_iff
      ((dispatcher.inFlight.lookup msg.taskId).all (·.prefillId = fromServerId) = true)
      (by simp [ReturnsCounts, Option.all_eq_true])
  | down serverId => exact inferInstanceAs (Decidable (dispatcher.outstanding serverId = 0))
  | request | cancel | timeouts | registration | cacheBlocksAdded => exact isTrue trivial

/-- One for a task of the server. -/
def assigned (serverId : ServerId) (_ : TaskId) (entry : InFlightEntry) : Nat :=
  if entry.prefillId = serverId then 1 else 0

theorem outstanding_eq_total (dispatcher : Dispatcher) (serverId : ServerId) :
    dispatcher.outstanding serverId = Table.total (assigned serverId) dispatcher.inFlight := by
  unfold outstanding Table.total assigned
  induction dispatcher.inFlight.entries with
  | nil => rfl
  | cons entry rest ih =>
    rw [List.countP_cons, ih, List.map_cons, List.sum_cons, Nat.add_comm]
    simp

theorem outstanding_congr {other : Dispatcher} (same : dispatcher.inFlight = other.inFlight) :
    dispatcher.outstanding = other.outstanding := by
  funext serverId
  rw [outstanding, outstanding, same]

theorem takeTask_none (unknown : dispatcher.inFlight.lookup taskId = none) :
    (dispatcher.takeTask taskId).2.outstanding = dispatcher.outstanding := by
  funext serverId
  rw [outstanding_eq_total, outstanding_eq_total]
  exact Table.total_erase_none _ unknown

theorem takeTask_some (found : dispatcher.inFlight.lookup taskId = some entry) (serverId : ServerId) :
    dispatcher.outstanding serverId = (dispatcher.takeTask taskId).2.outstanding serverId +
      if entry.prefillId = serverId then 1 else 0 := by
  rw [outstanding_eq_total, outstanding_eq_total]
  exact Table.total_erase _ found

theorem outstanding_track (dispatcher : Dispatcher)
    (fresh : dispatcher.inFlight.lookup taskId = none) (serverId : ServerId) :
    (dispatcher.track taskId entry).outstanding serverId = dispatcher.outstanding serverId +
      if entry.prefillId = serverId then 1 else 0 := by
  rw [outstanding_eq_total, outstanding_eq_total]
  exact Table.total_insert_new _ fresh _

theorem takeTasks_outstanding (dispatcher : Dispatcher) (taken : InFlightEntry → Bool)
    (serverId : ServerId) : dispatcher.outstanding serverId =
      (dispatcher.takeTasks taken).2.outstanding serverId +
        ((dispatcher.takeTasks taken).1.map fun task => assigned serverId task.1 task.2).sum := by
  rw [outstanding_eq_total, outstanding_eq_total]
  exact Table.total_eraseIf _ _ _

theorem outstanding_unknown (known : dispatcher.Known)
    (unknown : ¬dispatcher.registry.Knows serverId) : dispatcher.outstanding serverId = 0 := by
  refine List.countP_eq_zero.mpr fun entry member assigned => unknown ?_
  have same : entry.2.prefillId = serverId := by simpa using assigned
  exact same ▸ known entry.1 entry.2 member

/-- Counters agree with the tasks, which are of servers in the registry. -/
structure Settled (dispatcher : Dispatcher) : Prop where
  counted : dispatcher.registry.Counts dispatcher.outstanding
  known : dispatcher.Known

theorem Known.of_sublist (known : before.Known)
    (tasks : ∀ taskId entry, ⟨taskId, entry⟩ ∈ after.inFlight.entries →
      ⟨taskId, entry⟩ ∈ before.inFlight.entries)
    (servers : ∀ serverId, before.registry.Knows serverId → after.registry.Knows serverId) :
    after.Known :=
  fun taskId entry member => servers _ (known taskId entry (tasks taskId entry member))

theorem mem_takeTask {other : TaskId}
    (member : ⟨other, entry⟩ ∈ (dispatcher.takeTask taskId).2.inFlight.entries) :
    ⟨other, entry⟩ ∈ dispatcher.inFlight.entries :=
  Table.mem_entries_erase member

theorem mem_takeTasks (member : ⟨taskId, entry⟩ ∈ (dispatcher.takeTasks taken).2.inFlight.entries) :
    ⟨taskId, entry⟩ ∈ dispatcher.inFlight.entries :=
  (Table.mem_eraseIf.mp member).1

theorem mem_taken : (taskId, entry) ∈ (dispatcher.takeTasks taken).1 ↔
      ⟨taskId, entry⟩ ∈ dispatcher.inFlight.entries ∧ taken entry = true :=
  Table.mem_select (fun _ entry => taken entry) dispatcher.inFlight

/-- Routing changes the cursor only, and chooses a server of the registry. -/
theorem route_spec {routed : Dispatcher} {chosen : Option ServerId}
    (eq : dispatcher.route msg = (chosen, routed)) :
    routed.registry = dispatcher.registry ∧ routed.inFlight = dispatcher.inFlight ∧
      ∀ serverId, chosen = some serverId → dispatcher.registry.Knows serverId := by
  simp only [route, Prod.mk.injEq] at eq
  obtain ⟨rfl, rfl⟩ := eq
  refine ⟨rfl, rfl, fun serverId selected => ?_⟩
  obtain ⟨snap, member, rfl, -⟩ := selectPrefill_eligible selected
  obtain ⟨peer, inRegistry, rfl⟩ := List.mem_map.mp member
  exact ⟨peer, inRegistry, rfl⟩

section

variable (settled : dispatcher.Settled)
include settled

/-- The assignment of a task to a server. -/
theorem Settled.assign {chosen : ServerId} (known : dispatcher.registry.Knows chosen)
    (fresh : dispatcher.inFlight.lookup taskId = none) (now : Time) :
    ((dispatcher.incrementInflight chosen).track taskId
      { prefillId := chosen, startedAt := now }).Settled where
  counted := settled.counted.increment chosen fun serverId =>
    outstanding_track (dispatcher.incrementInflight chosen) fresh serverId
  known := by
    intro other entry member
    refine PrefillRegistry.knows_incrementInflight.mpr ?_
    rcases Table.mem_entries_insert member with ⟨-, rfl⟩ | earlier
    · exact known
    · exact settled.known other entry earlier

/-- Taking a task off with the counter of its server. -/
theorem Settled.release (found : dispatcher.inFlight.lookup taskId = some entry) :
    ((dispatcher.takeTask taskId).2.decrementInflight entry.prefillId).Settled where
  counted := settled.counted.decrement entry.prefillId fun serverId => takeTask_some found serverId
  known := settled.known.of_sublist (fun _ _ => mem_takeTask)
    fun _ => PrefillRegistry.knows_decrementInflight.mpr

theorem Settled.takeTask_none (unknown : dispatcher.inFlight.lookup taskId = none) :
    (dispatcher.takeTask taskId).2.Settled where
  counted := by
    have same : (dispatcher.takeTask taskId).2.outstanding = dispatcher.outstanding :=
      Dispatcher.takeTask_none unknown
    exact same ▸ settled.counted
  known := settled.known.of_sublist (fun _ _ => mem_takeTask) fun _ => id

end

/-- A change of the registry that keeps its counters. -/
theorem Settled.of_load (settled : before.Settled)
    (load : after.registry.load = before.registry.load)
    (inFlight : after.inFlight = before.inFlight) : after.Settled where
  counted := by
    rw [PrefillRegistry.counts_iff, load, outstanding_congr inFlight]
    exact PrefillRegistry.counts_iff.mp settled.counted
  known := by
    refine settled.known.of_sublist (fun _ _ member => inFlight ▸ member) fun serverId known => ?_
    rw [PrefillRegistry.knows_iff, load]
    exact PrefillRegistry.knows_iff.mp known

section

variable (settled : dispatcher.Settled)
include settled

theorem Settled.onPrefillRequest (fresh : dispatcher.inFlight.lookup msg.taskId = none) (now : Time)
    (sent : Bool) : (dispatcher.onPrefillRequest msg now sent).1.Settled := by
  unfold Dispatcher.onPrefillRequest
  cases routing : dispatcher.route msg with
  | mk chosen routed =>
    obtain ⟨registryEq, inFlightEq, known⟩ := route_spec routing
    have routedSettled : routed.Settled := settled.of_load (by rw [registryEq]) inFlightEq
    cases chosen with
    | none => exact routedSettled
    | some chosen =>
      have assigned := routedSettled.assign (registryEq ▸ known chosen rfl)
        (inFlightEq ▸ fresh) now
      cases sent with
      | true => exact assigned
      | false =>
        exact assigned.release
          (AList.lookup_insert (β := fun _ => InFlightEntry) routed.inFlight)

theorem Settled.onPrefillResult {fromServerId : ServerId} {msg : PrefillResultMessage}
    (own : dispatcher.ReturnsCounts (.result fromServerId msg)) :
    (dispatcher.onPrefillResult fromServerId msg).1.Settled := by
  unfold Dispatcher.onPrefillResult
  cases found : dispatcher.inFlight.lookup msg.taskId with
  | none =>
    simp only [Dispatcher.takeTask, found]
    exact settled.takeTask_none found
  | some entry =>
    simp only [Dispatcher.takeTask, found]
    rw [← own entry found]
    exact settled.release found

theorem Settled.onPrefillCancel (taskId : TaskId) :
    (dispatcher.onPrefillCancel taskId).1.Settled := by
  unfold Dispatcher.onPrefillCancel
  cases found : dispatcher.inFlight.lookup taskId with
  | none =>
    simp only [Dispatcher.takeTask, found]
    exact settled.takeTask_none found
  | some entry =>
    simp only [Dispatcher.takeTask, found]
    exact settled.release found

end

theorem takeTasks_idle (idle : dispatcher.outstanding serverId = 0) (other : ServerId) :
    (dispatcher.takeTasks (·.prefillId = serverId)).2.outstanding other =
      dispatcher.outstanding other := by
  have none : (dispatcher.takeTasks (·.prefillId = serverId)).1 = [] := by
    refine List.eq_nil_iff_forall_not_mem.mpr fun ⟨taskId, entry⟩ member => ?_
    obtain ⟨inTable, isAssigned⟩ := mem_taken.mp member
    exact List.countP_eq_zero.mp idle _ inTable isAssigned
  have split := takeTasks_outstanding dispatcher (·.prefillId = serverId) other
  rw [none] at split
  exact split.symm

theorem Settled.markDown (settled : dispatcher.Settled) (idle : dispatcher.outstanding serverId = 0) :
    (dispatcher.markDown serverId).1.Settled := by
  unfold Dispatcher.markDown
  have marked : ({ dispatcher with
      registry := (dispatcher.registry.markDown serverId).2 } : Dispatcher).Settled :=
    settled.of_load (PrefillRegistry.load_markDown _ _) rfl
  cases known : (dispatcher.registry.markDown serverId).1 with
  | false => simpa [known] using marked
  | true =>
    simp only [known, ↓reduceIte, Dispatcher.onPrefillDown]
    exact {
      counted := fun peer member =>
        (marked.counted peer member).trans (takeTasks_idle idle peer.serverId).symm
      known := marked.known.of_sublist (fun _ _ => mem_takeTasks) fun _ => id }

theorem recordTimeout_load (options : Options) (dispatcher : Dispatcher) (prefillId : ServerId)
    (now : Time) :
    (recordTimeout options dispatcher prefillId now).registry.load = dispatcher.registry.load ∧
      (recordTimeout options dispatcher prefillId now).inFlight = dispatcher.inFlight := by
  unfold recordTimeout
  split
  · simp only
    split
    · exact ⟨PrefillRegistry.load_setAcceptingTasks _ _ _, rfl⟩
    · exact ⟨rfl, rfl⟩
  · exact ⟨rfl, rfl⟩

theorem setAcceptingTasks_foldl_load (recovered : List ServerId) (dispatcher : Dispatcher) :
    (recovered.foldl (setAcceptingTasks · · true) dispatcher).registry.load =
        dispatcher.registry.load ∧
      (recovered.foldl (setAcceptingTasks · · true) dispatcher).inFlight = dispatcher.inFlight := by
  induction recovered generalizing dispatcher with
  | nil => exact ⟨rfl, rfl⟩
  | cons serverId rest ih =>
    obtain ⟨load, inFlight⟩ := ih (dispatcher.setAcceptingTasks serverId true)
    exact ⟨load.trans (PrefillRegistry.load_setAcceptingTasks _ _ _), inFlight⟩

/-- The tasks that timed out are taken off one by one. -/
theorem failTimedOut_foldl (options : Options) (now : Time) (tasks : List (TaskId × InFlightEntry))
    {expected : ServerId → Nat} (counted : dispatcher.registry.Counts fun serverId =>
      expected serverId + (tasks.map fun task => assigned serverId task.1 task.2).sum) :
    (tasks.foldl (failTimedOut options now) dispatcher).registry.Counts expected ∧
      (tasks.foldl (failTimedOut options now) dispatcher).inFlight = dispatcher.inFlight ∧
      ∀ serverId, dispatcher.registry.Knows serverId →
        (tasks.foldl (failTimedOut options now) dispatcher).registry.Knows serverId := by
  induction tasks generalizing dispatcher with
  | nil => exact ⟨by simpa using counted, rfl, fun _ => id⟩
  | cons task rest ih =>
    obtain ⟨load, inFlight⟩ := recordTimeout_load options
      (dispatcher.decrementInflight task.2.prefillId) task.2.prefillId now
    have decremented : (dispatcher.registry.decrementInflight task.2.prefillId).Counts
        fun serverId => expected serverId +
          (rest.map fun task => assigned serverId task.1 task.2).sum := by
      refine counted.decrement _ fun serverId => ?_
      rw [List.map_cons, List.sum_cons]
      simp only [assigned]
      omega
    have nextCounted : (failTimedOut options now dispatcher task).registry.Counts
        fun serverId => expected serverId +
          (rest.map fun task => assigned serverId task.1 task.2).sum := by
      rw [PrefillRegistry.counts_iff, failTimedOut, load]
      exact PrefillRegistry.counts_iff.mp decremented
    obtain ⟨restCounted, restInFlight, restKnows⟩ := ih nextCounted
    refine ⟨restCounted, restInFlight.trans inFlight, fun serverId knows => restKnows _ ?_⟩
    rw [PrefillRegistry.knows_iff, failTimedOut, load, ← PrefillRegistry.knows_iff]
    exact PrefillRegistry.knows_decrementInflight.mpr knows

section

variable (settled : dispatcher.Settled)
include settled

/-- All tasks of a kind are taken off with their counters. -/
theorem Settled.failTimedOut (options : Options) (now : Time) (taken : InFlightEntry → Bool) :
    ((dispatcher.takeTasks taken).1.foldl (failTimedOut options now)
      (dispatcher.takeTasks taken).2).Settled := by
  have left : (dispatcher.takeTasks taken).2.registry.Counts fun serverId =>
      (dispatcher.takeTasks taken).2.outstanding serverId +
        ((dispatcher.takeTasks taken).1.map fun task => assigned serverId task.1 task.2).sum :=
    fun peer member => (settled.counted peer member).trans
      (takeTasks_outstanding dispatcher taken peer.serverId)
  obtain ⟨counted, tasks, servers⟩ := failTimedOut_foldl options now _ left
  exact {
    counted := by
      rw [outstanding_congr tasks]
      exact counted
    known := settled.known.of_sublist (fun _ _ member => mem_takeTasks (tasks ▸ member)) servers }

theorem Settled.onRequestTimeouts (options : Options) (now : Time) :
    (onRequestTimeouts options dispatcher now).1.Settled := by
  obtain ⟨load, inFlight⟩ := setAcceptingTasks_foldl_load (dispatcher.takeRecovered now).1
    (dispatcher.takeRecovered now).2
  have recovered := settled.of_load load inFlight
  unfold Dispatcher.onRequestTimeouts
  simp only
  split
  · exact recovered
  · exact recovered.failTimedOut options now _

theorem Settled.onRegistration (serverId : ServerId) (maxInFlight : Nat) :
    (dispatcher.onRegistration serverId maxInFlight).Settled := by
  have registered : ({ dispatcher with
      registry := dispatcher.registry.preRegister serverId } : Dispatcher).Settled := by
    rcases dispatcher.registry.load_preRegister serverId with same | ⟨unknown, added⟩
    · exact settled.of_load same rfl
    · refine ⟨?_, settled.known.of_sublist (fun _ _ => id) fun other known => ?_⟩
      · rw [PrefillRegistry.counts_iff, added]
        intro entry member
        rcases List.mem_append.mp member with earlier | new
        · exact PrefillRegistry.counts_iff.mp settled.counted entry earlier
        · obtain rfl := List.mem_singleton.mp new
          exact (outstanding_unknown settled.known unknown).symm
      · rw [PrefillRegistry.knows_iff, added, List.map_append]
        exact List.mem_append_left _ (PrefillRegistry.knows_iff.mp known)
  exact registered.of_load (PrefillRegistry.load_markRegistered _ _ _) rfl

/-- What every good event keeps. -/
theorem Settled.next {options : Options} {event : Event} (fresh : dispatcher.FreshTask event)
    (returns : dispatcher.ReturnsCounts event) : (dispatcher.next options event).Settled := by
  cases event with
  | request msg now sent => exact settled.onPrefillRequest fresh now sent
  | result fromServerId msg => exact settled.onPrefillResult returns
  | cancel taskId => exact settled.onPrefillCancel taskId
  | down serverId => exact settled.markDown returns
  | timeouts now => exact settled.onRequestTimeouts options now
  | registration serverId maxInFlight => exact settled.onRegistration serverId maxInFlight
  | cacheBlocksAdded serverId blockHashes =>
    exact settled.of_load (PrefillRegistry.load_addCachedBlocks _ _ _) rfl

/-- A result of another server leaves the counter of the task's server as it was. -/
theorem ownResult_of_counted {fromServerId : ServerId} {msg : PrefillResultMessage}
    (counted : (dispatcher.onPrefillResult fromServerId msg).1.registry.Counts
      (dispatcher.onPrefillResult fromServerId msg).1.outstanding) :
    dispatcher.ReturnsCounts (.result fromServerId msg) := by
  intro entry found
  by_contra stray
  simp only [Dispatcher.onPrefillResult, Dispatcher.takeTask, found] at counted
  obtain ⟨peer, inRegistry, same⟩ :=
    settled.known msg.taskId entry (Table.mem_entries.mpr found)
  have before := settled.counted peer inRegistry
  have after := counted peer
    (PrefillRegistry.mem_decrementInflight_other inRegistry (same ▸ stray))
  have removed := takeTask_some found peer.serverId
  rw [if_pos same.symm] at removed
  have taken : ({ dispatcher with inFlight := dispatcher.inFlight.erase msg.taskId } :
      Dispatcher).outstanding peer.serverId = peer.inFlight := after.symm
  simp only [Dispatcher.takeTask, taken] at removed
  omega

/-- The counter of a server that is lost stays, and its tasks go. -/
theorem idle_of_counted (counted : (dispatcher.markDown serverId).1.registry.Counts
      (dispatcher.markDown serverId).1.outstanding) : dispatcher.outstanding serverId = 0 := by
  by_cases known : dispatcher.registry.Knows serverId
  · simp only [markDown, PrefillRegistry.markDown_wasKnown known, ↓reduceIte,
      onPrefillDown] at counted
    obtain ⟨peer, inRegistry, rfl⟩ := known
    have before := settled.counted peer inRegistry
    have kept : (peer.serverId, peer.inFlight) ∈
        (dispatcher.registry.markDown peer.serverId).2.load := by
      rw [PrefillRegistry.load_markDown]
      exact List.mem_map_of_mem inRegistry
    have after := PrefillRegistry.counts_iff.mp counted _ kept
    have none : (Dispatcher.takeTasks
        { dispatcher with registry := (dispatcher.registry.markDown peer.serverId).2 }
        (·.prefillId = peer.serverId)).2.outstanding peer.serverId = 0 := by
      refine List.countP_eq_zero.mpr fun entry member assigned => ?_
      have left := (Table.mem_eraseIf.mp member).2
      simp_all
    exact before.symm.trans (after.trans none)
  · exact outstanding_unknown settled.known known

/-- An event after which the counters agree has given back what it took. -/
theorem returnsCounts_of_counted {options : Options} {event : Event}
    (counted : (dispatcher.next options event).registry.Counts
      (dispatcher.next options event).outstanding) : dispatcher.ReturnsCounts event := by
  cases event with
  | result fromServerId msg => exact ownResult_of_counted settled counted
  | down serverId => exact idle_of_counted settled counted
  | request | cancel | timeouts | registration | cacheBlocksAdded => trivial

end

/-- In a run with fresh task ids the counters agree with the tasks in every state exactly
when each result comes from its task's server and no server with tasks is lost. -/
theorem inflight_accounted (options : Options) (events : List Event)
    (fresh : EachStep (next options) FreshTask {} events) :
    EachState (next options) Accurate {} events ↔
      EachStep (next options) ReturnsCounts {} events := by
  refine eachState_iff_eachStep Settled
    (fun dispatcher settled => accurate_iff.mpr settled.counted)
    (fun dispatcher event settled fresh returns => settled.next fresh returns)
    (fun dispatcher event settled _ accurate =>
      returnsCounts_of_counted settled (accurate_iff.mp accurate)) ?_ fresh
  exact ⟨fun peer member => (List.not_mem_nil member).elim,
    fun taskId entry member => (List.not_mem_nil member).elim⟩

/-- A task that is served, and one that is cancelled after a server without tasks was lost. -/
def servedTasks : List Event :=
  [.registration "A" 4, .request { taskId := 1 } 0 true, .registration "B" 4,
    .result "A" { taskId := 1 }, .down "B", .request { taskId := 2 } 10 true, .cancel 2]

theorem inflight_accounted_served : EachState (next .default) Accurate {} servedTasks :=
  (inflight_accounted .default servedTasks (by decide +kernel)).mpr (by decide +kernel)

/-- A server is lost with its task. -/
def lostServer : List Event :=
  [.registration "A" 4, .request { taskId := 1 } 0 true, .down "A"]

/-- Its counter stays at one. -/
theorem inflight_not_accounted : ¬∀ (options : Options) (events : List Event),
    EachStep (next options) FreshTask {} events →
      EachState (next options) Accurate {} events := by
  intro claim
  have accurate := claim .default lostServer (by decide +kernel) lostServer List.prefix_rfl
  have peers : (lostServer.foldl (next .default) {}).registry.prefills =
      [{ serverId := "A", inFlight := 1, maxInFlight := 4 }] := by decide +kernel
  have tasks : (lostServer.foldl (next .default) {}).outstanding "A" = 0 := by decide +kernel
  have counted := accurate.counted
  rw [PrefillRegistry.Counts, peers] at counted
  have wrong := counted _ (List.mem_singleton_self _)
  rw [tasks] at wrong
  exact absurd wrong (by decide)

end Dispatcher

end InferenceServer.Gateway
