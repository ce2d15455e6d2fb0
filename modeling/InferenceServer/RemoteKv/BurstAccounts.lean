import InferenceServer.RemoteKv.BurstReports
import InferenceServer.RemoteKv.BurstSteps

/-! The books of the bursts are kept by every call. -/
namespace InferenceServer.RemoteKv

open Machine

variable {Manager Event : Type*} {kv : IRemoteKvManager Manager Event}
variable {allowed : Manager → Event → Prop} {callbacks : Callbacks}
variable {adapter after : RemoteKvManagerAdapter Manager}

/-- What the adapter relies on: a new migration is in progress, none other changes with it, and a
status changes only where one in progress ends. -/
structure IRemoteKvManager.Lawful (kv : IRemoteKvManager Manager Event)
    (allowed : Manager → Event → Prop) : Prop where
  migrate : ∀ manager id now later, kv.migrate manager id now = some later →
    kv.getMigrationStatus later id = .inProgress ∧ ∀ other, other ≠ id →
      kv.getMigrationStatus later other = kv.getMigrationStatus manager other
  step : ∀ manager event later, allowed manager event → kv.step manager event = some later →
    ∀ id, kv.getMigrationStatus later id = kv.getMigrationStatus manager id ∨
      kv.getMigrationStatus manager id = .inProgress ∧ (kv.getMigrationStatus later id).Terminal

/-- A poll looks only at requests, and what it has read of one stands. -/
structure Poll.Sound (status : UInt64 → MigrationStatus) (requests : Table UInt64 Nat)
    (poll : Poll) : Prop where
  checked : ∀ id ∈ poll.toCheck, (requests.lookup id).isSome
  read : ∀ id isOver, poll.status = some (id, isOver) →
    (requests.lookup id).isSome ∧ isOver.Terminal ∧ status id = isOver

/-- The tables agree, and each burst that was started has one event: fired, due or owed. -/
structure Accounted (kv : IRemoteKvManager Manager Event) (callbacks : Callbacks)
    (adapter : RemoteKvManagerAdapter Manager) : Prop where
  grouped : Grouped (kv.getMigrationStatus adapter.kvManager) adapter.started adapter.requests
    adapter.groups adapter.kafkaToGroup
  reported : Reported (kv.getMigrationStatus adapter.kvManager) adapter.started adapter.requests
    adapter.groups adapter.reports
  counted : ∀ burst, countOf burst adapter.fired + countOf burst (adapter.due callbacks) +
    adapter.groups.total (owes callbacks burst) = if burst < adapter.started then 1 else 0
  enqueuing : ∀ burst left, adapter.enqueuing = some (burst, left) →
    ∃ group, adapter.groups.lookup burst = some group ∧ group.closed = false
  polled : ∀ poll, adapter.poll = some poll →
    poll.Sound (kv.getMigrationStatus adapter.kvManager) adapter.requests

theorem Poll.Sound.later {status newStatus : UInt64 → MigrationStatus} {requests : Table UInt64 Nat}
    {poll : Poll} (sound : poll.Sound status requests)
    (settles : Settles requests status newStatus) : poll.Sound newStatus requests := by
  refine ⟨sound.checked, fun id isOver read => ?_⟩
  obtain ⟨asked, terminal, same⟩ := sound.read id isOver read
  obtain ⟨burst, known⟩ := Option.isSome_iff_exists.mp asked
  exact ⟨asked, terminal, (settles.kept known (same ▸ terminal)).trans same⟩

theorem Poll.Sound.request {status : UInt64 → MigrationStatus} {requests : Table UInt64 Nat}
    {poll : Poll} (sound : poll.Sound status requests) (id : UInt64) (burst : Nat) :
    poll.Sound status (requests.insert id burst) := by
  have kept : ∀ other, (requests.lookup other).isSome →
      ((requests.insert id burst).lookup other).isSome := by
    intro other asked
    rw [Table.lookup_insert_if]
    split
    · rfl
    · exact asked
  refine ⟨fun other member => kept other (sound.checked other member), fun other isOver read => ?_⟩
  obtain ⟨asked, rest⟩ := sound.read other isOver read
  exact ⟨kept other asked, rest⟩

namespace Accounted

theorem initial (manager : Manager) : Accounted kv callbacks { kvManager := manager } := by
  refine ⟨⟨⟨nofun, nofun⟩, nofun, fun id token => ⟨nofun, ?_⟩, nofun⟩, .nil, fun burst => rfl,
    nofun, nofun⟩
  rintro ⟨_, absent, _⟩
  cases absent

/-- The manager goes on. -/
theorem later (accounted : Accounted kv callbacks adapter) {kvManager : Manager}
    (settles : Settles adapter.requests (kv.getMigrationStatus adapter.kvManager)
      (kv.getMigrationStatus kvManager)) :
    Accounted kv callbacks { adapter with kvManager } :=
  ⟨accounted.grouped.later settles, accounted.reported.later settles, accounted.counted,
    accounted.enqueuing, fun poll polling => (accounted.polled poll polling).later settles⟩

theorem startBurst (accounted : Accounted kv callbacks adapter) {uuid : UInt64}
    (idle : adapter.enqueuing = none) (new : adapter.groups.lookup uuid = none) :
    Accounted kv callbacks { adapter with
      groups := adapter.groups.insert uuid { startedAt := adapter.started }
      started := adapter.started + 1
      uuids := adapter.uuids.insert adapter.started uuid } := by
  refine ⟨accounted.grouped.start new, accounted.reported.start uuid, fun burst => ?_,
    fun burst left busy => ?_, accounted.polled⟩
  · have before := accounted.counted burst
    have owed : owes callbacks burst uuid { startedAt := adapter.started } =
        if adapter.started = burst then 1 else 0 := by
      simp [owes]
    change countOf burst adapter.fired + countOf burst (adapter.due callbacks) +
      Table.total (owes callbacks burst) (adapter.groups.insert uuid _) = _
    rw [Table.total_insert_new _ new, owed, ← Nat.add_assoc, before]
    dsimp only
    split <;> split <;> split <;> omega
  · rw [idle] at busy
    cases busy

variable {group : MigrationGroup} {id : UInt64} {poll : Poll}

section

variable (accounted : Accounted kv callbacks adapter)
include accounted

/-- The group of a burst changes in what its event does not depend on. -/
theorem replace {token : UInt64} {changed : MigrationGroup} (idle : adapter.enqueuing = none)
    (found : adapter.groups.lookup token = some group) (same : changed.startedAt = group.startedAt)
    (failed : changed.failed = group.failed)
    (pending : changed.pendingKafkaIds = group.pendingKafkaIds)
    (own : GroupOwn (kv.getMigrationStatus adapter.kvManager) adapter.requests changed) :
    Accounted kv callbacks { adapter with groups := adapter.groups.insert token changed } := by
  refine ⟨accounted.grouped.replace found same pending own, accounted.reported.replace found same,
    fun burst => ?_, fun burst left busy => ?_, accounted.polled⟩
  · have moved := @total_owes_replace callbacks burst token group adapter.groups found changed
    rw [owes_congr same failed] at moved
    rw [← accounted.counted burst]
    exact congrArg _ (Nat.add_right_cancel moved)
  · rw [idle] at busy
    cases busy

theorem migrateLayer {burst : UInt64} {left : Nat} {kvManager : Manager}
    (busy : adapter.enqueuing = some (burst, left))
    (found : adapter.groups.lookup burst = some group)
    (settles : Settles adapter.requests (kv.getMigrationStatus adapter.kvManager)
      (kv.getMigrationStatus kvManager)) (new : adapter.requests.lookup id = none) :
    Accounted kv callbacks (adapter.migrateLayer kvManager burst left group id) := by
  have next := accounted.later settles
  refine ⟨next.grouped.layer found new, (next.reported.request found new).replace found rfl,
    fun number => ?_, fun other remaining more => ?_, fun poll polling => ?_⟩
  · have moved := @total_owes_replace callbacks number burst group adapter.groups found
      { group with pendingKafkaIds := insert id group.pendingKafkaIds }
    change countOf number adapter.fired + countOf number (adapter.due callbacks) +
      Table.total (owes callbacks number) (adapter.groups.insert burst _) = _
    rw [Nat.add_right_cancel moved]
    exact accounted.counted number
  · obtain ⟨opened, present, open_⟩ := accounted.enqueuing burst left busy
    obtain rfl := Option.some.inj (found.symm.trans present)
    obtain rfl : burst = other := by
      unfold RemoteKvManagerAdapter.migrateLayer at more
      dsimp only at more
      split at more
      · cases more
      · exact congrArg Prod.fst (Option.some.inj more)
    exact ⟨_, AList.lookup_insert _, open_⟩
  · exact (next.polled poll polling).request id group.startedAt

/-- A group that is done retires, and its event waits in the poll. -/
theorem retireIfDone (idle : adapter.enqueuing = none) (polling : adapter.poll.isSome)
    (token : UInt64) : Accounted kv callbacks (adapter.retireIfDone callbacks token) ∧
      (adapter.retireIfDone callbacks token).enqueuing = none ∧
      (adapter.retireIfDone callbacks token).poll.isSome := by
  unfold RemoteKvManagerAdapter.retireIfDone
  split
  · exact ⟨accounted, idle, polling⟩
  · rename_i group found
    split
    · rename_i done
      obtain ⟨poll, current⟩ := Option.isSome_iff_exists.mp polling
      have retired := @Reported.retire _ _ _ _ _ token group accounted.reported _
        accounted.grouped callbacks found done.2
      refine ⟨⟨accounted.grouped.retire found done.2, ?_, fun burst => ?_, fun burst left busy => ?_,
        fun later polling => ?_⟩, idle, ?_⟩
      · refine retired.sublist fun report member => ?_
        simpa only [RemoteKvManagerAdapter.reports, current, Option.map_some, Option.elim_some,
          Poll.reports, List.append_assoc] using member
      · have due : RemoteKvManagerAdapter.due callbacks { adapter with
            groups := adapter.groups.erase token
            poll := adapter.poll.map fun poll => { poll with
              completionsToFire := poll.completionsToFire ++ group.completion callbacks token } } =
            adapter.due callbacks ++ group.completion callbacks token := by
          simp [RemoteKvManagerAdapter.due, current, Poll.due]
        rw [due, countOf_append, countOf_completion, ← accounted.counted burst,
          Table.total_erase (owes callbacks burst) found]
        dsimp only
        omega
      · rw [idle] at busy
        cases busy
      · rw [current] at polling
        cases polling
        exact ⟨(accounted.polled poll current).checked, (accounted.polled poll current).read⟩
      · rw [current]
        rfl
    · exact ⟨accounted, idle, polling⟩

section

variable (polling : adapter.poll = some poll)
include polling

/-- The end of a request is entered in its group. -/
theorem settle {token : UInt64} {status : MigrationStatus} (read : poll.status = some (id, status))
    (idle : adapter.enqueuing = none) (known : adapter.kafkaToGroup.lookup id = some token)
    (found : adapter.groups.lookup token = some group) :
    Accounted kv callbacks { adapter with
      kafkaToGroup := adapter.kafkaToGroup.erase id
      groups := adapter.groups.insert token (group.settle id status)
      poll := some { poll with
        status := none
        failuresToFire := poll.failuresToFire ++ group.failure token status } } := by
  have sound := accounted.polled poll polling
  obtain ⟨_, isOver, rfl⟩ := sound.read id status read
  obtain ⟨_, asked⟩ := accounted.grouped.asked known found
  have own := accounted.grouped.own token group found
  refine ⟨accounted.grouped.settle known found isOver, ?_, fun burst => ?_, fun burst left busy => ?_,
    fun later polling => ?_⟩
  · have before := accounted.reported.replace found (startedAt_settle group id
      (kv.getMigrationStatus adapter.kvManager id))
    refine (before.append (@Reported.failure _ _ _ _ token group id asked)).sublist
      fun report member => ?_
    simp only [RemoteKvManagerAdapter.reports, polling, Option.elim_some, Poll.reports,
      List.mem_append] at member ⊢
    tauto
  · have moved := @total_owes_replace callbacks burst token group adapter.groups found
      (group.settle id (kv.getMigrationStatus adapter.kvManager id))
    have owed := @countOf_failure callbacks burst token group own.reported id
      (kv.getMigrationStatus adapter.kvManager id)
    have before := accounted.counted burst
    have due : ∀ failures, countOf burst (Poll.due callbacks { poll with
          status := none, failuresToFire := poll.failuresToFire ++ failures }) =
        countOf burst (poll.due callbacks) +
          countOf burst (if callbacks.onFailed then failures else []) := by
      intro failures
      simp only [Poll.due, countOf_append]
      split <;> simp only [countOf_append, countOf_nil] <;> omega
    simp only [RemoteKvManagerAdapter.due, polling, Option.elim_some] at before ⊢
    rw [due, ← before]
    omega
  · rw [idle] at busy
    cases busy
  · cases polling
    exact ⟨sound.checked, nofun⟩

/-- A poll goes on with the events that it has. -/
theorem repoll {changed : Poll} (failures : changed.failuresToFire = poll.failuresToFire)
    (completions : changed.completionsToFire = poll.completionsToFire)
    (sound : changed.Sound (kv.getMigrationStatus adapter.kvManager) adapter.requests) :
    Accounted kv callbacks { adapter with poll := some changed } := by
  refine ⟨accounted.grouped, accounted.reported.sublist fun report member => ?_, fun burst => ?_,
    accounted.enqueuing, fun later current => ?_⟩
  · simpa only [RemoteKvManagerAdapter.reports, polling, Option.elim_some, Poll.reports, failures,
      completions] using member
  · have before := accounted.counted burst
    simp only [RemoteKvManagerAdapter.due, polling, Option.elim_some, Poll.due] at before
    simpa only [RemoteKvManagerAdapter.due, Option.elim_some, Poll.due, failures, completions]
      using before
  · cases current
    exact sound

theorem handleStatus {status : MigrationStatus} (read : poll.status = some (id, status))
    (idle : adapter.enqueuing = none) :
    Accounted kv callbacks (adapter.handleStatus callbacks poll id status) := by
  unfold RemoteKvManagerAdapter.handleStatus
  have sound := accounted.polled poll polling
  have forgets : Accounted kv callbacks
      { adapter with poll := some { poll with status := none } } :=
    accounted.repoll polling rfl rfl ⟨sound.checked, nofun⟩
  split
  · exact forgets
  · rename_i token known
    dsimp only
    split
    · rename_i absent
      obtain ⟨group, found, _⟩ := (accounted.grouped.mapped id token).mp known
      rw [absent] at found
      cases found
    · rename_i group found
      exact ((accounted.settle polling read idle known found).retireIfDone idle rfl token).1

end

/-- The groups that are done retire one after the other. -/
theorem sweepGroups (idle : adapter.enqueuing = none) (polling : adapter.poll.isSome)
    (tokens : List UInt64) : Accounted kv callbacks (tokens.foldl
      (RemoteKvManagerAdapter.retireIfDone callbacks) adapter) := by
  induction tokens generalizing adapter with
  | nil => exact accounted
  | cons token rest ih =>
    obtain ⟨accounted, idle, polling⟩ := accounted.retireIfDone idle polling token
    exact ih accounted idle polling

theorem fire (registered : callbacks.onComplete = true) (polling : adapter.poll = some poll) :
    Accounted kv callbacks (adapter.fire callbacks poll) := by
  have sound := accounted.polled poll polling
  have reported := accounted.reported
  have counted := accounted.counted
  simp only [RemoteKvManagerAdapter.reports, polling, Option.elim_some, Poll.reports] at reported
  simp only [RemoteKvManagerAdapter.due, polling, Option.elim_some, Poll.due] at counted
  unfold RemoteKvManagerAdapter.fire RemoteKvManagerAdapter.fires
  split
  · rename_i report rest failures
    rw [failures] at reported counted
    refine ⟨accounted.grouped, reported.sublist fun other member => ?_, fun burst => ?_,
      accounted.enqueuing, fun later polling => ?_⟩
    · simp only [RemoteKvManagerAdapter.reports, Option.elim_some, Poll.reports,
        List.mem_append] at member
      simp only [List.mem_append, List.mem_cons]
      split at member
      · simp only [List.mem_append, List.mem_singleton] at member
        tauto
      · tauto
    · rw [← counted burst]
      simp only [RemoteKvManagerAdapter.due, Option.elim_some, Poll.due]
      cases callbacks.onFailed
      · rfl
      · simp only [if_true, countOf_append, countOf_cons burst report rest]
        omega
    · cases polling
      exact ⟨sound.checked, sound.read⟩
  · rename_i report rest failures completions
    rw [failures, completions] at reported counted
    refine ⟨accounted.grouped, reported.sublist fun other member => ?_, fun burst => ?_,
      accounted.enqueuing, fun later polling => ?_⟩
    · simp only [RemoteKvManagerAdapter.reports, Option.elim_some, Poll.reports, failures,
        registered, if_true, List.mem_append, List.mem_singleton] at member
      simp only [List.mem_append, List.mem_cons]
      tauto
    · rw [← counted burst]
      simp [RemoteKvManagerAdapter.due, Poll.due, failures, registered, countOf_append, countOf_cons burst report rest]
      omega
    · cases polling
      exact ⟨sound.checked, sound.read⟩
  · rename_i failures completions
    rw [failures, completions] at reported counted
    refine ⟨accounted.grouped, reported.sublist fun other member => ?_, fun burst => ?_,
      accounted.enqueuing, nofun⟩
    · simpa only [RemoteKvManagerAdapter.reports, Option.elim_none, List.append_nil] using member
    · rw [← counted burst]
      simp [RemoteKvManagerAdapter.due]

/-- Every call keeps the books. -/
theorem step (lawful : kv.Lawful allowed) (registered : callbacks.onComplete = true)
    {call : Call Event} (permitted : adapter.Permitted allowed call)
    (stepped : adapter.step kv callbacks call = some after) : Accounted kv callbacks after := by
  cases does_of_step stepped with
  | nothing => exact accounted
  | startBurst idle new => exact accounted.startBurst idle new
  | @enqueue burst _ _ _ _ left group found open_ =>
    refine ⟨accounted.grouped, accounted.reported, accounted.counted, fun other more busy => ?_,
      accounted.polled⟩
    obtain rfl := congrArg Prod.fst (Option.some.inj busy)
    exact ⟨group, found, open_⟩
  | migrateLayer busy found migrated new =>
    refine accounted.migrateLayer busy found (fun other asked => .inl ?_) new
    refine (lawful.migrate _ _ _ _ migrated).2 other ?_
    rintro rfl
    rw [new] at asked
    cases asked
  | @finishBurst burst group idle found open_ =>
    have own := accounted.grouped.own burst group found
    exact accounted.replace idle found rfl rfl rfl ⟨own.pending, own.failed, own.fine, own.reported⟩
  | shutdown =>
    exact ⟨accounted.grouped, accounted.reported, accounted.counted, accounted.enqueuing,
      accounted.polled⟩
  | @pollBegin toCheck idle all =>
    have reported := accounted.reported
    have counted := accounted.counted
    simp only [RemoteKvManagerAdapter.reports, idle, Option.elim_none] at reported
    simp only [RemoteKvManagerAdapter.due, idle, Option.elim_none] at counted
    refine ⟨accounted.grouped, reported, fun burst => ?_, accounted.enqueuing,
      fun poll polling => ?_⟩
    · simp only [RemoteKvManagerAdapter.due, Option.elim_some, Poll.due, ite_self]
      exact counted burst
    · cases polling
      refine ⟨fun id member => ?_, nofun⟩
      obtain ⟨⟨key, token⟩, listed, rfl⟩ := List.mem_map.mp (all.mem_iff.mp member)
      obtain ⟨group, found, waiting⟩ := (accounted.grouped.mapped key token).mp
        (Table.mem_entries.mp listed)
      rw [(accounted.grouped.own token group found).pending key waiting]
      rfl
  | @skip poll id rest polling next before running =>
    have sound := accounted.polled poll polling
    refine accounted.repoll polling rfl rfl ⟨fun other member => ?_, sound.read⟩
    exact sound.checked other (next ▸ List.mem_cons_of_mem id member)
  | @read poll id rest polling next before isOver =>
    have sound := accounted.polled poll polling
    refine accounted.repoll polling rfl rfl ⟨fun other member => ?_, fun other status same => ?_⟩
    · exact sound.checked other (next ▸ List.mem_cons_of_mem id member)
    · obtain ⟨rfl, rfl⟩ := Prod.mk.inj (Option.some.inj same)
      exact ⟨sound.checked id (next ▸ List.mem_cons_self), isOver, rfl⟩
  | handleStatus polling read idle => exact accounted.handleStatus polling read idle
  | @sweepGroups poll polling _ _ _ idle =>
    have sound := accounted.polled poll polling
    have swept : Accounted kv callbacks
        { adapter with poll := some { poll with swept := true } } :=
      accounted.repoll polling rfl rfl ⟨sound.checked, sound.read⟩
    exact swept.sweepGroups idle rfl _
  | fire polling _ => exact accounted.fire registered polling
  | @manager event kvManager moved =>
    exact accounted.later fun id _ =>
      lawful.step _ event kvManager permitted moved id

end

end Accounted

end InferenceServer.RemoteKv
