import InferenceServer.RemoteKv.StatusTable

/-! Bursts of migrations and the poll that reports each of them once. The calls of the adapter and
the parts of a poll between two locks interleave in any way, and meanwhile the manager of the
migrations goes on. Callbacks run outside the lock and may call the adapter again. -/
namespace InferenceServer.RemoteKv

open Machine

/-- The manager of the migrations as the adapter sees it: the call that sends one, which names a
new id, the status of each, and what happens to it by itself. -/
structure IRemoteKvManager (Manager Event : Type*) where
  migrate : Manager → UInt64 → Int → Option Manager
  getMigrationStatus : Manager → UInt64 → MigrationStatus
  step : Manager → Event → Option Manager

/-- What a callback tells. -/
inductive Signal
  | complete (ok : Bool)
  | failed
  deriving DecidableEq

/-- An event for a burst; `burst` is the number of the burst, which only a reader of the log sees. -/
structure Report where
  token : UInt64
  burst : Nat
  signal : Signal
  deriving DecidableEq

/-- `startedAt` is the number of the burst among all that were started. -/
structure MigrationGroup where
  startedAt : Nat
  pendingKafkaIds : Finset UInt64 := ∅
  closed : Bool := false
  failed : Bool := false
  failedReported : Bool := false
  deriving DecidableEq

/-- A poll between its first lock and its last callback. -/
structure Poll where
  toCheck : List UInt64
  status : Option (UInt64 × MigrationStatus) := none
  swept : Bool := false
  failuresToFire : List Report := []
  completionsToFire : List Report := []
  deriving DecidableEq

/-- Which callbacks are registered. -/
structure Callbacks where
  onComplete : Bool
  onFailed : Bool

/-- The adapter with the enqueue that holds the lock, the burst and the layers left of it, and with
a log: what was fired, the bursts that were started with their uuids, and which burst each request
is for. -/
structure RemoteKvManagerAdapter (Manager : Type*) where
  kvManager : Manager
  shutdownRequested : Bool := false
  groups : Table UInt64 MigrationGroup := ∅
  kafkaToGroup : Table UInt64 UInt64 := ∅
  enqueuing : Option (UInt64 × Nat) := none
  poll : Option Poll := none
  fired : List Report := []
  started : Nat := 0
  uuids : Table Nat UInt64 := ∅
  requests : Table UInt64 Nat := ∅

inductive Call (Event : Type*)
  | startBurst (uuid : UInt64)
  | enqueueMigrationInBurst (burst : UInt64) (layerStart layerEndExclusive : UInt32)
      (posStart posEndExclusive : UInt32)
  | migrateLayer (id : UInt64) (now : Int)
  | finishBurst (burst : UInt64)
  | shutdown
  | pollBegin (toCheck : List UInt64)
  | readStatus
  | handleStatus
  | sweepGroups
  | fire
  | manager (event : Event)

namespace MigrationGroup

/-- All requests of a closed burst are over. -/
def Done (group : MigrationGroup) : Prop := group.closed ∧ group.pendingKafkaIds = ∅

instance (group : MigrationGroup) : Decidable group.Done := inferInstanceAs (Decidable (_ ∧ _))

def completion (callbacks : Callbacks) (token : UInt64) (group : MigrationGroup) : List Report :=
  if !group.failed then [⟨token, group.startedAt, .complete true⟩]
  else if !callbacks.onFailed then [⟨token, group.startedAt, .complete false⟩]
  else []

/-- A request of the burst is over. -/
def settle (group : MigrationGroup) (id : UInt64) (status : MigrationStatus) : MigrationGroup :=
  let group := { group with pendingKafkaIds := group.pendingKafkaIds.erase id }
  if status = .failed then { group with failed := true, failedReported := true } else group

def failure (token : UInt64) (group : MigrationGroup) (status : MigrationStatus) : List Report :=
  if status = .failed ∧ !group.failedReported then [⟨token, group.startedAt, .failed⟩] else []

end MigrationGroup

namespace RemoteKvManagerAdapter

variable {Manager Event : Type*} (callbacks : Callbacks) (adapter : RemoteKvManagerAdapter Manager)

def fires (registered : Bool) (report : Report) : List Report :=
  if registered then adapter.fired ++ [report] else adapter.fired

/-- A group that is done makes way for its event. -/
def retireIfDone (adapter : RemoteKvManagerAdapter Manager) (token : UInt64) :
    RemoteKvManagerAdapter Manager :=
  match adapter.groups.lookup token with
  | none => adapter
  | some group =>
    if group.Done then { adapter with
      groups := adapter.groups.erase token
      poll := adapter.poll.map fun poll => { poll with
        completionsToFire := poll.completionsToFire ++ group.completion callbacks token } }
    else adapter

/-- The status that was read last is looked up again under the lock, with the group it is for. -/
def handleStatus (adapter : RemoteKvManagerAdapter Manager) (poll : Poll) (id : UInt64)
    (status : MigrationStatus) : RemoteKvManagerAdapter Manager :=
  let poll := { poll with status := none }
  match adapter.kafkaToGroup.lookup id with
  | none => { adapter with poll := some poll }
  | some token =>
    let adapter := { adapter with kafkaToGroup := adapter.kafkaToGroup.erase id }
    match adapter.groups.lookup token with
    | none => { adapter with poll := some poll }
    | some group => retireIfDone callbacks { adapter with
        groups := adapter.groups.insert token (group.settle id status)
        poll := some { poll with
          failuresToFire := poll.failuresToFire ++ group.failure token status } } token

/-- One layer of the enqueue under way, sent and entered. -/
def migrateLayer (kvManager : Manager) (burst : UInt64) (left : Nat) (group : MigrationGroup)
    (id : UInt64) : RemoteKvManagerAdapter Manager :=
  { adapter with
    kvManager
    groups := adapter.groups.insert burst
      { group with pendingKafkaIds := insert id group.pendingKafkaIds }
    kafkaToGroup := if (adapter.kafkaToGroup.lookup id).isSome then adapter.kafkaToGroup
      else adapter.kafkaToGroup.insert id burst
    enqueuing := if left ≤ 1 then none else some (burst, left - 1)
    requests := adapter.requests.insert id group.startedAt }

/-- The next callback, or the end of the poll. -/
def fire (adapter : RemoteKvManagerAdapter Manager) (poll : Poll) :
    RemoteKvManagerAdapter Manager :=
  match poll.failuresToFire, poll.completionsToFire with
  | report :: rest, _ => { adapter with
      fired := adapter.fires callbacks.onFailed report
      poll := some { poll with failuresToFire := rest } }
  | [], report :: rest => { adapter with
      fired := adapter.fires callbacks.onComplete report
      poll := some { poll with completionsToFire := rest } }
  | [], [] => { adapter with poll := none }

/-- A call that throws changes nothing. Steps that need the lock wait for an enqueue to end. -/
def step (kv : IRemoteKvManager Manager Event) (callbacks : Callbacks)
    (adapter : RemoteKvManagerAdapter Manager) : Call Event →
    Option (RemoteKvManagerAdapter Manager)
  | .startBurst uuid =>
    if adapter.enqueuing.isSome then none
    else if adapter.shutdownRequested ∨ (adapter.groups.lookup uuid).isSome then some adapter
    else some { adapter with
      groups := adapter.groups.insert uuid { startedAt := adapter.started }
      started := adapter.started + 1
      uuids := adapter.uuids.insert adapter.started uuid }
  | .enqueueMigrationInBurst burst layerStart layerEndExclusive posStart posEndExclusive =>
    if layerEndExclusive ≤ layerStart ∨ posEndExclusive ≤ posStart then some adapter
    else if adapter.enqueuing.isSome then none
    else if adapter.shutdownRequested then some adapter
    else
      match adapter.groups.lookup burst with
      | none => some adapter
      | some group =>
        if group.closed then some adapter
        else some { adapter with
          enqueuing := some (burst, (layerEndExclusive - layerStart).toNat) }
  | .migrateLayer id now =>
    match adapter.enqueuing with
    | none => none
    | some (burst, left) =>
      match adapter.groups.lookup burst, kv.migrate adapter.kvManager id now with
      | some group, some kvManager =>
        -- the ids of requests are distinct
        if (adapter.requests.lookup id).isSome then none
        else some (adapter.migrateLayer kvManager burst left group id)
      | _, _ => none
  | .finishBurst burst =>
    if adapter.enqueuing.isSome then none
    else
      match adapter.groups.lookup burst with
      | none => some adapter
      | some group =>
        if group.closed then some adapter
        else some { adapter with groups := adapter.groups.insert burst { group with closed := true } }
  | .shutdown =>
    if adapter.enqueuing.isSome then none else some { adapter with shutdownRequested := true }
  | .pollBegin toCheck =>
    if adapter.poll.isSome ∨ adapter.enqueuing.isSome then none
    -- the order in which the map is walked is open
    else if toCheck.Perm (adapter.kafkaToGroup.entries.map (·.1)) then
      some { adapter with poll := some { toCheck } }
    else none
  | .readStatus =>
    match adapter.poll with
    | none => none
    | some poll =>
      match poll.toCheck, poll.status with
      | id :: rest, none =>
        let status := kv.getMigrationStatus adapter.kvManager id
        let status := if status = .inProgress ∨ status = .unknown then none else some (id, status)
        some { adapter with poll := some { poll with toCheck := rest, status } }
      | _, _ => none
  | .handleStatus =>
    match adapter.poll with
    | none => none
    | some poll =>
      match poll.status with
      | none => none
      | some (id, status) =>
        if adapter.enqueuing.isSome then none
        else some (adapter.handleStatus callbacks poll id status)
  | .sweepGroups =>
    match adapter.poll with
    | none => none
    | some poll =>
      if poll.toCheck ≠ [] ∨ poll.status.isSome ∨ poll.swept ∨ adapter.enqueuing.isSome then none
      else some ((adapter.groups.entries.map (·.1)).foldl (retireIfDone callbacks)
        { adapter with poll := some { poll with swept := true } })
  | .fire =>
    match adapter.poll with
    | none => none
    | some poll => if poll.swept then some (adapter.fire callbacks poll) else none
  | .manager event =>
    (kv.step adapter.kvManager event).map fun kvManager => { adapter with kvManager }

end RemoteKvManagerAdapter

end InferenceServer.RemoteKv
