import InferenceServer.RemoteKv.BurstAdapter

/-! What each call of the adapter does, said once. -/
namespace InferenceServer.RemoteKv

open Machine

variable {Manager Event : Type*} {kv : IRemoteKvManager Manager Event} {callbacks : Callbacks}
variable {adapter after : RemoteKvManagerAdapter Manager}

/-- What happens to the manager is allowed. -/
def RemoteKvManagerAdapter.Permitted (allowed : Manager → Event → Prop)
    (adapter : RemoteKvManagerAdapter Manager) : Call Event → Prop
  | .manager event => allowed adapter.kvManager event
  | _ => True

/-- What a call does, with what is known when it does it. -/
inductive Does (kv : IRemoteKvManager Manager Event) (callbacks : Callbacks)
    (adapter : RemoteKvManagerAdapter Manager) :
    Call Event → RemoteKvManagerAdapter Manager → Prop
  | nothing {call : Call Event} (throws : ∀ toCheck, call ≠ .pollBegin toCheck) :
      Does kv callbacks adapter call adapter
  | startBurst {uuid : UInt64} (idle : adapter.enqueuing = none)
      (new : adapter.groups.lookup uuid = none) :
      Does kv callbacks adapter (.startBurst uuid) { adapter with
        groups := adapter.groups.insert uuid { startedAt := adapter.started }
        started := adapter.started + 1
        uuids := adapter.uuids.insert adapter.started uuid }
  | enqueue {burst : UInt64} {layerStart layerEnd posStart posEnd : UInt32} {left : Nat}
      {group : MigrationGroup} (found : adapter.groups.lookup burst = some group)
      (open_ : group.closed = false) :
      Does kv callbacks adapter
        (.enqueueMigrationInBurst burst layerStart layerEnd posStart posEnd)
        { adapter with enqueuing := some (burst, left) }
  | migrateLayer {id burst : UInt64} {now : Int} {left : Nat} {group : MigrationGroup}
      {kvManager : Manager} (busy : adapter.enqueuing = some (burst, left))
      (found : adapter.groups.lookup burst = some group)
      (migrated : kv.migrate adapter.kvManager id now = some kvManager)
      (new : adapter.requests.lookup id = none) :
      Does kv callbacks adapter (.migrateLayer id now)
        (adapter.migrateLayer kvManager burst left group id)
  | finishBurst {burst : UInt64} {group : MigrationGroup} (idle : adapter.enqueuing = none)
      (found : adapter.groups.lookup burst = some group) (open_ : group.closed = false) :
      Does kv callbacks adapter (.finishBurst burst)
        { adapter with groups := adapter.groups.insert burst { group with closed := true } }
  | shutdown : Does kv callbacks adapter .shutdown { adapter with shutdownRequested := true }
  | pollBegin {toCheck : List UInt64} (idle : adapter.poll = none)
      (all : toCheck.Perm (adapter.kafkaToGroup.entries.map (·.1))) :
      Does kv callbacks adapter (.pollBegin toCheck) { adapter with poll := some { toCheck } }
  | skip {poll : Poll} {id : UInt64} {rest : List UInt64} (polling : adapter.poll = some poll)
      (next : poll.toCheck = id :: rest) (before : poll.status = none)
      (running : ¬ (kv.getMigrationStatus adapter.kvManager id).Terminal) :
      Does kv callbacks adapter .readStatus
        { adapter with poll := some { poll with toCheck := rest } }
  | read {poll : Poll} {id : UInt64} {rest : List UInt64} (polling : adapter.poll = some poll)
      (next : poll.toCheck = id :: rest) (before : poll.status = none)
      (isOver : (kv.getMigrationStatus adapter.kvManager id).Terminal) :
      Does kv callbacks adapter .readStatus { adapter with poll := some { poll with
        toCheck := rest, status := some (id, kv.getMigrationStatus adapter.kvManager id) } }
  | handleStatus {poll : Poll} {id : UInt64} {status : MigrationStatus}
      (polling : adapter.poll = some poll) (read : poll.status = some (id, status))
      (idle : adapter.enqueuing = none) :
      Does kv callbacks adapter .handleStatus (adapter.handleStatus callbacks poll id status)
  | sweepGroups {poll : Poll} (polling : adapter.poll = some poll) (checked : poll.toCheck = [])
      (handled : poll.status = none) (first : poll.swept = false)
      (idle : adapter.enqueuing = none) :
      Does kv callbacks adapter .sweepGroups
        ((adapter.groups.entries.map (·.1)).foldl (RemoteKvManagerAdapter.retireIfDone callbacks)
          { adapter with poll := some { poll with swept := true } })
  | fire {poll : Poll} (polling : adapter.poll = some poll) (swept : poll.swept = true) :
      Does kv callbacks adapter .fire (adapter.fire callbacks poll)
  | manager {event : Event} {kvManager : Manager}
      (stepped : kv.step adapter.kvManager event = some kvManager) :
      Does kv callbacks adapter (.manager event) { adapter with kvManager }

theorem does_of_step {call : Call Event}
    (stepped : adapter.step kv callbacks call = some after) : Does kv callbacks adapter call after := by
  cases call with
  | startBurst uuid =>
    simp only [RemoteKvManagerAdapter.step] at stepped
    split at stepped
    · cases stepped
    · rename_i idle
      split at stepped
      · cases stepped
        exact .nothing nofun
      · rename_i new
        cases stepped
        rw [Option.not_isSome_iff_eq_none] at idle
        rw [not_or, Option.not_isSome_iff_eq_none] at new
        exact .startBurst idle new.2
  | enqueueMigrationInBurst burst layerStart layerEnd posStart posEnd =>
    simp only [RemoteKvManagerAdapter.step] at stepped
    repeat' split at stepped
    all_goals cases stepped
    all_goals try exact .nothing nofun
    rename_i group found open_
    exact .enqueue found (Bool.eq_false_iff.mpr open_)
  | migrateLayer id now =>
    simp only [RemoteKvManagerAdapter.step] at stepped
    split at stepped
    · cases stepped
    · rename_i burst left busy
      split at stepped
      · rename_i group kvManager found migrated
        split at stepped
        · cases stepped
        · rename_i new
          cases stepped
          exact .migrateLayer busy found migrated (Option.not_isSome_iff_eq_none.mp new)
      · cases stepped
  | finishBurst burst =>
    simp only [RemoteKvManagerAdapter.step] at stepped
    split at stepped
    · cases stepped
    · rename_i idle
      split at stepped
      · cases stepped
        exact .nothing nofun
      · rename_i group found
        split at stepped
        · cases stepped
          exact .nothing nofun
        · rename_i open_
          cases stepped
          exact .finishBurst (Option.not_isSome_iff_eq_none.mp idle) found
            (Bool.eq_false_iff.mpr open_)
  | shutdown =>
    simp only [RemoteKvManagerAdapter.step] at stepped
    split at stepped
    · cases stepped
    · cases stepped
      exact .shutdown
  | pollBegin toCheck =>
    simp only [RemoteKvManagerAdapter.step] at stepped
    split at stepped
    · cases stepped
    · rename_i idle
      split at stepped
      · rename_i all
        cases stepped
        rw [not_or, Option.not_isSome_iff_eq_none] at idle
        exact .pollBegin idle.1 all
      · cases stepped
  | readStatus =>
    simp only [RemoteKvManagerAdapter.step] at stepped
    split at stepped
    · cases stepped
    · rename_i poll polling
      split at stepped
      · rename_i id rest next before
        cases stepped
        by_cases running : kv.getMigrationStatus adapter.kvManager id = .inProgress ∨
            kv.getMigrationStatus adapter.kvManager id = .unknown
        · rw [if_pos running]
          exact before ▸ .skip polling next before fun isOver => terminal_iff.mp isOver running
        · rw [if_neg running]
          exact .read polling next before (terminal_iff.mpr running)
      · cases stepped
  | handleStatus =>
    simp only [RemoteKvManagerAdapter.step] at stepped
    split at stepped
    · cases stepped
    · rename_i poll polling
      split at stepped
      · cases stepped
      · rename_i id status read
        split at stepped
        · cases stepped
        · rename_i idle
          cases stepped
          exact .handleStatus polling read (Option.not_isSome_iff_eq_none.mp idle)
  | sweepGroups =>
    simp only [RemoteKvManagerAdapter.step] at stepped
    split at stepped
    · cases stepped
    · rename_i poll polling
      split at stepped
      · cases stepped
      · rename_i ready
        cases stepped
        rw [not_or, not_or, not_or, not_not, Option.not_isSome_iff_eq_none,
          Option.not_isSome_iff_eq_none, Bool.not_eq_true] at ready
        exact .sweepGroups polling ready.1 ready.2.1 ready.2.2.1 ready.2.2.2
  | fire =>
    simp only [RemoteKvManagerAdapter.step] at stepped
    split at stepped
    · cases stepped
    · rename_i poll polling
      split at stepped
      · rename_i swept
        cases stepped
        exact .fire polling swept
      · cases stepped
  | manager event =>
    obtain ⟨kvManager, moved, rfl⟩ := Option.map_eq_some_iff.mp stepped
    exact .manager moved

end InferenceServer.RemoteKv
