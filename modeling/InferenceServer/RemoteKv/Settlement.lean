import InferenceServer.RemoteKv.BurstsReported

/-! The manager of the migrations under the adapter: every migration ends, by an acknowledgment or
by the sweep, and with it every burst, unless an acknowledgment names no outcome. -/
namespace InferenceServer.RemoteKv

open Machine

/-- The manager as the adapter has it to itself; the ids of migrations are distinct. -/
def remoteKvManager : IRemoteKvManager RemoteKvManager RemoteKvManager.Label where
  migrate manager id now :=
    if (manager.migrations.lookup id).isSome then none else manager.step (.migrate id now)
  getMigrationStatus := RemoteKvManager.getMigrationStatus
  step manager label :=
    match label with
    | .migrate _ _ => none
    | .sent id sent => manager.step (.sent id sent)
    | .ack id wire => manager.step (.ack id wire)
    | .sweep now => manager.step (.sweep now)

namespace RemoteKvManager

variable {manager : RemoteKvManager} {id : UInt64} {label : Label}
variable {later after : RemoteKvManager}

theorem step_of_migrate {now : Int} (migrated : remoteKvManager.migrate manager id now = some later) :
    manager.migrations.lookup id = none ∧ manager.step (.migrate id now) = some later := by
  simp only [remoteKvManager] at migrated
  split at migrated
  · cases migrated
  · rename_i new
    exact ⟨Option.not_isSome_iff_eq_none.mp new, migrated⟩

theorem step_of_event (stepped : remoteKvManager.step manager label = some later) :
    (∀ id now, label ≠ .migrate id now) ∧ manager.step label = some later := by
  cases label with
  | migrate id now => cases stepped
  | sent id sent => exact ⟨nofun, stepped⟩
  | ack id wire => exact ⟨nofun, stepped⟩
  | sweep now => exact ⟨nofun, stepped⟩

/-- An id that is not known before or after has no status. -/
theorem getMigrationStatus_of_unknown (unknown : manager.migrations.lookup id = none) :
    manager.getMigrationStatus id = .unknown := by
  rw [getMigrationStatus, unknown]
  rfl

/-- The manager keeps what the adapter relies on. -/
theorem remoteKvManager_lawful : remoteKvManager.Lawful NamesOutcome := by
  constructor
  · intro manager id now later migrated
    obtain ⟨new, stepped⟩ := step_of_migrate migrated
    rw [step, if_neg (by rw [new]; decide)] at stepped
    cases stepped
    refine ⟨?_, fun other different => ?_⟩
    · simp [remoteKvManager, getMigrationStatus]
    · simp only [remoteKvManager, getMigrationStatus, AList.lookup_insert_ne different]
  · intro manager label later named moved id
    obtain ⟨event, stepped⟩ := step_of_event moved
    simp only [remoteKvManager]
    cases known : manager.migrations.lookup id with
    | none =>
      left
      cases found : later.migrations.lookup id with
      | none => rw [getMigrationStatus_of_unknown known, getMigrationStatus_of_unknown found]
      | some state =>
        obtain ⟨now, same, _⟩ := step_new stepped known found
        exact absurd same (event id now)
    | some state =>
      obtain ⟨after, found, follows⟩ := step_follows named stepped known
      rw [getMigrationStatus_of_lookup known, getMigrationStatus_of_lookup found]
      exact follows.status

/-- The migration is known and over. -/
def Over (id : UInt64) (manager : RemoteKvManager) : Prop :=
  ∃ state, manager.migrations.lookup id = some state ∧ state.status.Terminal

theorem Over.step (isOver : manager.Over id) (named : manager.NamesOutcome label)
    (stepped : manager.step label = some after) : after.Over id := by
  obtain ⟨state, known, terminal⟩ := isOver
  obtain ⟨later, found, follows⟩ := step_follows named stepped known
  refine ⟨later, found, ?_⟩
  rcases follows.status with same | ⟨_, ended⟩
  · exact same ▸ terminal
  · exact ended

theorem timeout_step (stepped : manager.step label = some after) :
    after.timeout = manager.timeout := by
  cases label with
  | migrate id now =>
    rw [step] at stepped
    split at stepped <;> cases stepped <;> rfl
  | sent id sent =>
    rw [step] at stepped
    split at stepped
    · cases stepped
      split <;> rfl
    · cases stepped
  | ack id wire =>
    rw [step] at stepped
    split at stepped <;> cases stepped <;> rfl
  | sweep now =>
    rw [step] at stepped
    split at stepped <;> cases stepped
    rfl

end RemoteKvManager

open RemoteKvManager RemoteKvManagerAdapter

/-- A call of the adapter leaves its manager alone or is one step of it. -/
theorem kvManager_step {callbacks : Callbacks}
    {adapter after : RemoteKvManagerAdapter RemoteKvManager}
    {call : Call RemoteKvManager.Label} (permitted : adapter.Permitted NamesOutcome call)
    (stepped : adapter.step remoteKvManager callbacks call = some after) :
    after.kvManager = adapter.kvManager ∨ ∃ label, adapter.kvManager.NamesOutcome label ∧
      adapter.kvManager.step label = some after.kvManager := by
  cases does_of_step stepped with
  | nothing | startBurst | enqueue | finishBurst | shutdown | pollBegin | skip | read => exact .inl rfl
  | migrateLayer busy found migrated new =>
    exact .inr ⟨.migrate _ _, trivial, (step_of_migrate migrated).2⟩
  | handleStatus polling read idle => exact .inl handleStatus_poll.2.1
  | sweepGroups => exact .inl (kvManager_sweep _)
  | fire =>
    left
    unfold RemoteKvManagerAdapter.fire
    split <;> rfl
  | manager moved => exact .inr ⟨_, permitted, (step_of_event moved).2⟩

section Bursts

variable {callbacks : Callbacks} {adapter : RemoteKvManagerAdapter RemoteKvManager}

theorem settling_of_reached {timeout sweepInterval lastSweep : Int}
    (reached : Reaches (RemoteKvManagerAdapter.step remoteKvManager callbacks)
      (Permitted NamesOutcome) { kvManager := { timeout, sweepInterval, lastSweep } } adapter) :
    adapter.kvManager.Settling := by
  refine reached.invariant (fun adapter => adapter.kvManager.Settling) nofun ?_
  intro before call after settling permitted stepped
  rcases kvManager_step permitted stepped with same | ⟨label, named, moved⟩
  · exact same ▸ settling
  · exact settling.step named moved

theorem over_of_reached {id : UInt64} {later : RemoteKvManagerAdapter RemoteKvManager}
    (isOver : adapter.kvManager.Over id)
    (reached : Reaches (RemoteKvManagerAdapter.step remoteKvManager callbacks)
      (Permitted NamesOutcome) adapter later) : later.kvManager.Over id := by
  refine reached.invariant (fun adapter => adapter.kvManager.Over id) isOver ?_
  intro before call after isOver permitted stepped
  rcases kvManager_step permitted stepped with same | ⟨label, named, moved⟩
  · exact same ▸ isOver
  · exact isOver.step named moved

/-- A sweep that finds all requests of a closed burst older than the timeout, and then a poll: the
burst is over. -/
theorem bursts_retire {timeout sweepInterval lastSweep now : Int}
    (registered : callbacks.onComplete = true)
    (reached : Reaches (RemoteKvManagerAdapter.step remoteKvManager callbacks)
      (Permitted NamesOutcome) { kvManager := { timeout, sweepInterval, lastSweep } } adapter)
    {swept middle polled later : RemoteKvManagerAdapter RemoteKvManager} {burst : Nat}
    {toCheck : List UInt64}
    (sweeps : adapter.step remoteKvManager callbacks (.manager (.sweep now)) = some swept)
    (between : Reaches (RemoteKvManagerAdapter.step remoteKvManager callbacks)
      (Permitted NamesOutcome) swept middle)
    (known : burst < middle.started)
    (closed : ∀ token group, middle.groups.lookup token = some group → group.startedAt = burst →
      group.closed = true)
    (old : ∀ id, middle.requests.lookup id = some burst → ∃ state,
      adapter.kvManager.migrations.lookup id = some state ∧
        now - state.submittedAt ≥ adapter.kvManager.timeout)
    (started : middle.step remoteKvManager callbacks (.pollBegin toCheck) = some polled)
    (ended : Reaches (RemoteKvManagerAdapter.step remoteKvManager callbacks)
      (Permitted NamesOutcome) polled later) (idle : later.poll = none) :
    ∀ token group, later.groups.lookup token = some group → group.startedAt ≠ burst := by
  have accounted : Accounted remoteKvManager callbacks middle := by
    have whole := (reached.tail (by exact trivial) sweeps).trans between
    exact whole.invariant (Accounted remoteKvManager callbacks) (.initial _)
      fun _ _ _ accounted permitted stepped =>
        accounted.step remoteKvManager_lawful registered permitted stepped
  have settling := settling_of_reached reached
  obtain ⟨kvManager, moved, rfl⟩ := Option.map_eq_some_iff.mp sweeps
  refine (retired_of_polled remoteKvManager_lawful registered accounted known closed
    (fun id asked => ?_) started ended idle).2
  obtain ⟨state, present, due⟩ := old id asked
  have isOver : kvManager.Over id := by
    have stepped := (step_of_event moved).2
    have named : adapter.kvManager.NamesOutcome (.sweep now) := trivial
    obtain ⟨after, found, follows⟩ := step_follows named stepped present
    exact ⟨after, found, sweep_settles settling stepped found (follows.submittedAt ▸ due)⟩
  obtain ⟨after, found, terminal⟩ := over_of_reached isOver between
  rw [show remoteKvManager.getMigrationStatus middle.kvManager id = _ from
    getMigrationStatus_of_lookup found]
  exact terminal

end Bursts

/-- While no acknowledgment names `UNKNOWN` for a migration in progress: the status of a migration
changes at most once, from in progress to an outcome, and to success only as acknowledged; right
after a sweep what is older than the timeout is over, and then a poll ends its closed bursts. -/
theorem statuses_settle (timeout sweepInterval lastSweep : Int) :
    (∀ manager, Reaches RemoteKvManager.step NamesOutcome { timeout, sweepInterval, lastSweep }
        manager →
      (∀ later, Reaches RemoteKvManager.step NamesOutcome manager later → ∀ id state,
        manager.migrations.lookup id = some state → ∃ after,
          later.migrations.lookup id = some after ∧
            (after.status = state.status ∨
              state.status = .inProgress ∧ after.status.Terminal)) ∧
      (∀ label after, manager.NamesOutcome label → manager.step label = some after →
        ∀ id, manager.getMigrationStatus id ≠ .successful →
          after.getMigrationStatus id = .successful →
            ∃ wire, label = .ack id wire ∧ fromWire wire = some .successful) ∧
      ∀ now after, manager.step (.sweep now) = some after → ∀ id state,
        after.migrations.lookup id = some state → now - state.submittedAt ≥ timeout →
          state.status.Terminal) ∧
    ∀ (callbacks : Callbacks) (adapter swept middle polled later :
        RemoteKvManagerAdapter RemoteKvManager) (now : Int) (burst : Nat) (toCheck : List UInt64),
      callbacks.onComplete = true →
      Reaches (RemoteKvManagerAdapter.step remoteKvManager callbacks) (Permitted NamesOutcome)
        { kvManager := { timeout, sweepInterval, lastSweep } } adapter →
      adapter.step remoteKvManager callbacks (.manager (.sweep now)) = some swept →
      Reaches (RemoteKvManagerAdapter.step remoteKvManager callbacks) (Permitted NamesOutcome)
        swept middle →
      burst < middle.started →
      (∀ token group, middle.groups.lookup token = some group → group.startedAt = burst →
        group.closed = true) →
      (∀ id, middle.requests.lookup id = some burst → ∃ state,
        adapter.kvManager.migrations.lookup id = some state ∧
          now - state.submittedAt ≥ adapter.kvManager.timeout) →
      middle.step remoteKvManager callbacks (.pollBegin toCheck) = some polled →
      Reaches (RemoteKvManagerAdapter.step remoteKvManager callbacks) (Permitted NamesOutcome)
        polled later →
      later.poll = none →
      ∀ token group, later.groups.lookup token = some group → group.startedAt ≠ burst := by
  constructor
  · intro manager reached
    obtain ⟨settling, same⟩ := reached.invariant
      (fun manager => manager.Settling ∧ manager.timeout = timeout) ⟨nofun, rfl⟩
      fun _ _ _ both named stepped =>
        ⟨both.1.step named stepped, (timeout_step stepped).trans both.2⟩
    refine ⟨fun later run id state known => ?_, fun label after named stepped id other isOver => ?_,
      fun now after stepped id state known old => ?_⟩
    · refine run.invariant (fun later => ∃ after, later.migrations.lookup id = some after ∧
        (after.status = state.status ∨ state.status = .inProgress ∧ after.status.Terminal))
        ⟨state, known, .inl rfl⟩ ?_
      rintro before label next ⟨record, found, related⟩ named stepped
      obtain ⟨after, present, follows⟩ := step_follows named stepped found
      refine ⟨after, present, ?_⟩
      rcases follows.status with kept | ⟨running, ended⟩
      · exact kept ▸ related
      · rcases related with equal | ⟨_, isOver⟩
        · exact .inr ⟨equal ▸ running, ended⟩
        · rw [running] at isOver
          exact absurd isOver (by decide)
    · cases known : manager.migrations.lookup id with
      | none =>
        cases found : after.migrations.lookup id with
        | none =>
          rw [getMigrationStatus_of_unknown found] at isOver
          cases isOver
        | some state =>
          obtain ⟨now, _, rfl⟩ := step_new stepped known found
          rw [getMigrationStatus_of_lookup found] at isOver
          cases isOver
      | some state =>
        obtain ⟨record, found, follows⟩ := step_follows named stepped known
        rw [getMigrationStatus_of_lookup known] at other
        rw [getMigrationStatus_of_lookup found] at isOver
        exact follows.successful other isOver
    · exact sweep_settles settling stepped known (same ▸ old)
  · intro callbacks adapter swept middle polled later now burst toCheck registered reached sweeps
      between known closed old started ended idle
    exact bursts_retire registered reached sweeps between known closed old started ended idle

/-- A migration that is sent, acknowledged too late and swept. -/
def oneMigration : List RemoteKvManager.Label :=
  [.migrate 1 0, .sent 1 true, .migrate 2 50, .sent 2 true, .sweep 60, .ack 1 "SUCCESSFUL"]

theorem oneMigration_runs : (runWithin RemoteKvManager.step NamesOutcome
    { timeout := 60, sweepInterval := 5 } oneMigration).isSome = true := by
  decide +kernel

/-- A later sweep, after which the first migration keeps its status. -/
theorem oneMigration_sweeps : (runWithin RemoteKvManager.step NamesOutcome
    ((runWithin RemoteKvManager.step NamesOutcome { timeout := 60, sweepInterval := 5 }
      oneMigration).get oneMigration_runs) [.sweep 120]).isSome = true := by
  decide +kernel

/-- The statuses of these migrations go on from there. -/
theorem statuses_settle_oneMigration : ∃ after, ((runWithin RemoteKvManager.step NamesOutcome
    ((runWithin RemoteKvManager.step NamesOutcome { timeout := 60, sweepInterval := 5 }
      oneMigration).get oneMigration_runs) [.sweep 120]).get
        oneMigration_sweeps).migrations.lookup 1 = some after ∧ (after.status = .failed ∨
      MigrationStatus.failed = .inProgress ∧ after.status.Terminal) := by
  have present : ((runWithin RemoteKvManager.step NamesOutcome
      { timeout := 60, sweepInterval := 5 } oneMigration).get oneMigration_runs).migrations.lookup
        1 = some { status := .failed, submittedAt := 0 } := by
    decide +kernel
  exact ((statuses_settle 60 5 0).1 _ (reaches_get oneMigration_runs)).1 _
    (reaches_get oneMigration_sweeps) 1 _ present

/-- The acknowledgment of a migration in progress names `UNKNOWN`. -/
def namesUnknown : List RemoteKvManager.Label := [.migrate 1 0, .sent 1 true, .ack 1 "UNKNOWN"]

theorem namesUnknown_runs : (runWithin RemoteKvManager.step (fun _ _ => True)
    { timeout := 60, sweepInterval := 5 } namesUnknown).isSome = true := by
  decide +kernel

/-- No sweep, however late, ends the migration. -/
theorem never_settled : ¬ ∀ manager, Reaches RemoteKvManager.step (fun _ _ => True)
    { timeout := 60, sweepInterval := 5 } manager →
    ∀ now after, manager.step (.sweep now) = some after → ∀ id state,
      after.migrations.lookup id = some state → now - state.submittedAt ≥ 60 →
        state.status.Terminal := by
  intro settles
  have swept : (((runWithin RemoteKvManager.step (fun _ _ => True)
      { timeout := 60, sweepInterval := 5 } namesUnknown).get namesUnknown_runs).step
        (.sweep 1000)).map (fun manager => manager.migrations.lookup 1) =
          some (some { status := .unknown, submittedAt := 0 }) := by
    decide +kernel
  obtain ⟨after, stepped, known⟩ := Option.map_eq_some_iff.mp swept
  have isOver := settles _ (reaches_get namesUnknown_runs) 1000 after stepped 1 _ known (by decide)
  exact absurd isOver (by decide)

end InferenceServer.RemoteKv
