import InferenceServer.RemoteKv.BurstAccounts

/-! Every burst is reported exactly once: its event is fired by the first poll that starts when the
burst is closed and its requests are over, and not before. A failure alone is fired as soon as it
is seen, so a burst that is not yet closed must not fail. -/
namespace InferenceServer.RemoteKv

open Machine

variable {Manager Event : Type*} {kv : IRemoteKvManager Manager Event}
variable {allowed : Manager → Event → Prop} {callbacks : Callbacks}
variable {adapter after : RemoteKvManagerAdapter Manager}

namespace RemoteKvManagerAdapter

/-- The request that the poll has read as failed is of a burst that is still open. -/
def failsOpen (adapter : RemoteKvManagerAdapter Manager) : Bool :=
  match adapter.poll.bind (·.status) with
  | some (id, .failed) =>
    ((adapter.kafkaToGroup.lookup id).bind adapter.groups.lookup).any fun group => !group.closed
  | _ => false

/-- No failure of an open burst is handled while a callback waits for it. -/
def Prompt (allowed : Manager → Event → Prop) (callbacks : Callbacks)
    (adapter : RemoteKvManagerAdapter Manager) : Call Event → Prop
  | .handleStatus => callbacks.onFailed = true → adapter.failsOpen = false
  | .manager event => allowed adapter.kvManager event
  | _ => True

theorem Prompt.permitted {call : Call Event} (prompt : adapter.Prompt allowed callbacks call) :
    adapter.Permitted allowed call := by
  cases call with
  | manager event => exact prompt
  | _ => trivial

theorem lookup_retireIfDone {token other : UInt64} {group : MigrationGroup}
    (found : (adapter.retireIfDone callbacks token).groups.lookup other = some group) :
    adapter.groups.lookup other = some group ∧ (other = token → ¬ group.Done) := by
  unfold retireIfDone at found
  split at found
  · rename_i absent
    refine ⟨found, ?_⟩
    rintro rfl
    rw [absent] at found
    cases found
  · rename_i here present
    split at found
    · dsimp only at found
      rw [Table.lookup_erase_if] at found
      split at found
      · cases found
      · rename_i different
        exact ⟨found, fun same => absurd same different⟩
    · rename_i waiting
      refine ⟨found, ?_⟩
      rintro rfl
      exact Option.some.inj (present.symm.trans found) ▸ waiting

@[simp] theorem started_retireIfDone (token : UInt64) :
    (adapter.retireIfDone callbacks token).started = adapter.started := by
  unfold retireIfDone
  split
  · rfl
  · split <;> rfl

theorem started_sweep (tokens : List UInt64) :
    (tokens.foldl (retireIfDone callbacks) adapter).started = adapter.started := by
  induction tokens generalizing adapter with
  | nil => rfl
  | cons token rest ih => exact ih.trans (started_retireIfDone token)

@[simp] theorem kvManager_retireIfDone (token : UInt64) :
    (adapter.retireIfDone callbacks token).kvManager = adapter.kvManager := by
  unfold retireIfDone
  split
  · rfl
  · split <;> rfl

theorem kvManager_sweep (tokens : List UInt64) :
    (tokens.foldl (retireIfDone callbacks) adapter).kvManager = adapter.kvManager := by
  induction tokens generalizing adapter with
  | nil => rfl
  | cons token rest ih => exact ih.trans (kvManager_retireIfDone token)

/-- The groups that a sweep leaves were there and are not done. -/
theorem lookup_sweep {tokens : List UInt64} {other : UInt64} {group : MigrationGroup}
    (found : (tokens.foldl (retireIfDone callbacks) adapter).groups.lookup other = some group) :
    adapter.groups.lookup other = some group ∧ (other ∈ tokens → ¬ group.Done) := by
  induction tokens generalizing adapter with
  | nil => exact ⟨found, nofun⟩
  | cons token rest ih =>
    obtain ⟨present, waits⟩ := ih found
    obtain ⟨earlier, first⟩ := lookup_retireIfDone present
    refine ⟨earlier, fun member => ?_⟩
    rcases List.mem_cons.mp member with same | later
    · exact first same
    · exact waits later

/-- Where the end of a request is handled, the groups stay as they are but for the one that it is
for, which takes note of it. -/
theorem lookup_handleStatus {poll : Poll} {id token : UInt64} {status : MigrationStatus}
    {group : MigrationGroup}
    (found : (adapter.handleStatus callbacks poll id status).groups.lookup token = some group) :
    (adapter.groups.lookup token = some group ∧ adapter.kafkaToGroup.lookup id ≠ some token) ∨
      ∃ before, adapter.groups.lookup token = some before ∧
        adapter.kafkaToGroup.lookup id = some token ∧ group = before.settle id status ∧
        ¬ group.Done := by
  unfold handleStatus at found
  split at found
  · rename_i unknown
    exact .inl ⟨found, by rw [unknown]; exact nofun⟩
  · rename_i owner known
    dsimp only at found
    split at found
    · rename_i absent
      refine .inl ⟨found, fun same => ?_⟩
      obtain rfl := Option.some.inj (known.symm.trans same)
      exact absurd (absent.symm.trans found) nofun
    · rename_i before present
      obtain ⟨entered, waits⟩ := lookup_retireIfDone found
      dsimp only at entered
      rw [Table.lookup_insert_if] at entered
      split at entered
      · rename_i here
        subst here
        cases entered
        exact .inr ⟨before, present, known, rfl, waits rfl⟩
      · rename_i different
        refine .inl ⟨entered, fun same => different ?_⟩
        exact Option.some.inj (same.symm.trans known)

/-- Handling a status leaves the rest of the poll to do. -/
theorem handleStatus_poll {poll : Poll} {id : UInt64} {status : MigrationStatus} :
    (adapter.handleStatus callbacks poll id status).poll.map
        (fun poll => (poll.toCheck, poll.status, poll.swept)) =
          some (poll.toCheck, none, poll.swept) ∧
      (adapter.handleStatus callbacks poll id status).kvManager = adapter.kvManager ∧
      (adapter.handleStatus callbacks poll id status).started = adapter.started := by
  unfold handleStatus
  split
  · exact ⟨rfl, rfl, rfl⟩
  · dsimp only
    split
    · exact ⟨rfl, rfl, rfl⟩
    · unfold retireIfDone
      split
      · exact ⟨rfl, rfl, rfl⟩
      · split <;> exact ⟨rfl, rfl, rfl⟩

end RemoteKvManagerAdapter

open RemoteKvManagerAdapter

/-- The end of a request of another burst is nothing to a group. -/
theorem handleStatus_other (accounted : Accounted kv callbacks adapter) {poll : Poll}
    {id token : UInt64} {status : MigrationStatus} {burst : Nat} {group : MigrationGroup}
    (asked : adapter.requests.lookup id = some burst)
    (found : adapter.groups.lookup token = some group) (other : group.startedAt ≠ burst) :
    (adapter.handleStatus callbacks poll id status).groups.lookup token = some group := by
  have apart : adapter.kafkaToGroup.lookup id ≠ some token := by
    intro known
    have same := (accounted.grouped.asked known found).2
    exact other (Option.some.inj (same.symm.trans asked))
  unfold handleStatus
  split
  · exact found
  · rename_i owner known
    have different : token ≠ owner := by
      rintro rfl
      exact apart known
    dsimp only
    split
    · exact found
    · unfold retireIfDone
      rw [AList.lookup_insert]
      dsimp only
      split
      · exact (AList.lookup_erase_ne different).trans
          ((AList.lookup_insert_ne different).trans found)
      · exact (AList.lookup_insert_ne different).trans found

/-- Groups that are not yet closed have not failed for a callback. -/
def Quiet (callbacks : Callbacks) (groups : Table UInt64 MigrationGroup) : Prop :=
  ∀ token group, groups.lookup token = some group → group.closed = false →
    callbacks.onFailed = true → group.failed = false

theorem Quiet.step (quiet : Quiet callbacks adapter.groups) {call : Call Event}
    (prompt : adapter.Prompt allowed callbacks call)
    (stepped : adapter.step kv callbacks call = some after) : Quiet callbacks after.groups := by
  intro token group found open_ registered
  cases does_of_step stepped with
  | nothing | enqueue | shutdown | pollBegin | skip | read | manager =>
    exact quiet token group found open_ registered
  | startBurst idle new =>
    rw [Table.lookup_insert_if] at found
    split at found
    · cases found
      rfl
    · exact quiet token group found open_ registered
  | @migrateLayer id burst now left before _ _ present _ _ =>
    change (adapter.groups.insert burst _).lookup token = some group at found
    rw [Table.lookup_insert_if] at found
    split at found
    · cases found
      exact quiet burst before present open_ registered
    · exact quiet token group found open_ registered
  | finishBurst idle present unclosed =>
    rw [Table.lookup_insert_if] at found
    split at found
    · cases found
      cases open_
    · exact quiet token group found open_ registered
  | @handleStatus poll id status polling read idle =>
    rcases lookup_handleStatus found with ⟨present, _⟩ | ⟨before, present, known, rfl, _⟩
    · exact quiet token group present open_ registered
    · rw [closed_settle] at open_
      have fine := quiet token before present open_ registered
      have waits := prompt registered
      unfold MigrationGroup.settle
      split
      · rename_i failed
        subst failed
        rw [failsOpen, polling, Option.bind_some, read] at waits
        simp only [known, Option.bind_some, present, Option.any_some, open_, Bool.not_false,
          Bool.true_eq_false] at waits
      · exact fine
  | sweepGroups => exact quiet token group (lookup_sweep found).1 open_ registered
  | @fire poll polling swept =>
    have same : (adapter.fire callbacks poll).groups = adapter.groups := by
      unfold RemoteKvManagerAdapter.fire
      split <;> rfl
    rw [same] at found
    exact quiet token group found open_ registered

/-- The burst is over, or the poll under way is to look at all that is left of it. -/
def Awaited (kv : IRemoteKvManager Manager Event) (burst : Nat)
    (adapter : RemoteKvManagerAdapter Manager) : Prop :=
  burst < adapter.started ∧ ∀ token group, adapter.groups.lookup token = some group →
    group.startedAt = burst → group.closed = true ∧ ∃ poll, adapter.poll = some poll ∧
      poll.swept = false ∧ ∀ id ∈ group.pendingKafkaIds,
        (kv.getMigrationStatus adapter.kvManager id).Terminal ∧
          (id ∈ poll.toCheck ∨ ∃ isOver, poll.status = some (id, isOver))

/-- A poll that starts when the burst is closed and its requests are over looks at all of them. -/
theorem awaited_of_pollBegin (accounted : Accounted kv callbacks adapter) {burst : Nat}
    (known : burst < adapter.started)
    (closed : ∀ token group, adapter.groups.lookup token = some group → group.startedAt = burst →
      group.closed = true) (isOver : ∀ id, adapter.requests.lookup id = some burst →
      (kv.getMigrationStatus adapter.kvManager id).Terminal) {toCheck : List UInt64}
    (stepped : adapter.step kv callbacks (.pollBegin toCheck) = some after) :
    Awaited kv burst after := by
  cases does_of_step stepped with
  | nothing throws => exact absurd rfl (throws toCheck)
  | pollBegin idle all =>
    refine ⟨known, fun token group found same => ⟨closed token group found same, _, rfl, rfl, ?_⟩⟩
    intro id waiting
    have asked := (accounted.grouped.own token group found).pending id waiting
    refine ⟨isOver id (same ▸ asked), .inl (all.mem_iff.mpr ?_)⟩
    have mapped := (accounted.grouped.mapped id token).mpr ⟨group, found, waiting⟩
    exact List.mem_map.mpr ⟨⟨id, token⟩, Table.mem_entries.mpr mapped, rfl⟩

theorem Awaited.step {burst : Nat} (awaited : Awaited kv burst adapter)
    (accounted : Accounted kv callbacks adapter) (lawful : kv.Lawful allowed) {call : Call Event}
    (permitted : adapter.Permitted allowed call)
    (stepped : adapter.step kv callbacks call = some after) : Awaited kv burst after := by
  obtain ⟨known, awaits⟩ := awaited
  cases does_of_step stepped with
  | nothing | enqueue | shutdown => exact ⟨known, awaits⟩
  | startBurst idle new =>
    refine ⟨Nat.lt_succ_of_lt known, fun token group found same => ?_⟩
    rw [Table.lookup_insert_if] at found
    split at found
    · cases found
      exact absurd same (Nat.ne_of_gt known)
    · exact awaits token group found same
  | @migrateLayer id owner now left before kvManager busy present migrated new =>
    obtain ⟨opened, here, open_⟩ := accounted.enqueuing owner left busy
    obtain rfl := Option.some.inj (present.symm.trans here)
    refine ⟨known, fun token group found same => ?_⟩
    change (adapter.groups.insert owner _).lookup token = some group at found
    rw [Table.lookup_insert_if] at found
    split at found
    · cases found
      exact absurd ((awaits owner before present same).1.symm.trans open_) nofun
    · obtain ⟨closed, poll, polling, first, all⟩ := awaits token group found same
      refine ⟨closed, poll, polling, first, fun other waiting => ?_⟩
      have asked := (accounted.grouped.own token group found).pending other waiting
      have different : other ≠ id := by
        rintro rfl
        rw [new] at asked
        cases asked
      obtain ⟨isOver, listed⟩ := all other waiting
      refine ⟨?_, listed⟩
      change (kv.getMigrationStatus kvManager other).Terminal
      rw [(lawful.migrate _ _ _ _ migrated).2 other different]
      exact isOver
  | @finishBurst owner before idle present open_ =>
    refine ⟨known, fun token group found same => ?_⟩
    rw [Table.lookup_insert_if] at found
    split at found
    · cases found
      exact absurd ((awaits owner before present same).1.symm.trans open_) nofun
    · exact awaits token group found same
  | pollBegin idle all =>
    refine ⟨known, fun token group found same => ?_⟩
    obtain ⟨_, poll, polling, _⟩ := awaits token group found same
    rw [idle] at polling
    cases polling
  | @skip poll id rest polling next before running =>
    refine ⟨known, fun token group found same => ?_⟩
    obtain ⟨closed, current, here, first, all⟩ := awaits token group found same
    obtain rfl := Option.some.inj (polling.symm.trans here)
    refine ⟨closed, _, rfl, first, fun other waiting => ?_⟩
    obtain ⟨isOver, listed⟩ := all other waiting
    refine ⟨isOver, listed.imp_left fun member => ?_⟩
    rw [next] at member
    refine (List.mem_cons.mp member).resolve_left ?_
    rintro rfl
    exact running isOver
  | @read poll id rest polling next before isOver =>
    refine ⟨known, fun token group found same => ?_⟩
    obtain ⟨closed, current, here, first, all⟩ := awaits token group found same
    obtain rfl := Option.some.inj (polling.symm.trans here)
    refine ⟨closed, _, rfl, first, fun other waiting => ?_⟩
    obtain ⟨ended, listed⟩ := all other waiting
    refine ⟨ended, ?_⟩
    rcases listed with member | ⟨status, had⟩
    · rw [next] at member
      rcases List.mem_cons.mp member with rfl | later
      · exact .inr ⟨_, rfl⟩
      · exact .inl later
    · rw [before] at had
      cases had
  | @handleStatus poll id status polling read idle =>
    obtain ⟨polled, sameManager, sameStarted⟩ :=
      @handleStatus_poll _ callbacks adapter poll id status
    obtain ⟨later, polling', fields⟩ := Option.map_eq_some_iff.mp polled
    obtain ⟨toCheck, fields⟩ := Prod.mk.inj fields
    obtain ⟨_, swept⟩ := Prod.mk.inj fields
    refine ⟨sameStarted ▸ known, fun token group found same => ?_⟩
    rw [sameManager]
    rcases lookup_handleStatus found with ⟨present, apart⟩ | ⟨before, present, known, rfl, _⟩
    · obtain ⟨closed, current, here, first, all⟩ := awaits token group present same
      obtain rfl := Option.some.inj (polling.symm.trans here)
      refine ⟨closed, later, polling', swept.trans first, fun other waiting => ?_⟩
      obtain ⟨isOver, listed⟩ := all other waiting
      refine ⟨isOver, .inl (toCheck ▸ listed.resolve_right ?_)⟩
      rintro ⟨ended, had⟩
      rw [read] at had
      obtain rfl := congrArg Prod.fst (Option.some.inj had)
      exact apart ((accounted.grouped.mapped id token).mpr ⟨group, present, waiting⟩)
    · rw [startedAt_settle] at same
      obtain ⟨closed, current, here, first, all⟩ := awaits token before present same
      obtain rfl := Option.some.inj (polling.symm.trans here)
      refine ⟨by rw [closed_settle]; exact closed, later, polling', swept.trans first,
        fun other waiting => ?_⟩
      rw [pendingKafkaIds_settle, Finset.mem_erase] at waiting
      obtain ⟨isOver, listed⟩ := all other waiting.2
      refine ⟨isOver, .inl (toCheck ▸ listed.resolve_right ?_)⟩
      rintro ⟨ended, had⟩
      rw [read] at had
      exact waiting.1 (congrArg Prod.fst (Option.some.inj had)).symm
  | @sweepGroups poll polling checked handled first idle =>
    refine ⟨(started_sweep _).symm ▸ known, fun token group found same => ?_⟩
    obtain ⟨present, waits⟩ := lookup_sweep found
    obtain ⟨closed, current, here, _, all⟩ := awaits token group present same
    obtain rfl := Option.some.inj (polling.symm.trans here)
    refine absurd ⟨closed, Finset.eq_empty_of_forall_notMem fun id waiting => ?_⟩
      (waits (List.mem_map.mpr ⟨⟨token, group⟩, Table.mem_entries.mpr present, rfl⟩))
    rcases (all id waiting).2 with member | ⟨isOver, had⟩
    · rw [checked] at member
      cases member
    · rw [handled] at had
      cases had
  | @fire poll polling swept =>
    have same : (adapter.fire callbacks poll).groups = adapter.groups ∧
        (adapter.fire callbacks poll).started = adapter.started := by
      unfold RemoteKvManagerAdapter.fire
      split <;> exact ⟨rfl, rfl⟩
    refine ⟨same.2 ▸ known, fun token group found equal => ?_⟩
    rw [same.1] at found
    obtain ⟨_, current, here, first, _⟩ := awaits token group found equal
    obtain rfl := Option.some.inj (polling.symm.trans here)
    rw [swept] at first
    cases first
  | @manager event kvManager moved =>
    refine ⟨known, fun token group found same => ?_⟩
    obtain ⟨closed, poll, polling, first, all⟩ := awaits token group found same
    refine ⟨closed, poll, polling, first, fun id waiting => ?_⟩
    obtain ⟨isOver, listed⟩ := all id waiting
    refine ⟨?_, listed⟩
    rcases lawful.step _ event kvManager permitted moved id with stays | ⟨running, _⟩
    · exact stays ▸ isOver
    · rw [running] at isOver
      exact absurd isOver (by decide)

end InferenceServer.RemoteKv
