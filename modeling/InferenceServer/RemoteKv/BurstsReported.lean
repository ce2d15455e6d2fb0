import InferenceServer.RemoteKv.BurstCompletion

/-! The reports of a run, burst by burst, and a failure that is reported too early. -/
namespace InferenceServer.RemoteKv

open Machine RemoteKvManagerAdapter

variable {Manager Event : Type*} {kv : IRemoteKvManager Manager Event}
variable {allowed : Manager → Event → Prop} {callbacks : Callbacks}
variable {adapter after : RemoteKvManagerAdapter Manager}

/-- Groups and reports carry the uuid that their burst was started with. -/
structure Named (adapter : RemoteKvManagerAdapter Manager) : Prop where
  below : ∀ burst uuid, adapter.uuids.lookup burst = some uuid → burst < adapter.started
  groups : ∀ token group, adapter.groups.lookup token = some group →
    adapter.uuids.lookup group.startedAt = some token
  reports : ∀ report ∈ adapter.reports, adapter.uuids.lookup report.burst = some report.token

namespace Named

theorem completion {token : UInt64} {group : MigrationGroup} {report : Report}
    (member : report ∈ group.completion callbacks token) :
    report.burst = group.startedAt ∧ report.token = token := by
  unfold MigrationGroup.completion at member
  split at member
  · obtain rfl := List.mem_singleton.mp member
    exact ⟨rfl, rfl⟩
  · split at member
    · obtain rfl := List.mem_singleton.mp member
      exact ⟨rfl, rfl⟩
    · cases member

theorem failure {token : UInt64} {group : MigrationGroup} {status : MigrationStatus}
    {report : Report} (member : report ∈ group.failure token status) :
    report.burst = group.startedAt ∧ report.token = token := by
  unfold MigrationGroup.failure at member
  split at member
  · obtain rfl := List.mem_singleton.mp member
    exact ⟨rfl, rfl⟩
  · cases member

section

variable (named : Named adapter)
include named

/-- Groups stay bursts that they are, and there are no new events. -/
theorem keep (started : after.started = adapter.started) (uuids : after.uuids = adapter.uuids)
    (groups : ∀ token group, after.groups.lookup token = some group → ∃ before,
      adapter.groups.lookup token = some before ∧ before.startedAt = group.startedAt)
    (reports : ∀ report ∈ after.reports, report ∈ adapter.reports) : Named after := by
  refine ⟨fun burst uuid known => ?_, fun token group found => ?_, fun report member => ?_⟩
  · rw [started]
    rw [uuids] at known
    exact named.below burst uuid known
  · obtain ⟨before, present, same⟩ := groups token group found
    rw [uuids, ← same]
    exact named.groups token before present
  · rw [uuids]
    exact named.reports report (reports report member)

theorem retireIfDone (polling : adapter.poll.isSome) (token : UInt64) :
    Named (adapter.retireIfDone callbacks token) ∧
      (adapter.retireIfDone callbacks token).poll.isSome := by
  refine ⟨⟨?_, fun other group found => ?_, ?_⟩, ?_⟩
  all_goals unfold RemoteKvManagerAdapter.retireIfDone
  · split
    · exact named.below
    · split <;> exact named.below
  · have known := named.groups other group (lookup_retireIfDone found).1
    split
    · exact known
    · split <;> exact known
  · split
    · exact named.reports
    · rename_i group found
      split
      · obtain ⟨poll, current⟩ := Option.isSome_iff_exists.mp polling
        have before := named.reports
        simp only [RemoteKvManagerAdapter.reports, current, Option.map_some, Option.elim_some, Poll.reports,
          ← List.append_assoc, List.mem_append] at before ⊢
        intro report member
        rcases member with earlier | new
        · exact before report earlier
        · obtain ⟨burst, same⟩ := completion new
          rw [burst, same]
          exact named.groups token group found
      · exact named.reports
  · split
    · exact polling
    · split
      · rwa [Option.isSome_map]
      · exact polling

theorem sweep (polling : adapter.poll.isSome) (tokens : List UInt64) :
    Named (tokens.foldl (RemoteKvManagerAdapter.retireIfDone callbacks) adapter) := by
  induction tokens generalizing adapter with
  | nil => exact named
  | cons token rest ih =>
    obtain ⟨named, polling⟩ := @retireIfDone _ callbacks _ named polling token
    exact ih named polling

theorem handleStatus {poll : Poll} {id : UInt64} {status : MigrationStatus}
    (polling : adapter.poll = some poll) :
    Named (adapter.handleStatus callbacks poll id status) := by
  have before := named.reports
  simp only [RemoteKvManagerAdapter.reports, polling, Option.elim_some, Poll.reports, List.mem_append] at before
  unfold RemoteKvManagerAdapter.handleStatus
  split
  · exact ⟨named.below, named.groups, fun report member => before report (by
      simpa only [RemoteKvManagerAdapter.reports, Option.elim_some, Poll.reports, List.mem_append] using member)⟩
  · rename_i token known
    dsimp only
    split
    · exact ⟨named.below, named.groups, fun report member => before report (by
        simpa only [RemoteKvManagerAdapter.reports, Option.elim_some, Poll.reports, List.mem_append] using member)⟩
    · rename_i group found
      have settled : Named { adapter with
          kafkaToGroup := adapter.kafkaToGroup.erase id
          groups := adapter.groups.insert token (group.settle id status)
          poll := some { poll with
            status := none
            failuresToFire := poll.failuresToFire ++ group.failure token status } } := by
        refine ⟨named.below, fun other changed present => ?_, fun report member => ?_⟩
        · rw [Table.lookup_insert_if] at present
          split at present
          · rename_i here
            cases present
            rw [startedAt_settle, here]
            exact named.groups token group found
          · exact named.groups other changed present
        · simp only [RemoteKvManagerAdapter.reports, Option.elim_some, Poll.reports, List.mem_append] at member
          by_cases new : report ∈ group.failure token status
          · obtain ⟨burst, same⟩ := failure new
            rw [burst, same]
            exact named.groups token group found
          · exact before report (by tauto)
      exact (@retireIfDone _ callbacks _ settled rfl token).1

theorem fire {poll : Poll} (polling : adapter.poll = some poll) :
    Named (adapter.fire callbacks poll) := by
  have before := named.reports
  simp only [RemoteKvManagerAdapter.reports, polling, Option.elim_some, Poll.reports, List.mem_append] at before
  unfold RemoteKvManagerAdapter.fire fires
  split
  · rename_i report rest failures
    refine ⟨named.below, named.groups, fun other member => before other ?_⟩
    simp only [RemoteKvManagerAdapter.reports, Option.elim_some, Poll.reports, List.mem_append] at member
    rw [failures, List.mem_cons]
    split at member
    · simp only [List.mem_append, List.mem_singleton] at member
      tauto
    · tauto
  · rename_i report rest failures completions
    refine ⟨named.below, named.groups, fun other member => before other ?_⟩
    simp only [RemoteKvManagerAdapter.reports, Option.elim_some, Poll.reports, List.mem_append] at member
    rw [completions, List.mem_cons]
    split at member
    · simp only [List.mem_append, List.mem_singleton] at member
      tauto
    · tauto
  · refine ⟨named.below, named.groups, fun other member => before other ?_⟩
    simp only [RemoteKvManagerAdapter.reports, Option.elim_none, List.append_nil] at member
    exact .inl member

theorem step {call : Call Event} (stepped : adapter.step kv callbacks call = some after) :
    Named after := by
  have same : ∀ token group, adapter.groups.lookup token = some group → ∃ before,
      adapter.groups.lookup token = some before ∧ before.startedAt = group.startedAt :=
    fun token group found => ⟨group, found, rfl⟩
  have replaced : ∀ owner before changed, adapter.groups.lookup owner = some before →
      before.startedAt = changed.startedAt → ∀ token group,
      (adapter.groups.insert owner changed).lookup token = some group → ∃ before,
        adapter.groups.lookup token = some before ∧ before.startedAt = group.startedAt := by
    intro owner before changed present equal token group found
    rw [Table.lookup_insert_if] at found
    split at found
    · rename_i here
      cases found
      exact ⟨before, here ▸ present, equal⟩
    · exact ⟨group, found, rfl⟩
  cases does_of_step stepped with
  | nothing | enqueue | shutdown | manager => exact named.keep rfl rfl same fun _ member => member
  | @startBurst uuid idle new =>
    have old : ∀ burst token, adapter.uuids.lookup burst = some token →
        (adapter.uuids.insert adapter.started uuid).lookup burst = some token := by
      intro burst token known
      exact (AList.lookup_insert_ne (Nat.ne_of_lt (named.below burst token known))).trans known
    refine ⟨fun burst token known => ?_, fun token group found => ?_,
      fun report member => old _ _ (named.reports report member)⟩
    · rw [Table.lookup_insert_if] at known
      split at known
      · rename_i equal
        exact equal ▸ Nat.lt_succ_self adapter.started
      · exact Nat.lt_succ_of_lt (named.below burst token known)
    · rw [Table.lookup_insert_if] at found
      split at found
      · rename_i here
        cases found
        rw [here]
        exact AList.lookup_insert _
      · exact old _ _ (named.groups token group found)
  | @migrateLayer id owner now left before kvManager busy present migrated new =>
    exact named.keep rfl rfl (replaced owner before _ present rfl) fun _ member => member
  | @finishBurst owner before idle present open_ =>
    exact named.keep rfl rfl (replaced owner before _ present rfl) fun _ member => member
  | pollBegin idle all =>
    refine named.keep rfl rfl same fun report member => ?_
    simpa only [RemoteKvManagerAdapter.reports, idle, Option.elim_some, Option.elim_none, Poll.reports,
      List.append_nil] using member
  | skip polling | read polling =>
    refine named.keep rfl rfl same fun report member => ?_
    simpa only [RemoteKvManagerAdapter.reports, polling, Option.elim_some, Poll.reports] using member
  | handleStatus polling read idle => exact named.handleStatus polling
  | @sweepGroups poll polling =>
    have swept : Named { adapter with poll := some { poll with swept := true } } := by
      refine named.keep rfl rfl same fun report member => ?_
      simpa only [RemoteKvManagerAdapter.reports, polling, Option.elim_some, Poll.reports]
        using member
    exact swept.sweep rfl _
  | fire polling swept => exact named.fire polling

end

end Named

/-- What holds in every state of a run. -/
structure Sound (kv : IRemoteKvManager Manager Event) (callbacks : Callbacks)
    (adapter : RemoteKvManagerAdapter Manager) : Prop where
  accounted : Accounted kv callbacks adapter
  quiet : Quiet callbacks adapter.groups
  named : Named adapter

theorem Sound.step (sound : Sound kv callbacks adapter) (lawful : kv.Lawful allowed)
    (registered : callbacks.onComplete = true) {call : Call Event}
    (prompt : adapter.Prompt allowed callbacks call)
    (stepped : adapter.step kv callbacks call = some after) : Sound kv callbacks after := by
  exact ⟨sound.accounted.step lawful registered prompt.permitted stepped,
    sound.quiet.step prompt stepped, sound.named.step stepped⟩

theorem sound_of_reached (lawful : kv.Lawful allowed) (registered : callbacks.onComplete = true)
    {manager : Manager} (reached : Reaches (RemoteKvManagerAdapter.step kv callbacks)
      (Prompt allowed callbacks) { kvManager := manager } adapter) :
    Sound kv callbacks adapter := by
  refine reached.invariant (Sound kv callbacks) ⟨.initial manager, nofun, nofun, nofun, nofun⟩ ?_
  exact fun _ _ _ sound prompt stepped => sound.step lawful registered prompt stepped

/-- A burst that still owes its event has none. -/
theorem Sound.closed_of_fired (sound : Sound kv callbacks adapter) {report : Report}
    (fired : report ∈ adapter.fired) {token : UInt64} {group : MigrationGroup}
    (found : adapter.groups.lookup token = some group) (same : group.startedAt = report.burst) :
    group.closed = true := by
  by_contra unclosed
  have open_ := Bool.eq_false_iff.mpr unclosed
  have counted := sound.accounted.counted report.burst
  have once : 0 < countOf report.burst adapter.fired :=
    List.countP_pos_iff.mpr ⟨report, fired, decide_eq_true rfl⟩
  have owed : owes callbacks report.burst token group = 1 := by
    refine if_pos ⟨same, ?_⟩
    rintro ⟨registered, failed⟩
    rw [sound.quiet token group found open_ registered] at failed
    cases failed
  rw [Table.total_erase (owes callbacks report.burst) found, owed] at counted
  split at counted <;> omega

/-- A burst whose group is gone has its event, once no poll is under way. -/
theorem Sound.fired_of_retired (sound : Sound kv callbacks adapter) (idle : adapter.poll = none)
    {burst : Nat} (known : burst < adapter.started)
    (retired : ∀ token group, adapter.groups.lookup token = some group → group.startedAt ≠ burst) :
    countOf burst adapter.fired = 1 := by
  have counted := sound.accounted.counted burst
  have owed : adapter.groups.total (owes callbacks burst) = 0 := by
    refine Table.total_eq_zero fun token group member => if_neg ?_
    exact fun owing => retired token group (Table.mem_entries.mp member) owing.1
  rw [owed, if_pos known] at counted
  simp only [RemoteKvManagerAdapter.due, idle, Option.elim_none, countOf_nil] at counted
  omega

/-- A poll that starts when a burst is closed and its requests are over ends the burst. -/
theorem retired_of_polled (lawful : kv.Lawful allowed) (registered : callbacks.onComplete = true)
    (accounted : Accounted kv callbacks adapter) {burst : Nat} (known : burst < adapter.started)
    (closed : ∀ token group, adapter.groups.lookup token = some group → group.startedAt = burst →
      group.closed = true) (isOver : ∀ id, adapter.requests.lookup id = some burst →
      (kv.getMigrationStatus adapter.kvManager id).Terminal) {toCheck : List UInt64}
    {polled later : RemoteKvManagerAdapter Manager}
    (started : adapter.step kv callbacks (.pollBegin toCheck) = some polled)
    (reached : Reaches (RemoteKvManagerAdapter.step kv callbacks) (Permitted allowed) polled later)
    (idle : later.poll = none) : burst < later.started ∧
      ∀ token group, later.groups.lookup token = some group → group.startedAt ≠ burst := by
  have permitted : adapter.Permitted allowed (.pollBegin toCheck) := trivial
  obtain ⟨_, earlier, awaits⟩ := reached.invariant
    (fun state => Accounted kv callbacks state ∧ Awaited kv burst state)
    ⟨accounted.step lawful registered permitted started,
      awaited_of_pollBegin accounted known closed isOver started⟩
    fun _ _ _ both permitted stepped => ⟨both.1.step lawful registered permitted stepped,
      both.2.step both.1 lawful permitted stepped⟩
  refine ⟨earlier, fun token group found same => ?_⟩
  obtain ⟨_, poll, polling, _⟩ := awaits token group found same
  rw [idle] at polling
  cases polling

/-- In every run in which no failure of an open burst is handled: the reverse map is the union of
the pending requests, each burst is reported at most once, with its uuid, as its requests ended and
only when it is closed, requests of other bursts leave a group alone, and a poll that starts when a
burst is closed and its requests are over fires its event. -/
theorem bursts_reported (lawful : kv.Lawful allowed) (registered : callbacks.onComplete = true)
    {manager : Manager} (reached : Reaches (RemoteKvManagerAdapter.step kv callbacks)
      (Prompt allowed callbacks) { kvManager := manager } adapter) :
    (∀ id token, adapter.kafkaToGroup.lookup id = some token ↔
      ∃ group, adapter.groups.lookup token = some group ∧ id ∈ group.pendingKafkaIds) ∧
    (∀ burst, countOf burst adapter.fired ≤ 1) ∧
    (∀ report ∈ adapter.fired, adapter.uuids.lookup report.burst = some report.token ∧
      Truthful (kv.getMigrationStatus adapter.kvManager) adapter.requests report ∧
      ∀ token group, adapter.groups.lookup token = some group → group.startedAt = report.burst →
        group.closed = true) ∧
    (∀ poll id status burst token group, adapter.requests.lookup id = some burst →
      adapter.groups.lookup token = some group → group.startedAt ≠ burst →
      (adapter.handleStatus callbacks poll id status).groups.lookup token = some group) ∧
    ∀ burst toCheck polled later, burst < adapter.started →
      (∀ token group, adapter.groups.lookup token = some group → group.startedAt = burst →
        group.closed = true) →
      (∀ id, adapter.requests.lookup id = some burst →
        (kv.getMigrationStatus adapter.kvManager id).Terminal) →
      adapter.step kv callbacks (.pollBegin toCheck) = some polled →
      Reaches (RemoteKvManagerAdapter.step kv callbacks) (Prompt allowed callbacks) polled later →
      later.poll = none → countOf burst later.fired = 1 := by
  have sound := sound_of_reached lawful registered reached
  refine ⟨sound.accounted.grouped.mapped, fun burst => ?_, fun report fired => ⟨?_, ?_, ?_⟩,
    fun poll id status burst token group asked found other => ?_,
    fun burst toCheck polled later known closed isOver started ended idle => ?_⟩
  · have counted := sound.accounted.counted burst
    split at counted <;> omega
  · exact sound.named.reports report (List.mem_append_left _ fired)
  · exact sound.accounted.reported.truthful report (List.mem_append_left _ fired)
  · exact fun token group found same => sound.closed_of_fired fired found same
  · exact handleStatus_other sound.accounted asked found other
  · obtain ⟨earlier, retired⟩ := retired_of_polled lawful registered sound.accounted known closed
      isOver started (ended.mono fun _ _ prompt => prompt.permitted) idle
    have prompt : adapter.Prompt allowed callbacks (.pollBegin toCheck) := trivial
    have soundLater := ended.invariant (Sound kv callbacks)
      (sound.step lawful registered prompt started)
      fun _ _ _ sound prompt stepped => sound.step lawful registered prompt stepped
    exact soundLater.fired_of_retired idle earlier retired

/-- A manager whose migrations end one by one, as somebody outside decides. -/
def outcomes : IRemoteKvManager (Table UInt64 MigrationStatus) (UInt64 × Bool) where
  migrate table id _ :=
    if (table.lookup id).isSome then none else some (table.insert id .inProgress)
  getMigrationStatus table id := (table.lookup id).getD .unknown
  step table event :=
    if table.lookup event.1 = some .inProgress then
      some (table.insert event.1 (if event.2 then .successful else .failed))
    else none

theorem outcomes_lawful : outcomes.Lawful fun _ _ => True := by
  constructor
  · intro table id _ later migrated
    simp only [outcomes] at migrated ⊢
    split at migrated
    · cases migrated
    · cases migrated
      refine ⟨by rw [AList.lookup_insert, Option.getD_some], fun other different => ?_⟩
      rw [AList.lookup_insert_ne different]
  · intro table event later _ stepped id
    simp only [outcomes] at stepped ⊢
    split at stepped
    · rename_i running
      cases stepped
      by_cases same : id = event.1
      · subst same
        right
        rw [running, AList.lookup_insert, Option.getD_some, Option.getD_some]
        exact ⟨rfl, by cases event.2 <;> decide⟩
      · left
        rw [AList.lookup_insert_ne same]
    · cases stepped

instance (callbacks : Callbacks) (adapter : RemoteKvManagerAdapter Manager) :
    ∀ call : Call Event, Decidable (adapter.Prompt (fun _ _ => True) callbacks call)
  | .handleStatus => inferInstanceAs (Decidable (_ → _))
  | .startBurst _ | .enqueueMigrationInBurst .. | .migrateLayer .. | .finishBurst _ | .shutdown
  | .pollBegin _ | .readStatus | .sweepGroups | .fire | .manager _ =>
    inferInstanceAs (Decidable True)

def bothCallbacks : Callbacks := { onComplete := true, onFailed := true }

/-- Two layers, one of which fails after the burst is closed; the uuid is used again. -/
def oneFails : List (Call (UInt64 × Bool)) :=
  [.startBurst 7, .enqueueMigrationInBurst 7 0 2 0 32, .migrateLayer 1 0, .migrateLayer 2 0,
    .manager (1, true), .finishBurst 7, .pollBegin [2, 1], .manager (2, false), .readStatus,
    .handleStatus, .readStatus, .handleStatus, .sweepGroups, .startBurst 7, .fire, .fire]

theorem oneFails_runs : (runWithin (RemoteKvManagerAdapter.step outcomes bothCallbacks)
    (Prompt (fun _ _ => True) bothCallbacks) { kvManager := ∅ } oneFails).isSome = true := by
  decide +kernel

/-- The reports of a burst with a failure. -/
theorem bursts_reported_oneFails : countOf 0 ((runWithin
    (RemoteKvManagerAdapter.step outcomes bothCallbacks)
    (Prompt (fun _ _ => True) bothCallbacks) { kvManager := ∅ } oneFails).get
      oneFails_runs).fired ≤ 1 :=
  (bursts_reported outcomes_lawful rfl (reaches_get oneFails_runs)).2.1 0

/-- The poll sees the failure of the first layer while more layers may still be enqueued. -/
def failsEarly : List (Call (UInt64 × Bool)) :=
  [.startBurst 7, .enqueueMigrationInBurst 7 0 1 0 32, .migrateLayer 1 0, .manager (1, false),
    .pollBegin [1], .readStatus, .handleStatus, .sweepGroups, .fire]

theorem failsEarly_runs : (runWithin (RemoteKvManagerAdapter.step outcomes bothCallbacks)
    (fun _ _ => True) { kvManager := ∅ } failsEarly).isSome = true := by
  decide +kernel

/-- An event is fired for a burst that is not finished. -/
theorem fired_before_finish : ¬ ∀ adapter,
    Reaches (RemoteKvManagerAdapter.step outcomes bothCallbacks) (fun _ _ => True)
      { kvManager := ∅ } adapter →
    ∀ report ∈ adapter.fired, ∀ token group, adapter.groups.lookup token = some group →
      group.startedAt = report.burst → group.closed = true := by
  intro closed
  have early : ((runWithin (RemoteKvManagerAdapter.step outcomes bothCallbacks)
      (fun _ _ => True) { kvManager := ∅ } failsEarly).get failsEarly_runs).fired = [⟨7, 0, .failed⟩] := by
    decide +kernel
  have unfinished : (((runWithin (RemoteKvManagerAdapter.step outcomes bothCallbacks)
      (fun _ _ => True) { kvManager := ∅ } failsEarly).get failsEarly_runs).groups.lookup 7).map
        (fun group => (group.startedAt, group.closed)) = some (0, false) := by
    decide +kernel
  obtain ⟨group, found, fields⟩ := Option.map_eq_some_iff.mp unfinished
  obtain ⟨burst, open_⟩ := Prod.mk.inj fields
  have finished := closed _ (reaches_get failsEarly_runs) ⟨7, 0, .failed⟩
    (early ▸ List.mem_singleton_self _) 7 group found burst
  exact absurd (finished.symm.trans open_) nofun

end InferenceServer.RemoteKv
