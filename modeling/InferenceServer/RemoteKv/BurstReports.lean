import InferenceServer.RemoteKv.BurstLedger

/-! What is reported of a burst. Its one event is fired, waits for its callback or is still owed by
its group, and tells what became of its requests. -/
namespace InferenceServer.RemoteKv

open Machine

/-- The event of a burst tells whether all its requests were successful. -/
def Truthful (status : UInt64 → MigrationStatus) (requests : Table UInt64 Nat) (report : Report) :
    Prop :=
  if report.signal = .complete true then
    ∀ id, requests.lookup id = some report.burst → status id = .successful
  else ∃ id, requests.lookup id = some report.burst ∧ status id = .failed

/-- The burst is over and its group is gone. -/
def Retired (started : Nat) (groups : Table UInt64 MigrationGroup) (burst : Nat) : Prop :=
  burst < started ∧ ∀ token group, groups.lookup token = some group → group.startedAt ≠ burst

/-- Events are true, and one that is no failure is of a burst that is over. -/
structure Reported (status : UInt64 → MigrationStatus) (started : Nat) (requests : Table UInt64 Nat)
    (groups : Table UInt64 MigrationGroup) (reports : List Report) : Prop where
  truthful : ∀ report ∈ reports, Truthful status requests report
  retired : ∀ report ∈ reports, report.signal ≠ .failed → Retired started groups report.burst

namespace Poll

def reports (poll : Poll) : List Report := poll.failuresToFire ++ poll.completionsToFire

/-- The events of a poll that a callback will get. -/
def due (callbacks : Callbacks) (poll : Poll) : List Report :=
  (if callbacks.onFailed then poll.failuresToFire else []) ++ poll.completionsToFire

end Poll

namespace RemoteKvManagerAdapter

variable {Manager : Type*}

def reports (adapter : RemoteKvManagerAdapter Manager) : List Report :=
  adapter.fired ++ adapter.poll.elim [] Poll.reports

def due (callbacks : Callbacks) (adapter : RemoteKvManagerAdapter Manager) : List Report :=
  adapter.poll.elim [] (Poll.due callbacks)

end RemoteKvManagerAdapter

def countOf (burst : Nat) (reports : List Report) : Nat := reports.countP (·.burst = burst)

/-- An event that the group has yet to bring about. -/
def owes (callbacks : Callbacks) (burst : Nat) (_ : UInt64) (group : MigrationGroup) : Nat :=
  if group.startedAt = burst ∧ ¬ (callbacks.onFailed ∧ group.failed) then 1 else 0

theorem countOf_append (burst : Nat) (reports more : List Report) :
    countOf burst (reports ++ more) = countOf burst reports + countOf burst more :=
  List.countP_append

theorem countOf_cons (burst : Nat) (report : Report) (reports : List Report) :
    countOf burst (report :: reports) = countOf burst [report] + countOf burst reports :=
  countOf_append burst [report] reports

theorem countOf_nil (burst : Nat) : countOf burst [] = 0 := rfl

section Owed

variable {callbacks : Callbacks} {burst : Nat} {token : UInt64} {group : MigrationGroup}

/-- The event of a group that retires is the one that it owed. -/
theorem countOf_completion :
    countOf burst (group.completion callbacks token) = owes callbacks burst token group := by
  unfold MigrationGroup.completion owes countOf
  cases failed : group.failed <;> cases callbacks.onFailed <;> simp [List.countP_cons]

/-- The event of a failure is the one that the group owed, if a callback gets it. -/
theorem countOf_failure (reported : group.failedReported = group.failed) (id : UInt64)
    (status : MigrationStatus) :
    countOf burst (if callbacks.onFailed then group.failure token status else []) +
      owes callbacks burst token (group.settle id status) = owes callbacks burst token group := by
  unfold MigrationGroup.failure MigrationGroup.settle owes countOf
  rw [reported]
  by_cases isOver : status = .failed
  · cases failed : group.failed <;> cases callbacks.onFailed <;> simp [isOver, List.countP_cons]
  · cases callbacks.onFailed <;> simp [isOver]

theorem owes_congr {changed : MigrationGroup} (same : changed.startedAt = group.startedAt)
    (failed : changed.failed = group.failed) :
    owes callbacks burst token changed = owes callbacks burst token group := by
  rw [owes, owes, same, failed]

theorem total_owes_replace {groups : Table UInt64 MigrationGroup}
    (found : groups.lookup token = some group) {changed : MigrationGroup} :
    Table.total (owes callbacks burst) (groups.insert token changed) +
        owes callbacks burst token group =
      groups.total (owes callbacks burst) + owes callbacks burst token changed := by
  rw [Table.total_insert, Table.total_erase (owes callbacks burst) found]
  exact Nat.add_right_comm _ _ _

end Owed

namespace Reported

variable {status newStatus : UInt64 → MigrationStatus} {started : Nat}
variable {requests : Table UInt64 Nat} {groups : Table UInt64 MigrationGroup}
variable {reports : List Report} {token : UInt64} {group : MigrationGroup}

section

variable (reported : Reported status started requests groups reports)
include reported

theorem sublist {fewer : List Report} (kept : ∀ report ∈ fewer, report ∈ reports) :
    Reported status started requests groups fewer :=
  ⟨fun report member => reported.truthful report (kept report member),
    fun report member => reported.retired report (kept report member)⟩

theorem start (uuid : UInt64) :
    Reported status (started + 1) requests (groups.insert uuid { startedAt := started }) reports := by
  refine ⟨reported.truthful, fun report member final => ?_⟩
  obtain ⟨earlier, gone⟩ := reported.retired report member final
  refine ⟨Nat.lt_succ_of_lt earlier, fun token group found => ?_⟩
  rw [Table.lookup_insert_if] at found
  split at found
  · cases found
    exact (Nat.ne_of_lt earlier).symm
  · exact gone token group found

theorem replace (found : groups.lookup token = some group) {changed : MigrationGroup}
    (same : changed.startedAt = group.startedAt) :
    Reported status started requests (groups.insert token changed) reports := by
  refine ⟨reported.truthful, fun report member final => ?_⟩
  obtain ⟨earlier, gone⟩ := reported.retired report member final
  refine ⟨earlier, fun other otherGroup present => ?_⟩
  rw [Table.lookup_insert_if] at present
  split at present
  · cases present
    exact same ▸ gone token group found
  · exact gone other otherGroup present

theorem later (settles : Settles requests status newStatus) :
    Reported newStatus started requests groups reports := by
  refine ⟨fun report member => ?_, reported.retired⟩
  have before := reported.truthful report member
  unfold Truthful at before ⊢
  split at before
  · rename_i fine
    rw [if_pos fine]
    intro id asked
    have isOver := before id asked
    exact (settles.kept asked (isOver ▸ .inl rfl)).trans isOver
  · rename_i failed
    rw [if_neg failed]
    obtain ⟨id, asked, isOver⟩ := before
    exact ⟨id, asked, (settles.kept asked (isOver ▸ .inr rfl)).trans isOver⟩

/-- A request for a burst that is still open tells nothing of the events so far. -/
theorem request (found : groups.lookup token = some group) {id : UInt64}
    (new : requests.lookup id = none) :
    Reported status started (requests.insert id group.startedAt) groups reports := by
  refine ⟨fun report member => ?_, reported.retired⟩
  have before := reported.truthful report member
  unfold Truthful at before ⊢
  split at before
  · rename_i fine
    rw [if_pos fine]
    intro other asked
    rw [Table.lookup_insert_if] at asked
    split at asked
    · have final : report.signal ≠ .failed := by
        rw [fine]
        exact nofun
      exact absurd (Option.some.inj asked) ((reported.retired report member final).2 token group found)
    · exact before other asked
  · rename_i failed
    rw [if_neg failed]
    obtain ⟨other, asked, isOver⟩ := before
    have different : other ≠ id := by
      rintro rfl
      rw [new] at asked
      cases asked
    exact ⟨other, (AList.lookup_insert_ne different).trans asked, isOver⟩

theorem append {more : List Report} (added : Reported status started requests groups more) :
    Reported status started requests groups (reports ++ more) :=
  ⟨List.forall_mem_append.mpr ⟨reported.truthful, added.truthful⟩,
    List.forall_mem_append.mpr ⟨reported.retired, added.retired⟩⟩

end

theorem nil : Reported status started requests groups [] := ⟨nofun, nofun⟩

/-- The event of a failure is true. -/
theorem failure {id : UInt64} (asked : requests.lookup id = some group.startedAt) :
    Reported status started requests groups (group.failure token (status id)) := by
  unfold MigrationGroup.failure
  split
  · rename_i failed
    refine ⟨fun report member => ?_, fun report member final => ?_⟩
    all_goals obtain rfl := List.mem_singleton.mp member
    · rw [Truthful, if_neg nofun]
      exact ⟨id, asked, failed.1⟩
    · exact absurd rfl final
  · exact nil

/-- The event of a group that is done is true, and the group goes. -/
theorem retire (reported : Reported status started requests groups reports)
    {kafkaToGroup : Table UInt64 UInt64}
    (grouped : Grouped status started requests groups kafkaToGroup) {callbacks : Callbacks}
    (found : groups.lookup token = some group) (empty : group.pendingKafkaIds = ∅) :
    Reported status started requests (groups.erase token)
      (reports ++ group.completion callbacks token) := by
  have kept : ∀ other otherGroup, (groups.erase token).lookup other = some otherGroup →
      other ≠ token ∧ groups.lookup other = some otherGroup := by
    intro other otherGroup present
    rw [Table.lookup_erase_if] at present
    split at present
    · cases present
    · rename_i different
      exact ⟨different, present⟩
  have own := grouped.own token group found
  have gone : Retired started (groups.erase token) group.startedAt := by
    refine ⟨grouped.numbered.below token group found, fun other otherGroup present same => ?_⟩
    obtain ⟨different, earlier⟩ := kept other otherGroup present
    exact different (grouped.numbered.distinct other otherGroup token group earlier found same)
  refine append ⟨reported.truthful, fun report member final => ?_⟩ ?_
  · obtain ⟨before, absent⟩ := reported.retired report member final
    exact ⟨before, fun other otherGroup present =>
      absent other otherGroup (kept other otherGroup present).2⟩
  · unfold MigrationGroup.completion
    cases failed : group.failed with
    | false =>
      refine ⟨fun report member => ?_, fun report member _ => ?_⟩
      all_goals obtain rfl := List.mem_singleton.mp member
      · rw [Truthful, if_pos rfl]
        intro id asked
        refine (own.fine failed id asked).resolve_left fun waiting => ?_
        rw [empty] at waiting
        exact absurd waiting (Finset.notMem_empty id)
      · exact gone
    | true =>
      split
      · rename_i impossible
        cases impossible
      · split
        · refine ⟨fun report member => ?_, fun report member _ => ?_⟩
          all_goals obtain rfl := List.mem_singleton.mp member
          · rw [Truthful, if_neg nofun]
            exact own.failed failed
          · exact gone
        · exact nil

end Reported

end InferenceServer.RemoteKv
