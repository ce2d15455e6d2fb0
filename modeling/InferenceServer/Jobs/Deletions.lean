import InferenceServer.Jobs.MergeLinks

/-! Deleting a training job over several steps. While its ids are set apart no merge job can be
added to it, so that the merge jobs that the deletion has still to take away are those that were
found when it started. -/
namespace InferenceServer.Jobs

open Machine JobManager

variable {manager next : JobManager} {label : Label} {before after : Records} {root id : Nat}
variable {token : Nat} {deletion : Deletion}

/-- A live job that is the training job, or a merge job that starts from it. -/
def Concerned (jobs : Records) (root id : Nat) : Prop :=
  ∃ job, jobs.lookup id = some job ∧ (id = root ∧ job.jobType = .training ∨
    job.jobType = .adapterMerge ∧ job.sourceJobId = some root)

theorem Concerned.live {jobs : Records} (concerned : Concerned jobs root id) :
    (jobs.lookup id).isSome := by
  obtain ⟨job, found, _⟩ := concerned
  rw [found]
  rfl

theorem Concerned.shrinks (concerned : Concerned after root id) (shrinks : Shrinks before after) :
    Concerned before root id := by
  obtain ⟨job, found, which⟩ := concerned
  obtain ⟨old, present, _, type, source, _⟩ := shrinks id job found
  rw [← type, ← source] at which
  exact ⟨old, present, which⟩

/-- A job that starts to concern a training job comes with it, or finds it live and not set
apart. -/
theorem Concerned.does (concerned : Concerned next.jobs root id) (known : Known manager)
    (does : Does manager label next) : Concerned manager.jobs root id ∨ root = manager.created ∨
      root ∉ manager.deletingJobIds ∧ Concerned manager.jobs root root := by
  cases changes_of_does does with
  | shrinks shrinks => exact .inl (concerned.shrinks shrinks)
  | creates creates =>
    obtain ⟨job, found, which⟩ := concerned
    rcases creates.lookup found with ⟨old, present, _, type, source, _⟩ | ⟨here, _, parent⟩
    · rw [← type, ← source] at which
      exact .inl ⟨old, present, which⟩
    · rcases which with ⟨rfl, _⟩ | ⟨merge, source⟩
      · exact .inr (.inl here)
      · obtain ⟨named, trainer, origin, live, training, free⟩ := parent merge
        obtain rfl := Option.some.inj (origin.symm.trans source)
        rw [(known.ids _ trainer live).1] at free
        exact .inr (.inr ⟨free, trainer, live, .inl ⟨rfl, training⟩⟩)
  | restores job taken jobs =>
    obtain ⟨found, present, which⟩ := concerned
    rw [jobs, Table.lookup_insert_if] at present
    split at present
    · cases present
      have exempt := (known.taken job (.inr taken)).1
      rcases which with ⟨_, training⟩ | ⟨merge, _⟩
      · rw [training] at exempt
        cases exempt
      · rw [merge] at exempt
        cases exempt
    · exact .inl ⟨found, present, which⟩

namespace Deletion

/-- What a deletion has still to take away, unless it has failed. -/
def left (deletion : Deletion) : Option (List JobRecord) :=
  match deletion.stage with
  | .stopping => some deletion.jobs
  | .deleting remaining => some remaining
  | .erased job remaining => some (job :: remaining)
  | .failed => none

/-- The same deletion, with no more taken off its list than has left memory. -/
structure Continues (jobs : Records) (before after : Deletion) : Prop where
  root : after.root = before.root
  children : after.children = before.children
  left : ∀ remaining, after.left = some remaining → ∃ earlier, before.left = some earlier ∧
    ∀ id ∈ earlier.map JobRecord.id, (jobs.lookup id).isSome → id ∈ remaining.map JobRecord.id

theorem Continues.refl (jobs : Records) (deletion : Deletion) : Continues jobs deletion deletion :=
  ⟨rfl, rfl, fun remaining same => ⟨remaining, same, fun _ listed _ => listed⟩⟩

theorem Continues.jobs {jobs : Records} {before after : Deletion}
    (continues : Continues jobs before after) : after.jobs = before.jobs := by
  rw [Deletion.jobs, Deletion.jobs, continues.root, continues.children]

end Deletion

/-- A deletion that has just set its ids apart. -/
structure Starts (manager next : JobManager) (deletion : Deletion) : Prop where
  checked : Checked manager deletion.root.id deletion.root deletion.children
  apart : next.deletingJobIds = deletion.jobs.map JobRecord.id ++ manager.deletingJobIds
  shrinks : Shrinks manager.jobs next.jobs
  left : ∃ remaining, deletion.left = some remaining ∧ ∀ job, job ∈ deletion.jobs → job ∈ remaining

/-- What a step does to a deletion in progress after it. -/
inductive Progress (manager next : JobManager) (token : Nat) (deletion : Deletion) : Prop
  | continues (before : Deletion) (found : manager.deletions.lookup token = some before)
      (continues : Deletion.Continues next.jobs before deletion)
      (started : manager.deletesStarted ≤ next.deletesStarted)
  | starts (new : token = manager.deletesStarted) (started : manager.deletesStarted <
      next.deletesStarted) (starts : Starts manager next deletion)

theorem progress_of_startDeletion {job : JobRecord} {children : List JobRecord} {stage : Stage}
    {set : JobManager} (deletions : set.deletions = manager.deletions)
    (started : set.deletesStarted = manager.deletesStarted)
    (found : (set.startDeletion job children stage).deletions.lookup token = some deletion)
    (starts : Starts manager (set.startDeletion job children stage) { root := job, children, stage }) :
    Progress manager (set.startDeletion job children stage) token deletion := by
  have later : manager.deletesStarted < (set.startDeletion job children stage).deletesStarted := by
    rw [startDeletion, started]
    exact Nat.lt_succ_self _
  rw [startDeletion, Table.lookup_insert_if] at found
  split at found
  · rename_i here
    cases found
    exact .starts (here.trans started) later starts
  · rw [deletions] at found
    exact .continues deletion found (.refl _ _) later.le

theorem progress_of_setStage {set : JobManager} {other : Nat} {moved : Deletion} {stage : Stage}
    (deletions : set.deletions = manager.deletions)
    (started : set.deletesStarted = manager.deletesStarted)
    (moving : manager.deletions.lookup token = some moved)
    (continues : Deletion.Continues set.jobs moved { moved with stage })
    (found : (set.setStage token stage).deletions.lookup other = some deletion) :
    Progress manager (set.setStage token stage) other deletion := by
  rw [setStage, Table.lookup_modify, deletions] at found
  split at found
  · rename_i here
    subst here
    rw [moving] at found
    cases found
    exact .continues moved moving continues started.ge
  · exact .continues deletion found (.refl _ _) started.ge

theorem popJob_rest (manager : JobManager) (job : JobRecord) :
    (manager.popJob job).deletions = manager.deletions ∧
      (manager.popJob job).deletesStarted = manager.deletesStarted ∧
      (manager.popJob job).deletingJobIds = manager.deletingJobIds ∧
      (manager.popJob job).created = manager.created ∧
      (manager.popJob job).returned = manager.returned := by
  unfold popJob
  split <;> exact ⟨rfl, rfl, rfl, rfl, rfl⟩

theorem popJob_absent (manager : JobManager) (job : JobRecord) :
    (manager.popJob job).jobs.lookup job.id = none := by
  have absent : (manager.jobs.erase job.id).lookup job.id = none := AList.lookup_erase ..
  unfold popJob
  split
  · rw [Table.lookup_modify, absent]
    split
    · rename_i same
      rw [← same, absent]
      rfl
    · rfl
  · exact absent

theorem creates_rest (creates : Creates manager next) :
    next.deletions = manager.deletions ∧ next.deletesStarted = manager.deletesStarted ∧
      next.deletingJobIds = manager.deletingJobIds ∧ manager.created ≤ next.created ∧
      next.returned = manager.returned := by
  cases creates with
  | nothing => exact ⟨rfl, rfl, rfl, le_rfl, rfl⟩
  | plain | merge => exact ⟨rfl, rfl, rfl, Nat.le_succ _, rfl⟩

theorem progress_of_does (known : Known manager) (does : Does manager label next)
    (found : next.deletions.lookup token = some deletion) :
    Progress manager next token deletion := by
  cases does with
  | createJob =>
    obtain ⟨deletions, started, _⟩ := creates_rest (creates_of_createJob manager _ _ _ _ _)
    rw [deletions] at found
    exact .continues deletion found (.refl _ _) started.ge
  | @start id orgId validates assignment job children checked terminal =>
    have checked := checked_of_checkDelete checked
    obtain rfl := (known.ids _ _ checked.found).1
    refine progress_of_startDeletion rfl rfl found
      ⟨checked, rfl, .refl _, _, rfl, fun member listed => ?_⟩
    rcases List.mem_cons.mp listed with rfl | child
    · exact List.mem_append_right _ List.mem_cons_self
    · exact List.mem_append_left _ child
  | @startStopping id orgId validates assignment job children checked active =>
    have checked := checked_of_checkDelete checked
    obtain rfl := (known.ids _ _ checked.found).1
    exact progress_of_startDeletion rfl rfl found
      ⟨checked, rfl, .markCancelling _ _, _, rfl, fun _ listed => listed⟩
  | @stop token stopped moved moving stage =>
    refine progress_of_setStage rfl rfl moving ⟨rfl, rfl, fun remaining left => ?_⟩ found
    refine ⟨moved.jobs, by rw [Deletion.left, stage], fun id listed _ => ?_⟩
    cases stopped with
    | false => cases left
    | true =>
      cases left
      rw [Deletion.order, List.map_append, List.mem_append]
      rcases List.mem_cons.mp listed with rfl | child
      · exact .inr List.mem_cons_self
      · exact .inl child
  | @erase token erased moved job remaining moving stage =>
    refine progress_of_setStage rfl rfl moving ⟨rfl, rfl, fun others left => ?_⟩ found
    refine ⟨job :: remaining, by rw [Deletion.left, stage], fun id listed _ => ?_⟩
    cases erased with
    | false => cases left
    | true =>
      cases left
      exact listed
  | @pop token moved job remaining moving stage =>
    obtain ⟨deletions, started, _⟩ := popJob_rest manager job
    refine progress_of_setStage deletions started moving ⟨rfl, rfl, fun others left => ?_⟩ found
    refine ⟨job :: remaining, by rw [Deletion.left, stage], fun id listed live => ?_⟩
    cases left
    rcases List.mem_cons.mp listed with rfl | later
    · rw [popJob_absent] at live
      cases live
    · exact later
  | @finish token ended moving done =>
    rw [finishDeletion, Table.lookup_erase_if] at found
    split at found
    · cases found
    · exact .continues deletion found (.refl _ _) le_rfl
  | setStatus | refuse | abandon | scan | remove | forget | restore | shutdown =>
    exact .continues deletion found (.refl _ _) le_rfl

/-! ### What a deletion in progress holds -/

/-- The ids of deletions in progress are set apart, each for one deletion. -/
structure Guarded (manager : JobManager) : Prop where
  fresh : ∀ token deletion, manager.deletions.lookup token = some deletion →
    token < manager.deletesStarted
  apart : ∀ token deletion, manager.deletions.lookup token = some deletion →
    ∀ id ∈ deletion.jobs.map JobRecord.id, id ∈ manager.deletingJobIds
  disjoint : ∀ token deletion other found, manager.deletions.lookup token = some deletion →
    manager.deletions.lookup other = some found → ∀ id ∈ deletion.jobs.map JobRecord.id,
    id ∈ found.jobs.map JobRecord.id → token = other
  below : ∀ id ∈ manager.deletingJobIds, id < manager.created

/-- Everything live that concerns a training job is still on the list of its deletion. -/
def Pending (manager : JobManager) : Prop :=
  ∀ token deletion, manager.deletions.lookup token = some deletion →
    deletion.root.jobType = .training → ∀ remaining, deletion.left = some remaining →
    ∀ id, Concerned manager.jobs deletion.root.id id → id ∈ remaining.map JobRecord.id

/-- Nothing live concerns a training job whose deletion has returned. -/
def Returned (manager : JobManager) : Prop :=
  ∀ root ∈ manager.returned, root < manager.created ∧ ∀ id, ¬ Concerned manager.jobs root id

section

variable (does : Does manager label next)
include does

theorem created_le : manager.created ≤ next.created := by
  cases changes_of_does does with
  | shrinks _ created => exact created.ge
  | creates creates => exact (creates_rest creates).2.2.2.1
  | restores job taken jobs created => exact created.ge

/-- Only the end of a deletion puts ids back. -/
theorem kept_of_does (listed : id ∈ manager.deletingJobIds) :
    id ∈ next.deletingJobIds ∨ ∃ token deletion, manager.deletions.lookup token = some deletion ∧
      id ∈ deletion.jobs.map JobRecord.id ∧ next.deletions.lookup token = none := by
  cases does with
  | createJob =>
    rw [(creates_rest (creates_of_createJob manager _ _ _ _ _)).2.2.1]
    exact .inl listed
  | start | abandon | startStopping => exact .inl (List.mem_append_right _ listed)
  | @pop token moved job remaining moving stage =>
    refine .inl ?_
    rw [setStage, (popJob_rest manager job).2.2.1]
    exact listed
  | @finish token deletion found ended =>
    by_cases own : id ∈ deletion.jobs.map JobRecord.id
    · exact .inr ⟨token, deletion, found, own, AList.lookup_erase ..⟩
    · exact .inl (List.mem_filter.mpr ⟨listed, decide_eq_true own⟩)
  | setStatus | refuse | stop | erase | scan | remove | forget | restore | shutdown =>
    exact .inl listed

/-- Ids are set apart when a deletion, or one that is abandoned, has checked its jobs. -/
theorem apart_of_does (known : Known manager) (listed : id ∈ next.deletingJobIds) :
    id ∈ manager.deletingJobIds ∨ id < manager.created := by
  have checked : ∀ {id' orgId validates job children},
      manager.checkDelete id' orgId validates = some (job, children) →
      id ∈ (job :: children).map JobRecord.id ++ manager.deletingJobIds →
      id ∈ manager.deletingJobIds ∨ id < manager.created := by
    intro id' orgId validates job children checked listed
    have checked := checked_of_checkDelete checked
    rcases List.mem_append.mp listed with new | old
    · refine .inr ?_
      obtain ⟨member, among, rfl⟩ := List.mem_map.mp new
      rcases List.mem_cons.mp among with rfl | child
      · have numbered := known.ids _ _ checked.found
        exact numbered.1.trans_lt numbered.2
      · obtain ⟨childId, live⟩ := checked.live member child
        have numbered := known.ids _ _ live
        exact numbered.1.trans_lt numbered.2
    · exact .inl old
  cases does with
  | createJob =>
    rw [(creates_rest (creates_of_createJob manager _ _ _ _ _)).2.2.1] at listed
    exact .inl listed
  | start passed | abandon passed | startStopping passed => exact checked passed listed
  | @pop token moved job remaining moving stage =>
    rw [setStage, (popJob_rest manager job).2.2.1] at listed
    exact .inl listed
  | finish => exact .inl (List.mem_filter.mp listed).1
  | setStatus | refuse | stop | erase | scan | remove | forget | restore | shutdown =>
    exact .inl listed

end

theorem Starts.ids (starts : Starts manager next deletion)
    (listed : id ∈ deletion.jobs.map JobRecord.id) : id ∉ manager.deletingJobIds := by
  obtain ⟨member, among, rfl⟩ := List.mem_map.mp listed
  exact starts.checked.free member among

theorem Guarded.does (guarded : Guarded manager) (known : Known manager)
    (does : Does manager label next) : Guarded next := by
  have shared : ∀ token deletion other found, next.deletions.lookup token = some deletion →
      next.deletions.lookup other = some found → ∀ id ∈ deletion.jobs.map JobRecord.id,
      id ∈ found.jobs.map JobRecord.id → token = other := by
    intro token deletion other found here there id own shared
    cases progress_of_does known does here with
    | continues before present continues =>
      rw [continues.jobs] at own
      cases progress_of_does known does there with
      | continues earlier at_ goes =>
        rw [goes.jobs] at shared
        exact guarded.disjoint token before other earlier present at_ id own shared
      | starts new started starts =>
        exact absurd (guarded.apart token before present id own) (starts.ids shared)
    | starts new started starts =>
      cases progress_of_does known does there with
      | continues earlier at_ goes =>
        rw [goes.jobs] at shared
        exact absurd (guarded.apart other earlier at_ id shared) (starts.ids own)
      | starts also _ _ => exact new.trans also.symm
  refine ⟨fun token deletion found => ?_, fun token deletion found id listed => ?_, shared,
    fun id listed => ?_⟩
  · cases progress_of_does known does found with
    | continues before present continues started =>
      exact (guarded.fresh token before present).trans_le started
    | starts new started starts => exact new.trans_lt started
  · cases progress_of_does known does found with
    | continues before present continues started =>
      rw [continues.jobs] at listed
      rcases kept_of_does does (guarded.apart token before present id listed) with kept | ended
      · exact kept
      · obtain ⟨other, gone, there, own, absent⟩ := ended
        obtain rfl := guarded.disjoint token before other gone present there id listed own
        rw [absent] at found
        cases found
    | starts new started starts =>
      rw [starts.apart]
      exact List.mem_append_left _ listed
  · rcases apart_of_does does known listed with old | below
    · exact (guarded.below id old).trans_le (created_le does)
    · exact below.trans_le (created_le does)

/-- Nothing comes to concern a training job while it is being deleted. -/
theorem Guarded.concerned (guarded : Guarded manager) (known : Known manager)
    (does : Does manager label next) (found : manager.deletions.lookup token = some deletion)
    (concerned : Concerned next.jobs deletion.root.id id) :
    Concerned manager.jobs deletion.root.id id := by
  have apart : deletion.root.id ∈ manager.deletingJobIds :=
    guarded.apart token deletion found _ List.mem_cons_self
  rcases concerned.does known does with before | new | ⟨free, _⟩
  · exact before
  · exact absurd new (Nat.ne_of_lt (guarded.below _ apart))
  · exact absurd apart free

theorem Pending.does (pending : Pending manager) (guarded : Guarded manager)
    (linked : Linked manager.jobs) (known : Known manager) (does : Does manager label next) :
    Pending next := by
  intro token deletion found training remaining left id concerned
  cases progress_of_does known does found with
  | continues before present continues started =>
    have live := concerned.live
    rw [continues.root] at training concerned
    obtain ⟨earlier, was, kept⟩ := continues.left remaining left
    have listed := pending token before present training earlier was id
      (guarded.concerned known does present concerned)
    exact kept id listed live
  | starts new started starts =>
    obtain ⟨all, whole, complete⟩ := starts.left
    rw [left] at whole
    cases whole
    have checked := starts.checked
    obtain ⟨job, live, ⟨rfl, _⟩ | ⟨merge, source⟩⟩ := concerned.shrinks starts.shrinks
    · exact List.mem_map_of_mem (complete _ List.mem_cons_self)
    · have listed := linked _ _ id job checked.found live training merge source
      have child := checked.complete training id listed job live
      rw [← (known.ids id job live).1]
      exact List.mem_map_of_mem (complete job (List.mem_cons_of_mem _ child))

theorem Returned.does (returned : Returned manager) (pending : Pending manager)
    (guarded : Guarded manager) (known : Known manager) (does : Does manager label next) :
    Returned next := by
  intro root listed
  have kept : ∀ root ∈ manager.returned,
      root < next.created ∧ ∀ id, ¬ Concerned next.jobs root id := by
    intro root listed
    obtain ⟨below, none⟩ := returned root listed
    refine ⟨below.trans_le (created_le does), fun id concerned => ?_⟩
    rcases concerned.does known does with before | new | ⟨_, live⟩
    · exact none id before
    · exact absurd new (Nat.ne_of_lt below)
    · exact none root live
  cases does with
  | @finish token deletion found ended =>
    simp only [finishDeletion] at listed
    split at listed
    · rename_i done
      rcases List.mem_cons.mp listed with rfl | earlier
      · have apart := guarded.apart token deletion found _ List.mem_cons_self
        refine ⟨guarded.below _ apart, fun id concerned => ?_⟩
        have left : deletion.left = some [] := by rw [Deletion.left, done.1]
        cases pending token deletion found done.2 [] left id concerned
      · exact kept root earlier
    · exact kept root listed
  | createJob =>
    rw [(creates_rest (creates_of_createJob manager _ _ _ _ _)).2.2.2.2] at listed
    exact kept root listed
  | @pop token moved job remaining moving stage =>
    rw [setStage, (popJob_rest manager job).2.2.2.2] at listed
    exact kept root listed
  | setStatus | refuse | start | abandon | startStopping | stop | erase | scan | remove | forget
  | restore | shutdown => exact kept root listed

end InferenceServer.Jobs
