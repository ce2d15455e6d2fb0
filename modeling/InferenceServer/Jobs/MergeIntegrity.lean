import InferenceServer.Jobs.Deletions

/-! Training jobs and their merge jobs over whole runs. All holds in every run but the last part:
an id stays set apart when the read of the worker assignment raises, before the `try` whose
`finally` takes the ids back. -/
namespace InferenceServer.Jobs

open Machine JobManager

variable {manager next : JobManager} {label : Label} {root id : Nat}

/-- The read of the worker assignment does not raise in a deletion that has set its ids apart. -/
def AssignmentRead (manager : JobManager) : Label → Prop
  | .deleteJob id orgId validates .raises => ∀ job children,
      manager.checkDelete id orgId validates = some (job, children) →
      job.status.isTerminal = false → job.replaceable = false
  | _ => True

/-- Every id that is set apart is one of a deletion in progress. -/
def Exact (manager : JobManager) : Prop :=
  ∀ id ∈ manager.deletingJobIds, ∃ token deletion,
    manager.deletions.lookup token = some deletion ∧ id ∈ deletion.jobs.map JobRecord.id

section

variable (held : Exact manager)
include held

theorem Exact.setStage {token : Nat} {stage : Stage} : Exact (manager.setStage token stage) := by
  intro id listed
  obtain ⟨other, deletion, found, own⟩ := held id listed
  have moved := Table.lookup_modify token (fun deletion : Deletion => { deletion with stage })
    manager.deletions other
  split at moved
  · rename_i here
    rw [← here, found] at moved
    rw [← here]
    exact ⟨other, { deletion with stage }, moved, own⟩
  · exact ⟨other, deletion, moved.trans found, own⟩

theorem Exact.startDeletion {job : JobRecord} {children : List JobRecord} {stage : Stage}
    {set : JobManager} (guarded : Guarded manager) (deletions : set.deletions = manager.deletions)
    (started : set.deletesStarted = manager.deletesStarted)
    (apart : set.deletingJobIds = (job :: children).map JobRecord.id ++ manager.deletingJobIds) :
    Exact (set.startDeletion job children stage) := by
  intro id listed
  rw [JobManager.startDeletion, apart] at listed
  rcases List.mem_append.mp listed with new | old
  · exact ⟨set.deletesStarted, { root := job, children, stage }, AList.lookup_insert .., new⟩
  · obtain ⟨token, deletion, found, own⟩ := held id old
    have earlier := guarded.fresh token deletion found
    refine ⟨token, deletion, ?_, own⟩
    rw [JobManager.startDeletion, Table.lookup_insert_if, started, if_neg (Nat.ne_of_lt earlier),
      deletions]
    exact found

theorem Exact.does (guarded : Guarded manager) (read : AssignmentRead manager label)
    (does : Does manager label next) : Exact next := by
  cases does with
  | createJob =>
    obtain ⟨deletions, _, apart, _⟩ := creates_rest (creates_of_createJob manager _ _ _ _ _)
    intro id listed
    rw [apart] at listed
    rw [deletions]
    exact held id listed
  | start => exact held.startDeletion guarded rfl rfl rfl
  | abandon checked active replaceable raises =>
    subst raises
    rw [read _ _ checked active] at replaceable
    cases replaceable
  | startStopping => exact held.startDeletion guarded rfl rfl rfl
  | stop | erase => exact held.setStage
  | @pop token moved job remaining moving stage =>
    obtain ⟨deletions, _, apart, _⟩ := popJob_rest manager job
    refine Exact.setStage fun id listed => ?_
    rw [apart] at listed
    rw [deletions]
    exact held id listed
  | @finish token deletion found ended =>
    intro id listed
    obtain ⟨listed, foreign⟩ := List.mem_filter.mp listed
    obtain ⟨other, owner, there, own⟩ := held id listed
    refine ⟨other, owner, ?_, own⟩
    have different : token ≠ other := by
      rintro rfl
      rw [found] at there
      cases there
      exact of_decide_eq_true foreign own
    rw [finishDeletion, Table.lookup_erase_if, if_neg different.symm]
    exact there
  | setStatus | refuse | scan | remove | forget | restore | shutdown => exact held

end

/-- What holds between any two steps. -/
structure Sound (manager : JobManager) : Prop where
  linked : Linked manager.jobs
  known : Known manager
  guarded : Guarded manager
  pending : Pending manager
  returned : Returned manager

theorem Sound.initial (maxQueueSize maxJobs : Nat) : Sound { maxQueueSize, maxJobs } := by
  refine ⟨?_, ⟨?_, ?_, ?_⟩, ⟨?_, ?_, ?_, nofun⟩, ?_, nofun⟩
  · intro parentId parent childId child live
    cases live
  · intro id job live
    cases live
  · intro id job source live
    cases live
  · rintro job (taken | taken)
    · cases taken
    · cases taken
  · intro token deletion found
    cases found
  · intro token deletion found
    cases found
  · intro token deletion other found present
    cases present
  · intro token deletion found
    cases found

theorem Sound.does (sound : Sound manager) (does : Does manager label next) : Sound next where
  linked := sound.linked.changes sound.known (changes_of_does does)
  known := sound.known.does does
  guarded := sound.guarded.does sound.known does
  pending := sound.pending.does sound.guarded sound.linked sound.known does
  returned := sound.returned.does sound.pending sound.guarded sound.known does

theorem sound_of_reached {maxQueueSize maxJobs : Nat} {allowed : JobManager → Label → Prop}
    (reached : Reaches step allowed { maxQueueSize, maxJobs } manager) : Sound manager :=
  reached.invariant Sound (.initial _ _) fun _ _ _ sound _ stepped =>
    sound.does (does_of_step stepped)

theorem Returned.refuses (returned : Returned manager) (listed : root ∈ manager.returned) (orgId : Option String) :
    manager.parentJob orgId (some root) = none := by
  refine Option.eq_none_iff_forall_not_mem.mpr fun parent found => ?_
  obtain ⟨candidate, live, found⟩ := Option.bind_eq_some_iff.mp found
  split at found
  · cases found
  · rename_i neither
    have present := (Option.filter_eq_some_iff.mp live).1
    refine (returned root listed).2 root ⟨candidate, present, .inl ⟨rfl, ?_⟩⟩
    exact not_not.mp fun other => neither (.inl other)

/-- A live training job lists its live merge jobs; after the deletion of a training job has
returned no merge job starts from it or can be created for it; and without a deletion in progress
no id is set apart. -/
theorem merge_jobs_intact {maxQueueSize maxJobs : Nat}
    (reached : Reaches step AssignmentRead { maxQueueSize, maxJobs } manager) :
    (∀ parentId parent childId child, manager.jobs.lookup parentId = some parent →
      manager.jobs.lookup childId = some child → parent.jobType = .training →
      child.jobType = .adapterMerge → child.sourceJobId = some parentId →
      childId ∈ parent.adapterMergeJobIds) ∧
    (∀ root ∈ manager.returned,
      (∀ childId child, manager.jobs.lookup childId = some child →
        child.jobType = .adapterMerge → child.sourceJobId ≠ some root) ∧
      ∀ orgId replaceable inserted,
        manager.createJob .adapterMerge orgId (some root) replaceable inserted = manager) ∧
    (manager.deletions = ∅ → manager.deletingJobIds = []) := by
  have sound := sound_of_reached reached
  refine ⟨sound.linked, fun root listed => ⟨fun childId child live merge source => ?_,
    fun orgId replaceable inserted => ?_⟩, fun none => ?_⟩
  · exact (sound.returned root listed).2 childId ⟨child, live, .inr ⟨merge, source⟩⟩
  · rw [createJob, if_pos rfl, sound.returned.refuses listed]
    exact ite_self _
  · have held : Exact manager := by
      refine (reached.invariant (fun manager => Sound manager ∧ Exact manager)
        ⟨.initial _ _, nofun⟩ ?_).2
      exact fun _ _ _ both read stepped => ⟨both.1.does (does_of_step stepped),
        both.2.does both.1.guarded read (does_of_step stepped)⟩
    refine List.eq_nil_iff_forall_not_mem.mpr fun id listed => ?_
    obtain ⟨token, deletion, found, _⟩ := held id listed
    rw [none] at found
    cases found

/-- A training job with a merge job, both deleted. -/
def deleteBoth : List Label :=
  [.createJob .training none none true true, .createJob .adapterMerge none (some 0) false true,
    .setStatus 1 .completed, .deleteJob 0 none true (.reads (some ("worker", 12))), .stop 0 true,
    .erase 0 true, .pop 0, .erase 0 true, .pop 0, .finish 0]

instance (manager : JobManager) (label : Label) : Decidable (AssignmentRead manager label) :=
  match label with
  | .deleteJob id orgId validates .raises =>
    match checked : manager.checkDelete id orgId validates with
    | none => .isTrue fun _ _ found => by rw [checked] at found; cases found
    | some (job, _) => decidable_of_iff (job.status.isTerminal = false → job.replaceable = false)
        ⟨fun read _ _ found => by rw [checked] at found; cases found; exact read,
          fun read => read _ _ checked⟩
  | .deleteJob _ _ _ (.reads _) | .createJob .. | .setStatus .. | .stop .. | .erase .. | .pop _
  | .finish _ | .scan _ | .remove | .eraseRemoved _ | .shutdown => .isTrue trivial

theorem deleteBoth_runs : (runWithin step AssignmentRead { maxQueueSize := 8, maxJobs := 8 }
    deleteBoth).isSome = true := by
  decide +kernel

def bothDeleted : JobManager :=
  (runWithin step AssignmentRead { maxQueueSize := 8, maxJobs := 8 } deleteBoth).get
    deleteBoth_runs

theorem merge_jobs_intact_bothDeleted :
    bothDeleted.returned = [0] ∧ bothDeleted.deletingJobIds = [] ∧
      bothDeleted.createJob .adapterMerge none (some 0) false true = bothDeleted := by
  have intact := merge_jobs_intact (reaches_get deleteBoth_runs)
  have returned : bothDeleted.returned = [0] := by decide +kernel
  have ended : bothDeleted.deletions = ∅ :=
    AList.ext (List.isEmpty_iff.mp (by decide +kernel))
  exact ⟨returned, intact.2.2 ended,
    (intact.2.1 0 (by decide +kernel)).2 none false true⟩

/-- The read of the worker assignment raises after the id has been set apart. -/
def assignmentRaises : List Label :=
  [.createJob .training none none true true, .deleteJob 0 none true .raises]

theorem assignmentRaises_runs : (runWithin step (fun _ _ => True)
    { maxQueueSize := 8, maxJobs := 8 } assignmentRaises).isSome = true := by
  decide +kernel

/-- No deletion is in progress, and the id is still set apart. -/
theorem assignment_raises_keeps_id : ∃ manager : JobManager,
    Reaches step (fun _ _ => True) { maxQueueSize := 8, maxJobs := 8 } manager ∧
      manager.deletions = ∅ ∧ manager.deletingJobIds = [0] := by
  refine ⟨_, reaches_get assignmentRaises_runs, ?_, by decide +kernel⟩
  exact AList.ext (List.isEmpty_iff.mp (by decide +kernel))

end InferenceServer.Jobs
