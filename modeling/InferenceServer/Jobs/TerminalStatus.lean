import InferenceServer.Jobs.JobLifecycle

/-! A terminal status is final. Everything that writes a status from outside looks at it first,
and so does a cancellation that arrives in the job's own task; only a task function that still
returns or raises after its job has ended would write over it. -/
namespace InferenceServer.Jobs.Lifecycle

open Machine

/-- A later version of a job: a terminal status and a result path are kept. -/
structure Stays (before after : Job) : Prop where
  jobType : after.jobType = before.jobType
  status : before.status.isTerminal = true → after.status = before.status
  resultPath : ∀ path, path ≠ "" → before.resultPath = some path → after.resultPath = some path

namespace Stays

variable {before after : Job}

theorem refl (job : Job) : Stays job job := ⟨rfl, fun _ => rfl, fun _ _ path => path⟩

theorem trans {middle : Job} (first : Stays before middle) (second : Stays middle after) :
    Stays before after where
  jobType := second.jobType.trans first.jobType
  status terminal := by
    have same := first.status terminal
    exact (second.status (same.symm ▸ terminal)).trans same
  resultPath path named given := second.resultPath path named (first.resultPath path named given)

/-- A job that is not terminal may get any status. -/
theorem of_path (live : before.status.isTerminal = false) (jobType : after.jobType = before.jobType)
    (resultPath : ∀ path, path ≠ "" → before.resultPath = some path →
      after.resultPath = some path) : Stays before after where
  jobType := jobType
  status terminal := by
    rw [live] at terminal
    cases terminal
  resultPath := resultPath

theorem of_live (live : before.status.isTerminal = false) (jobType : after.jobType = before.jobType)
    (resultPath : after.resultPath = before.resultPath) : Stays before after :=
  of_path live jobType fun _ _ given => resultPath.trans given

/-- Neither of the three is written. -/
theorem of_same (jobType : after.jobType = before.jobType) (status : after.status = before.status)
    (resultPath : after.resultPath = before.resultPath) : Stays before after where
  jobType := jobType
  status _ := status
  resultPath _ _ given := resultPath.trans given

end Stays

namespace Job

variable (job : Job) (force : Bool)

@[simp] theorem cleanup_jobType : (job.cleanup force).jobType = job.jobType := by
  unfold cleanup
  split <;> rfl

@[simp] theorem cleanup_status : (job.cleanup force).status = job.status := by
  unfold cleanup
  split <;> rfl

@[simp] theorem cleanup_resultPath : (job.cleanup force).resultPath = job.resultPath := by
  unfold cleanup
  split <;> rfl

theorem stays_cleanup : Stays job (job.cleanup force) :=
  .of_same (cleanup_jobType _ _) (cleanup_status _ _) (cleanup_resultPath _ _)

variable {job}

theorem stays_cancel (live : job.status.isTerminal = false) (assigned : Bool) :
    Stays job (job.cancel assigned) := by
  unfold cancel
  split
  · split
    · exact .of_live live (cleanup_jobType _ _) (cleanup_resultPath _ _)
    · exact .of_live live (cleanup_jobType _ _) (cleanup_resultPath _ _)
  · exact .of_live live (cleanup_jobType _ _) (cleanup_resultPath _ _)

theorem stays_processingFailed (live : job.status.isTerminal = false) (message : String) :
    Stays job (job.processingFailed message) := by
  unfold processingFailed
  dsimp only
  split
  · exact .of_live live (cleanup_jobType _ _) (cleanup_resultPath _ _)
  · exact .of_live live rfl rfl

/-- A path that the task function returns is the one that the job has, if it has one. -/
theorem resultPath_kept {resultPath : Option String} (same : ¬ (job.resultPath.any (· ≠ "") = true ∧
    job.resultPath ≠ resultPath)) {path : String} (named : path ≠ "")
    (given : job.resultPath = some path) : resultPath = some path := by
  rw [given] at same
  have any : (some path).any (fun name => decide (name ≠ "")) = true := decide_eq_true named
  exact (not_not.mp fun differs => same ⟨any, differs⟩).symm

theorem stays_taskEnded {result : TaskResult}
    (cooperates : result = .cancelled ∨ job.status.isTerminal = false) :
    Stays job (job.taskEnded result) := by
  cases result with
  | cancelled =>
    dsimp only [taskEnded]
    split
    · exact .of_same (cleanup_jobType _ _) (cleanup_status _ _) (cleanup_resultPath _ _)
    · rename_i live
      exact .of_live (Bool.eq_false_iff.mpr live) (cleanup_jobType _ _) (cleanup_resultPath _ _)
  | returnedOther typeName => exact stays_processingFailed (cooperates.resolve_left nofun) _
  | raised message => exact stays_processingFailed (cooperates.resolve_left nofun) _
  | returned resultPath =>
    have live := cooperates.resolve_left nofun
    simp only [taskEnded]
    split
    · exact stays_processingFailed live _
    · rename_i same
      split
      · refine .of_path live rfl fun path named given => ?_
        change (resultPath <|> job.resultPath) = some path
        rw [resultPath_kept same named given]
        rfl
      · exact .of_path live rfl fun path named given => resultPath_kept same named given

theorem stays_markJobInProgress (started assigned : Bool) :
    Stays job (job.markJobInProgress started assigned) := by
  unfold markJobInProgress
  split
  · split
    · exact .of_same (cleanup_jobType _ _) (cleanup_status _ _) (cleanup_resultPath _ _)
    · exact .refl job
  · split
    · rename_i queued
      exact .of_live (by rw [queued]; rfl) rfl rfl
    · exact .of_same rfl rfl rfl

theorem stays_failStuck (live : job.status.isTerminal = false) : Stays job job.failStuck :=
  .of_live live (cleanup_jobType _ _) (cleanup_resultPath _ _)

theorem stays_shutdown : Stays job job.shutdown := by
  unfold shutdown
  split
  · split
    · exact .of_same rfl rfl rfl
    · rename_i live
      exact .of_live (Bool.eq_false_iff.mpr live) (cleanup_jobType _ _) (cleanup_resultPath _ _)
  · exact .refl job

end Job

namespace JobManager

variable {manager next before after : JobManager} {label : Label}
variable {id : Nat} {job changed : Job}

/-- Once its job has ended, a task function ends with the cancellation only. -/
def Cooperates (manager : JobManager) : Label → Prop
  | .endTask id result => result = .cancelled ∨
      ∀ job ∈ manager.jobs.lookup id, job.status.isTerminal = false
  | _ => True

/-- Jobs are numbered as they are created. -/
def Numbered (manager : JobManager) : Prop :=
  ∀ id job, manager.jobs.lookup id = some job → id < manager.created

/-- Every job has a later version. -/
structure Keeps (before after : JobManager) : Prop where
  jobs : ∀ id job, before.jobs.lookup id = some job →
    ∃ later, after.jobs.lookup id = some later ∧ Stays job later
  numbered : before.Numbered → after.Numbered

theorem Keeps.of_jobs (same : after.jobs = before.jobs) (created : after.created = before.created) :
    Keeps before after where
  jobs _ job found := ⟨job, same ▸ found, .refl job⟩
  numbered numbered id job found := by
    rw [created]
    exact numbered id job (same ▸ found)

theorem Keeps.refl (manager : JobManager) : Keeps manager manager := .of_jobs rfl rfl

theorem Keeps.trans {middle : JobManager} (first : Keeps before middle)
    (second : Keeps middle after) : Keeps before after := by
  refine ⟨fun id job found => ?_, fun numbered => second.numbered (first.numbered numbered)⟩
  obtain ⟨between, present, stays⟩ := first.jobs id job found
  obtain ⟨later, there, stayed⟩ := second.jobs id between present
  exact ⟨later, there, stays.trans stayed⟩

theorem Keeps.rest {middle : JobManager} (keeps : Keeps before middle)
    (jobs : after.jobs = middle.jobs) (created : after.created = middle.created) :
    Keeps before after :=
  keeps.trans (.of_jobs jobs created)

/-- Every job is changed to a later version of itself. -/
theorem Keeps.of_map {change : Nat → Job → Job} (created : after.created = before.created)
    (lookup : ∀ id, after.jobs.lookup id = (before.jobs.lookup id).map (change id))
    (stays : ∀ id job, before.jobs.lookup id = some job → Stays job (change id job)) :
    Keeps before after where
  jobs id job found := ⟨change id job, by rw [lookup, found]; rfl, stays id job found⟩
  numbered numbered id job found := by
    rw [lookup] at found
    obtain ⟨old, present, _⟩ := Option.map_eq_some_iff.mp found
    rw [created]
    exact numbered id old present

theorem Keeps.modifyJob {change : Job → Job}
    (stays : ∀ job, manager.jobs.lookup id = some job → Stays job (change job)) :
    Keeps manager (manager.modifyJob id change) := by
  refine @Keeps.of_map _ _ (fun other job => if other = id then change job else job) rfl
    (fun other => ?_) fun other job found => ?_
  · rw [JobManager.modifyJob, Table.lookup_modify]
    split
    · rename_i here
      rw [here]
    · exact Option.map_id'.symm
  · split
    · rename_i here
      exact stays job (here ▸ found)
    · exact .refl job

theorem Keeps.set (found : manager.jobs.lookup id = some job) (stays : Stays job changed) :
    Keeps manager (manager.modifyJob id fun _ => changed) := by
  refine .modifyJob fun other present => ?_
  rw [found] at present
  cases present
  exact stays

theorem authorized {orgId : Option String} (found : manager.getJobIfAuthorized id orgId = some job) :
    manager.jobs.lookup id = some job :=
  (Option.filter_eq_some_iff.mp found).1

theorem keeps_cancelJob (id : Nat) (orgId : Option String) (assigned : Bool) :
    Keeps manager (manager.cancelJob id orgId assigned) := by
  unfold cancelJob
  split
  · exact .refl manager
  · rename_i job found
    split
    · exact .refl manager
    · rename_i neither
      refine .modifyJob fun other present => ?_
      rw [authorized found] at present
      cases present
      exact Job.stays_cancel (Bool.eq_false_iff.mpr fun terminal => neither (.inr terminal)) _

theorem keeps_deleteJob (id : Nat) (orgId : Option String) (children : List Nat)
    (validates : Bool) (assignment : Assignment) :
    Keeps manager (manager.deleteJob id orgId children validates assignment) := by
  unfold deleteJob
  split
  · exact .refl manager
  · rename_i job found
    dsimp only
    split
    · exact .refl manager
    split
    · exact .refl manager
    split
    · exact .refl manager
    split
    · exact .refl manager
    split
    · exact .of_jobs rfl rfl
    rename_i forced
    have live : job.status.isTerminal = false := by simpa using forced
    have marked : Keeps manager (modifyJob { manager with
        deletingJobIds := id :: children ++ manager.deletingJobIds } id Job.markCancelling) := by
      refine (Keeps.modifyJob fun other present => ?_).rest rfl rfl
      rw [authorized found] at present
      cases present
      exact .of_live live rfl rfl
    split
    · exact marked
    · have published : ∀ manager : JobManager, Keeps manager (manager.modifyJob id Job.setCancelEvent) :=
        fun _ => .modifyJob fun _ _ => .of_same rfl rfl rfl
      exact (marked.trans (published _)).rest rfl rfl

theorem keeps_stepDeletion {token : Nat} {deletion : Deletion}
    (stepped : manager.stepDeletion token deletion label = some next) : Keeps manager next := by
  unfold stepDeletion at stepped
  split at stepped
  · split at stepped <;> cases stepped
    exact (Keeps.modifyJob fun job _ => job.stays_cleanup true).rest rfl rfl
  · obtain ⟨job, _, stepped⟩ := Option.bind_eq_some_iff.mp stepped
    split at stepped <;> cases stepped
    exact .of_jobs rfl rfl
  · split at stepped <;> cases stepped
    refine @Keeps.rest _ _ (manager.modifyJob _ fun job => { job with stored := false }) ?_ rfl rfl
    exact .modifyJob fun _ _ => .of_same rfl rfl rfl
  · cases stepped
    exact .of_jobs rfl rfl
  · cases stepped

theorem stays_of_stepTask (cooperates : ∀ id result, label = .endTask id result →
      result = .cancelled ∨ job.status.isTerminal = false)
    (stepped : stepTask job label = some changed) : Stays job changed := by
  unfold stepTask at stepped
  split at stepped
  · split at stepped <;> cases stepped
    exact .of_same rfl rfl rfl
  · split at stepped <;> cases stepped
    exact .of_same rfl rfl rfl
  · split at stepped <;> cases stepped
    exact Job.stays_markJobInProgress _ _
  · split at stepped <;> cases stepped
    exact .of_same rfl rfl rfl
  · split at stepped <;> cases stepped
    exact (Job.stays_taskEnded (cooperates _ _ rfl)).trans (.of_same rfl rfl rfl)
  · split at stepped <;> cases stepped
    exact .of_same rfl rfl rfl
  · cases stepped

theorem stays_of_stepCleanup (stepped : stepCleanup job label = some changed) :
    Stays job changed := by
  unfold stepCleanup at stepped
  split at stepped
  · split at stepped <;> cases stepped
    rename_i stuck
    refine Job.stays_failStuck ?_
    rcases stuck.2 with working | cancelling
    · rw [working]
      rfl
    · rw [cancelling]
      rfl
  · split at stepped <;> cases stepped
    exact .of_same rfl rfl rfl
  · cases stepped

theorem Numbered.keeps (numbered : Numbered manager) (job : Job) :
    Keeps manager (manager.insertJob job) := by
  refine ⟨fun id old found => ⟨old, ?_, .refl old⟩, fun _ id added found => ?_⟩
  · rw [insertJob, Table.lookup_insert_if, if_neg (Nat.ne_of_lt (numbered id old found))]
    exact found
  · rw [insertJob, Table.lookup_insert_if] at found
    split at found
    · rename_i here
      exact here ▸ Nat.lt_succ_self _
    · exact (numbered id added found).trans (Nat.lt_succ_self _)

theorem keeps_task
    (cooperates : ∀ job ∈ manager.jobs.lookup id, ∀ ended result, label = .endTask ended result →
      result = .cancelled ∨ job.status.isTerminal = false) (stepped : (do
      let job ← manager.jobs.lookup id
      let changed ← stepTask job label
      return manager.modifyJob id fun _ => changed) = some next) : Keeps manager next := by
  obtain ⟨job, found, stepped⟩ := Option.bind_eq_some_iff.mp stepped
  obtain ⟨changed, task, same⟩ := Option.bind_eq_some_iff.mp stepped
  cases same
  exact .set found (stays_of_stepTask (cooperates job found) task)

theorem keeps_cleanup (stepped : (do
      let job ← manager.jobs.lookup id
      let changed ← stepCleanup job label
      return manager.modifyJob id fun _ => changed) = some next) : Keeps manager next := by
  obtain ⟨job, found, stepped⟩ := Option.bind_eq_some_iff.mp stepped
  obtain ⟨changed, cleanup, same⟩ := Option.bind_eq_some_iff.mp stepped
  cases same
  exact .set found (stays_of_stepCleanup cleanup)

theorem keeps_deletion {token : Nat}
    (stepped : (do
      let deletion ← manager.deletions.lookup token
      manager.stepDeletion token deletion label) = some next) : Keeps manager next := by
  obtain ⟨deletion, _, stepped⟩ := Option.bind_eq_some_iff.mp stepped
  exact keeps_stepDeletion stepped

theorem keeps_of_step (numbered : Numbered manager) (cooperates : Cooperates manager label)
    (stepped : manager.step label = some next) : Keeps manager next := by
  cases label with
  | createJob jobType orgId resultPath hasStartEvent hasCancelEvent replaceable accepted =>
    cases stepped
    split
    · exact numbered.keeps _
    · exact .refl manager
  | startTask id | dropTask id | monitor id started assigned | swallowCancel id | finishTask id =>
    exact keeps_task (fun _ _ _ _ same => by cases same) stepped
  | endTask id result =>
    refine keeps_task (fun job found ended outcome same => ?_) stepped
    cases same
    exact cooperates.imp_right fun live => live job found
  | cancelJob id orgId assigned =>
    cases stepped
    exact keeps_cancelJob _ _ _
  | deleteJob id orgId children validates assignment =>
    cases stepped
    exact keeps_deleteJob _ _ _ _ _
  | workerReplaced token | taskGathered token | deleteRecord token | finishDeletion token =>
    exact keeps_deletion stepped
  | failStuck id | removeOld id erased => exact keeps_cleanup stepped
  | shutdown =>
    cases stepped
    exact .of_map rfl (fun id => Table.lookup_mapValues _ _ id) fun _ _ _ => Job.stays_shutdown

theorem numbered_of_reached {allowed : JobManager → Label → Prop}
    (cooperates : ∀ before label, allowed before label → Cooperates before label)
    (reached : Reaches step allowed {} manager) : Numbered manager := by
  refine reached.invariant Numbered (fun _ _ found => by cases found) ?_
  exact fun _ _ _ numbered permitted stepped =>
    (keeps_of_step numbered (cooperates _ _ permitted) stepped).numbered numbered

theorem keeps_of_reached (numbered : Numbered before) (later : Reaches step Cooperates before after) :
    Keeps before after := by
  refine (later.relates Numbered Keeps numbered (.refl before) ?_ ?_)
  · exact fun _ _ _ numbered permitted stepped =>
      (keeps_of_step numbered permitted stepped).numbered numbered
  · exact fun _ _ _ numbered related permitted stepped =>
      related.trans (keeps_of_step numbered permitted stepped)

/-- A terminal status never changes; a job that has failed or has been cancelled offers no result
path, unless it is a training job, which offers its path whatever its status. -/
theorem terminal_status_final (reached : Reaches step Cooperates {} before)
    (later : Reaches step Cooperates before after) {id : Nat} {job : Job}
    (found : before.jobs.lookup id = some job) :
    ∃ now, after.jobs.lookup id = some now ∧
      (job.status.isTerminal = true → now.status = job.status) ∧
      (job.status = .failed ∨ job.status = .cancelled → job.jobType ≠ .training →
        ∀ orgId, after.getJobResultPath id orgId = none) ∧
      (job.jobType = .training → ∀ path, path ≠ "" → job.resultPath = some path →
        now.stored = true → after.getJobResultPath id none = some path) := by
  have keeps := keeps_of_reached (numbered_of_reached (fun _ _ permitted => permitted) reached) later
  obtain ⟨now, present, stays⟩ := keeps.jobs id job found
  refine ⟨now, present, stays.status, fun ended type orgId => ?_,
    fun training path named given stored => ?_⟩
  · have terminal : job.status.isTerminal = true := by
      rcases ended with failed | cancelled
      · rw [failed]
        rfl
      · rw [cancelled]
        rfl
    have same := stays.status terminal
    unfold getJobResultPath
    split
    · rfl
    · rename_i other authorizedJob
      rw [authorized authorizedJob] at present
      cases present
      have gone : now.status ≠ .completed := by
        rw [same]
        rcases ended with failed | cancelled
        · rw [failed]
          nofun
        · rw [cancelled]
          nofun
      rw [if_pos ⟨stays.jobType ▸ type, same ▸ terminal⟩, if_neg gone]
  · have visible : after.getJobIfAuthorized id none = some now :=
      Option.filter_eq_some_iff.mpr ⟨present, by rw [stored]; rfl⟩
    have type : now.jobType = .training := stays.jobType.trans training
    rw [getJobResultPath, visible]
    dsimp only
    rw [if_neg fun both => both.1 type]
    exact stays.resultPath path named given

instance (manager : JobManager) (label : Label) : Decidable (Cooperates manager label) :=
  match label with
  | .endTask id result => inferInstanceAs (Decidable (result = .cancelled ∨
      ∀ job ∈ manager.jobs.lookup id, job.status.isTerminal = false))
  | .createJob .. | .startTask _ | .dropTask _ | .monitor .. | .swallowCancel _ | .finishTask _
  | .cancelJob .. | .deleteJob .. | .workerReplaced _ | .taskGathered _ | .deleteRecord _
  | .finishDeletion _ | .failStuck _ | .removeOld .. | .shutdown => .isTrue trivial

/-- A queued training job, cancelled before a worker has taken it. -/
def cancelQueued : List Label :=
  [.createJob .training none (some "adapters/7") true true true true, .cancelJob 0 none false]

theorem cancelQueued_runs : (runWithin step Cooperates {} cancelQueued).isSome = true := by
  decide +kernel

def cancelledQueued : JobManager := (runWithin step Cooperates {} cancelQueued).get cancelQueued_runs

theorem taskDropped_runs : (runWithin step Cooperates cancelledQueued
    [.dropTask 0]).isSome = true := by
  decide +kernel

def taskDropped : JobManager :=
  (runWithin step Cooperates cancelledQueued [.dropTask 0]).get taskDropped_runs

theorem terminal_status_final_taskDropped : ∃ now, taskDropped.jobs.lookup 0 = some now ∧
    now.status = .cancelled := by
  obtain ⟨now, present, final, _⟩ := @terminal_status_final _ taskDropped
    (reaches_get cancelQueued_runs) (reaches_get taskDropped_runs) 0
    ((cancelledQueued.jobs.lookup 0).get (by decide +kernel)) (Option.some_get _).symm
  exact ⟨now, present, (final (by decide +kernel)).trans (by decide +kernel)⟩

/-- The training job is reported as cancelled and offers its path. -/
theorem cancelled_offers_path : ∃ manager : JobManager, Reaches step Cooperates {} manager ∧
    (manager.getJobIfAuthorized 0 none).map (·.status) = some .cancelled ∧
      manager.getJobResultPath 0 none = some "adapters/7" := by
  refine ⟨_, reaches_get cancelQueued_runs, ?_, ?_⟩ <;> decide +kernel

end JobManager
end InferenceServer.Jobs.Lifecycle
