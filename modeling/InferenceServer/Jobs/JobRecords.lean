import InferenceServer.Jobs.ClaimHandshake
import InferenceServer.Machine.Table
import Mathlib.Data.List.Sort

/-! The records of the job manager. A merge job names the training job that it starts from, and
the training job keeps the ids of its merge jobs; both are written by hand where jobs are created,
deleted and cleaned up. A deletion runs over several steps, and the ids that it deletes are set
apart meanwhile. -/
namespace InferenceServer.Jobs

open Machine

inductive JobType
  | video
  | training
  | adapterMerge
  deriving DecidableEq

/-- Jobs that the retention sweep leaves alone. -/
def JobType.cleanupExempt : JobType → Bool
  | .training | .adapterMerge => true
  | .video => false

/-- A record; `replaceable` tells whether both hooks to replace a worker were given. -/
structure JobRecord where
  id : Nat
  jobType : JobType
  orgId : Option String
  sourceJobId : Option Nat
  replaceable : Bool
  status : JobStatus := .queued
  adapterMergeJobIds : List Nat := []
  deriving DecidableEq

/-- Where a deletion is, after its ids have been set apart. -/
inductive Stage
  | stopping
  | deleting (remaining : List JobRecord)
  | erased (job : JobRecord) (remaining : List JobRecord)
  | failed
  deriving DecidableEq

/-- A deletion in progress: its jobs, the one that was asked for first. -/
structure Deletion where
  root : JobRecord
  children : List JobRecord
  stage : Stage
  deriving DecidableEq

namespace Deletion

def jobs (deletion : Deletion) : List JobRecord := deletion.root :: deletion.children

/-- Children first, so that no merge job outlives its training record. -/
def order (deletion : Deletion) : List JobRecord := deletion.children ++ [deletion.root]

end Deletion

/-- The jobs, the ids set apart, the deletions in progress and the two lists of a cleanup pass;
`returned` collects the training jobs whose deletion has returned `True`. -/
structure JobManager where
  maxQueueSize : Nat
  maxJobs : Nat
  jobs : Table Nat JobRecord := ∅
  deletingJobIds : List Nat := []
  created : Nat := 0
  deletions : Table Nat Deletion := ∅
  deletesStarted : Nat := 0
  jobsToRemove : List JobRecord := []
  removedJobs : List JobRecord := []
  returned : List Nat := []

/-- What the read of the worker assignment gives in `_prepare_force_delete`. -/
inductive Assignment
  | raises
  | reads (identity : Option WorkerIdentity)
  deriving DecidableEq

namespace JobManager

/-- What the callers, the jobs themselves and the cleanup do between two awaits. -/
inductive Label
  | createJob (jobType : JobType) (orgId : Option String) (sourceJobId : Option Nat)
      (replaceable inserted : Bool)
  | setStatus (id : Nat) (status : JobStatus)
  | deleteJob (id : Nat) (orgId : Option String) (validates : Bool) (assignment : Assignment)
  | stop (token : Nat) (stopped : Bool)
  | erase (token : Nat) (erased : Bool)
  | pop (token : Nat)
  | finish (token : Nat)
  | scan (old : List Nat)
  | remove
  | eraseRemoved (erased : Bool)
  | shutdown
  deriving DecidableEq

variable (manager : JobManager) (id : Nat) (job : JobRecord)

/-- The job of an id, unless it belongs to another organisation. -/
def getJobIfAuthorized (orgId : Option String) : Option JobRecord :=
  (manager.jobs.lookup id).filter fun job => orgId.isNone || job.orgId == orgId

/-- `_enforceAdmissionLimits` lets one more job in. -/
def admits : Bool :=
  (manager.jobs.entries.filter fun entry => !entry.2.status.isTerminal).length <
    manager.maxQueueSize && manager.jobs.entries.length < manager.maxJobs

/-- The training job that a merge job may start from. -/
def parentJob (orgId : Option String) (sourceJobId : Option Nat) :
    Option JobRecord := do
  let source ← sourceJobId
  let parent ← manager.getJobIfAuthorized source orgId
  if parent.jobType ≠ .training ∨ parent.id ∈ manager.deletingJobIds then none else some parent

/-- The new job, once every check has passed; its id is new. -/
def insertJob : JobManager :=
  { manager with
    jobs := manager.jobs.insert job.id job
    created := manager.created + 1 }

/-- A call that raises leaves everything as it was. -/
def createJob (jobType : JobType) (orgId : Option String) (sourceJobId : Option Nat)
    (replaceable inserted : Bool) : JobManager :=
  let job : JobRecord := { id := manager.created, jobType, orgId, sourceJobId, replaceable }
  if !manager.admits then manager
  else if jobType = .adapterMerge then
    match manager.parentJob orgId sourceJobId with
    | none => manager
    | some parent =>
      if !inserted then manager
      else
        let manager := manager.insertJob job
        { manager with
          jobs := manager.jobs.modify parent.id fun parent =>
            { parent with adapterMergeJobIds := parent.adapterMergeJobIds.insert job.id } }
  else if !inserted then manager
  else manager.insertJob job

/-- The merge jobs of a list of ids that are still there; one that is being deleted, or belongs to
another organisation, is an error. -/
def collectChildren (manager : JobManager) (job : JobRecord) : List Nat → Option (List JobRecord)
  | [] => some []
  | id :: rest =>
    if id ∈ manager.deletingJobIds then none
    else match manager.jobs.lookup id with
      | none => manager.collectChildren job rest
      | some child =>
        if child.orgId ≠ job.orgId then none
        else (manager.collectChildren job rest).map (child :: ·)

def mergeChildren : Option (List JobRecord) :=
  if job.jobType = .training then
    manager.collectChildren job (job.adapterMergeJobIds.insertionSort (· ≤ ·))
  else some []

/-- The children of the job that is to be deleted, unless one of the jobs may not be. -/
def collectJobsForManualDeletion (allowActiveRoot : Bool) :
    Option (List JobRecord) := do
  let children ← manager.mergeChildren job
  if job.id ∈ manager.deletingJobIds ∨ job.status.isTerminal = false ∧ allowActiveRoot = false then
    none
  else if children.any fun child =>
      decide (child.id ∈ manager.deletingJobIds) || !child.status.isTerminal then
    none
  else some children

/-- The job and the children that a call may delete, after all of its checks. -/
def checkDelete (orgId : Option String) (validates : Bool) :
    Option (JobRecord × List JobRecord) := do
  let job ← manager.getJobIfAuthorized id orgId
  let forceDelete := !job.status.isTerminal
  if forceDelete ∧ job.jobType ≠ .training then none
  else if forceDelete ∧ job.status ≠ .queued ∧ job.replaceable = false then none
  else
    let children ← manager.collectJobsForManualDeletion job forceDelete
    if validates then some (job, children) else none

def startDeletion (children : List JobRecord) (stage : Stage) : JobManager :=
  { manager with
    deletions := manager.deletions.insert manager.deletesStarted { root := job, children, stage }
    deletesStarted := manager.deletesStarted + 1 }

/-- Marks the root of a deletion that stops its worker first. -/
def markCancelling : JobManager :=
  { manager with
    jobs := manager.jobs.modify id fun job => { job with status := .cancelling } }

/-- The ids of a deletion are set apart. -/
def setApart (jobs : List JobRecord) : JobManager :=
  { manager with deletingJobIds := jobs.map JobRecord.id ++ manager.deletingJobIds }

/-- The locked part of `delete_job`. The ids are set apart before the assignment is read, and what
raises there is not inside the `try` that takes them back. -/
def deleteJob (orgId : Option String) (validates : Bool) (assignment : Assignment) : JobManager :=
  match manager.checkDelete id orgId validates with
  | none => manager
  | some (job, children) =>
    let manager := manager.setApart (job :: children)
    if job.status.isTerminal then
      manager.startDeletion job children (.deleting (children ++ [job]))
    else
      let manager := manager.markCancelling id
      if job.replaceable ∧ assignment = .raises then manager
      else manager.startDeletion job children .stopping

def setStage (token : Nat) (stage : Stage) : JobManager :=
  { manager with
    deletions := manager.deletions.modify token fun deletion => { deletion with stage } }

/-- The job leaves memory, and a merge job its parent. -/
def popJob : JobManager :=
  let manager := { manager with jobs := manager.jobs.erase job.id }
  match job.jobType, job.sourceJobId with
  | .adapterMerge, some source => { manager with
      jobs := manager.jobs.modify source fun parent =>
        { parent with adapterMergeJobIds := parent.adapterMergeJobIds.filter (· ≠ job.id) } }
  | _, _ => manager

/-- The ids of a deletion are no longer set apart, however it has ended. -/
def finishDeletion (token : Nat) (deletion : Deletion) : JobManager :=
  { manager with
    deletingJobIds := manager.deletingJobIds.filter (· ∉ deletion.jobs.map JobRecord.id)
    deletions := manager.deletions.erase token
    returned :=
      if deletion.stage = .deleting [] ∧ deletion.root.jobType = .training then
        deletion.root.id :: manager.returned
      else manager.returned }

def step : Label → Option JobManager
  | .createJob jobType orgId sourceJobId replaceable inserted =>
    some (manager.createJob jobType orgId sourceJobId replaceable inserted)
  | .setStatus id status => some { manager with
      jobs := manager.jobs.modify id fun job => { job with status } }
  | .deleteJob id orgId validates assignment =>
    some (manager.deleteJob id orgId validates assignment)
  | .stop token stopped => do
    let deletion ← manager.deletions.lookup token
    match deletion.stage with
    | .stopping => manager.setStage token (if stopped then .deleting deletion.order else .failed)
    | _ => none
  | .erase token erased => do
    let deletion ← manager.deletions.lookup token
    match deletion.stage with
    | .deleting (job :: remaining) =>
      manager.setStage token (if erased then .erased job remaining else .failed)
    | _ => none
  | .pop token => do
    let deletion ← manager.deletions.lookup token
    match deletion.stage with
    | .erased job remaining => (manager.popJob job).setStage token (.deleting remaining)
    | _ => none
  | .finish token => do
    let deletion ← manager.deletions.lookup token
    match deletion.stage with
    | .deleting [] | .failed => manager.finishDeletion token deletion
    | _ => none
  | .scan old => some { manager with
      jobsToRemove := old.filterMap fun id => (manager.jobs.lookup id).filter fun job =>
        job.status.isTerminal && !job.jobType.cleanupExempt }
  | .remove =>
    let removed := manager.jobsToRemove.filter fun job => (manager.jobs.lookup job.id).isSome
    some { manager with
      jobs := removed.foldl (fun jobs job => jobs.erase job.id) manager.jobs
      jobsToRemove := []
      removedJobs := manager.removedJobs ++ removed }
  | .eraseRemoved erased =>
    match manager.removedJobs with
    | [] => none
    | job :: rest => some { manager with
        jobs :=
          if erased ∨ (manager.jobs.lookup job.id).isSome then manager.jobs
          else manager.jobs.insert job.id job
        removedJobs := rest }
  | .shutdown => some { manager with jobs := ∅ }

/-- Every way in which a call or a task goes on. -/
inductive Does (manager : JobManager) : Label → JobManager → Prop
  | createJob {jobType orgId sourceJobId replaceable inserted} :
      Does manager (.createJob jobType orgId sourceJobId replaceable inserted)
        (manager.createJob jobType orgId sourceJobId replaceable inserted)
  | setStatus {id status} : Does manager (.setStatus id status) { manager with
      jobs := manager.jobs.modify id fun job => { job with status } }
  | refuse {id orgId validates assignment}
      (refused : manager.checkDelete id orgId validates = none) :
      Does manager (.deleteJob id orgId validates assignment) manager
  | start {id orgId validates assignment job children}
      (checked : manager.checkDelete id orgId validates = some (job, children))
      (terminal : job.status.isTerminal = true) :
      Does manager (.deleteJob id orgId validates assignment)
        ((manager.setApart (job :: children)).startDeletion job children
          (.deleting (children ++ [job])))
  | abandon {id orgId validates assignment job children}
      (checked : manager.checkDelete id orgId validates = some (job, children))
      (active : job.status.isTerminal = false) (replaceable : job.replaceable = true)
      (raises : assignment = .raises) :
      Does manager (.deleteJob id orgId validates assignment)
        ((manager.setApart (job :: children)).markCancelling id)
  | startStopping {id orgId validates assignment job children}
      (checked : manager.checkDelete id orgId validates = some (job, children))
      (active : job.status.isTerminal = false) :
      Does manager (.deleteJob id orgId validates assignment)
        (((manager.setApart (job :: children)).markCancelling id).startDeletion job children
          .stopping)
  | stop {token stopped deletion} (found : manager.deletions.lookup token = some deletion)
      (stage : deletion.stage = .stopping) : Does manager (.stop token stopped)
        (manager.setStage token (if stopped then .deleting deletion.order else .failed))
  | erase {token erased deletion job remaining}
      (found : manager.deletions.lookup token = some deletion)
      (stage : deletion.stage = .deleting (job :: remaining)) : Does manager (.erase token erased)
        (manager.setStage token (if erased then .erased job remaining else .failed))
  | pop {token deletion job remaining} (found : manager.deletions.lookup token = some deletion)
      (stage : deletion.stage = .erased job remaining) : Does manager (.pop token)
        ((manager.popJob job).setStage token (.deleting remaining))
  | finish {token deletion} (found : manager.deletions.lookup token = some deletion)
      (ended : deletion.stage = .deleting [] ∨ deletion.stage = .failed) :
      Does manager (.finish token) (manager.finishDeletion token deletion)
  | scan {old} : Does manager (.scan old) { manager with
      jobsToRemove := old.filterMap fun id => (manager.jobs.lookup id).filter fun job =>
        job.status.isTerminal && !job.jobType.cleanupExempt }
  | remove {removed} (present : ∀ job ∈ removed, job ∈ manager.jobsToRemove) :
      Does manager .remove { manager with
        jobs := removed.foldl (fun jobs job => jobs.erase job.id) manager.jobs
        jobsToRemove := []
        removedJobs := manager.removedJobs ++ removed }
  | forget {erased job rest} (removed : manager.removedJobs = job :: rest) :
      Does manager (.eraseRemoved erased) { manager with removedJobs := rest }
  | restore {erased job rest} (removed : manager.removedJobs = job :: rest)
      (absent : manager.jobs.lookup job.id = none) :
      Does manager (.eraseRemoved erased) { manager with
        jobs := manager.jobs.insert job.id job
        removedJobs := rest }
  | shutdown : Does manager .shutdown { manager with jobs := ∅ }

theorem does_of_deleteJob (orgId : Option String) (validates : Bool) (assignment : Assignment) :
    Does manager (.deleteJob id orgId validates assignment)
      (manager.deleteJob id orgId validates assignment) := by
  unfold deleteJob
  split
  · exact .refuse ‹_›
  · rename_i job children checked
    dsimp only
    split
    · exact .start checked ‹_›
    · rename_i active
      have active := Bool.eq_false_iff.mpr active
      split
      · rename_i both
        exact .abandon checked active both.1 both.2
      · exact .startStopping checked active

theorem does_of_step {manager after : JobManager} {label : Label}
    (stepped : manager.step label = some after) : Does manager label after := by
  cases label with
  | createJob jobType orgId sourceJobId replaceable inserted =>
    cases stepped
    exact .createJob
  | setStatus id status =>
    cases stepped
    exact .setStatus
  | deleteJob id orgId validates assignment =>
    cases stepped
    exact does_of_deleteJob ..
  | stop token stopped =>
    obtain ⟨deletion, found, stepped⟩ := Option.bind_eq_some_iff.mp stepped
    split at stepped <;> cases stepped
    exact .stop found ‹_›
  | erase token erased =>
    obtain ⟨deletion, found, stepped⟩ := Option.bind_eq_some_iff.mp stepped
    split at stepped <;> cases stepped
    exact .erase found ‹_›
  | pop token =>
    obtain ⟨deletion, found, stepped⟩ := Option.bind_eq_some_iff.mp stepped
    split at stepped <;> cases stepped
    exact .pop found ‹_›
  | finish token =>
    obtain ⟨deletion, found, stepped⟩ := Option.bind_eq_some_iff.mp stepped
    split at stepped <;> cases stepped
    · exact .finish found (.inl ‹_›)
    · exact .finish found (.inr ‹_›)
  | scan old =>
    cases stepped
    exact .scan
  | remove =>
    cases stepped
    exact .remove fun job member => (List.mem_filter.mp member).1
  | eraseRemoved erased =>
    dsimp only [step] at stepped
    split at stepped
    · cases stepped
    · rename_i job rest removed
      cases stepped
      split
      · exact .forget removed
      · rename_i neither
        refine .restore removed ?_
        simpa using fun present => neither (.inr present)
  | shutdown =>
    cases stepped
    exact .shutdown

end JobManager
end InferenceServer.Jobs
