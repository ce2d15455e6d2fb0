import InferenceServer.Jobs.JobRecords

/-! The life of a job. Its own task awaits the task function and a monitor task waits for the
worker to start; cancellation, deletion, cleanup and shutdown write the status from outside while
both are suspended. -/
namespace InferenceServer.Jobs.Lifecycle

open Machine

structure JobError where
  code : String
  message : String
  deriving DecidableEq

/-- Where `_process_job` is: not started, awaiting the task function, in its `finally`, or over. -/
inductive ProcessJob
  | created
  | running
  | ending
  | done
  deriving DecidableEq

/-- How the task function ends; `returnedOther` is a value that is no string. -/
inductive TaskResult
  | returned (resultPath : Option String)
  | returnedOther (typeName : String)
  | raised (message : String)
  | cancelled
  deriving DecidableEq

/-- A job; `cancelRequested` is a `task.cancel()` that has not been delivered yet, and `stored`
tells whether the manager still has the job in memory. -/
structure Job where
  jobType : JobType
  orgId : Option String
  resultPath : Option String
  hasStartEvent : Bool
  cancelEvent : Option Bool
  replaceable : Bool
  status : JobStatus := .queued
  error : Option JobError := none
  task : ProcessJob := .created
  cancelRequested : Bool := false
  monitoring : Bool := false
  stored : Bool := true
  deriving DecidableEq

namespace Job

variable (job : Job)

def markInProgress : Job := { job with status := .inProgress }

def markCompleted (resultPath : Option String) : Job :=
  { job with status := .completed, resultPath }

def markCancelling : Job := { job with status := .cancelling }

def markCancelled : Job := { job with status := .cancelled }

def markFailed (code message : String) : Job :=
  { job with status := .failed, error := some { code, message } }

/-- `job.cancel_event.set()`, when the job has the event. -/
def setCancelEvent : Job :=
  { job with cancelEvent := job.cancelEvent.map fun _ => true }

/-- `_cleanup_job`: a job without a cancel event has its task cancelled, others when forced. -/
def cleanup (force : Bool) : Job :=
  if job.task = .done then job
  else { job.setCancelEvent with
    cancelRequested := job.cancelRequested || job.cancelEvent.isNone || force }

def processingFailed (message : String) : Job :=
  let job := job.markFailed "processing_error" message
  if job.cancelEvent.isSome then job.cleanup false else job

def differingPaths (initial returned : Option String) : String :=
  "The initially set result_path differs from the path returned by the task function (" ++
    initial.getD "None" ++ " != " ++ returned.getD "None" ++ ")."

/-- `_process_job` from the end of the task function to its `finally`. -/
def taskEnded : TaskResult → Job
  | .returned resultPath =>
    if job.resultPath.any (· ≠ "") ∧ job.resultPath ≠ resultPath then
      job.processingFailed (differingPaths job.resultPath resultPath)
    else if job.status = .cancelling then
      { job with resultPath := resultPath <|> job.resultPath }.markCancelled
    else job.markCompleted resultPath
  | .returnedOther typeName => job.processingFailed ("result_path must be str, not " ++ typeName)
  | .raised message => job.processingFailed message
  | .cancelled =>
    let job := { job with cancelRequested := false }
    (if job.status.isTerminal then job else job.markCancelled).cleanup false

/-- A step of `_mark_job_in_progress`, with what it reads of the start event and the worker. -/
def markJobInProgress (started assigned : Bool) : Job :=
  if job.hasStartEvent ∧ started = false then
    if job.status = .cancelling ∧ job.cancelEvent = some true ∧ assigned = false then
      { job.cleanup true with monitoring := false }
    else job
  else
    { (if job.status = .queued then job.markInProgress else job) with monitoring := false }

/-- `cancel_job` on a job that is not terminal. -/
def cancel (assigned : Bool) : Job :=
  if job.status = .queued then
    if assigned then job.setCancelEvent.markCancelling.cleanup false
    else (job.setCancelEvent.cleanup true).markCancelled
  else job.markCancelling.cleanup false

/-- The cleanup claims a stuck job as failed. -/
def failStuck : Job :=
  (job.markFailed "stale_job" "Job made no progress and was force-cancelled by cleanup").cleanup true

def shutdown : Job :=
  if job.stored then
    { (if job.status.isTerminal then job else job.markCancelling.cleanup true) with stored := false }
  else job

end Job

/-- Where a deletion is, after its ids have been set apart. -/
inductive DeletionStage
  | stopping
  | waiting
  | deleting (remaining : List Nat)
  deriving DecidableEq

structure Deletion where
  root : Nat
  children : List Nat
  stage : DeletionStage
  deriving DecidableEq

/-- Every job that was ever created, by the order of creation. -/
structure JobManager where
  jobs : Table Nat Job := ∅
  created : Nat := 0
  deletingJobIds : List Nat := []
  deletions : Table Nat Deletion := ∅
  deletesStarted : Nat := 0

namespace JobManager

/-- What happens between two awaits: calls of the manager, the two tasks of each job, the steps of
each deletion, and the parts of a cleanup pass. What is read of the worker, the clock and the file
system comes with the label. -/
inductive Label
  | createJob (jobType : JobType) (orgId resultPath : Option String)
      (hasStartEvent hasCancelEvent replaceable accepted : Bool)
  | startTask (id : Nat)
  | dropTask (id : Nat)
  | monitor (id : Nat) (started assigned : Bool)
  | swallowCancel (id : Nat)
  | endTask (id : Nat) (result : TaskResult)
  | finishTask (id : Nat)
  | cancelJob (id : Nat) (orgId : Option String) (assigned : Bool)
  | deleteJob (id : Nat) (orgId : Option String) (children : List Nat) (validates : Bool)
      (assignment : Assignment)
  | workerReplaced (token : Nat)
  | taskGathered (token : Nat)
  | deleteRecord (token : Nat)
  | finishDeletion (token : Nat)
  | failStuck (id : Nat)
  | removeOld (id : Nat) (erased : Bool)
  | shutdown
  deriving DecidableEq

variable (manager : JobManager) (id : Nat)

def getJobIfAuthorized (orgId : Option String) : Option Job :=
  (manager.jobs.lookup id).filter fun job =>
    job.stored && (orgId.isNone || job.orgId == orgId)

/-- The path that `/download` and the checkpoints are served from. -/
def getJobResultPath (orgId : Option String) : Option String :=
  match manager.getJobIfAuthorized id orgId with
  | none => none
  | some job =>
    if job.jobType ≠ .training ∧ job.status.isTerminal then
      if job.status = .completed then job.resultPath else none
    else job.resultPath

def modifyJob (change : Job → Job) : JobManager :=
  { manager with jobs := manager.jobs.modify id change }

def insertJob (job : Job) : JobManager :=
  { manager with
    jobs := manager.jobs.insert manager.created job
    created := manager.created + 1 }

def cancelJob (orgId : Option String) (assigned : Bool) : JobManager :=
  match manager.getJobIfAuthorized id orgId with
  | none => manager
  | some job =>
    if id ∈ manager.deletingJobIds ∨ job.status.isTerminal then manager
    else manager.modifyJob id (·.cancel assigned)

/-- One of the merge jobs may not be deleted. -/
def childrenActive (children : List Nat) : Bool :=
  children.any fun child => (manager.jobs.lookup child).all fun job => !job.status.isTerminal

def startDeletion (root : Nat) (children : List Nat) (stage : DeletionStage) : JobManager :=
  { manager with
    deletions := manager.deletions.insert manager.deletesStarted { root, children, stage }
    deletesStarted := manager.deletesStarted + 1 }

/-- The locked part of `delete_job`; `children` are the merge jobs that it collects. -/
def deleteJob (orgId : Option String) (children : List Nat) (validates : Bool)
    (assignment : Assignment) : JobManager :=
  match manager.getJobIfAuthorized id orgId with
  | none => manager
  | some job =>
    let forceDelete := !job.status.isTerminal
    if forceDelete ∧ job.jobType ≠ .training then manager
    else if forceDelete ∧ job.status ≠ .queued ∧ job.replaceable = false then manager
    else if (id :: children).any (· ∈ manager.deletingJobIds) || manager.childrenActive children then
      manager
    else if !validates then manager
    else
      let manager := { manager with deletingJobIds := id :: children ++ manager.deletingJobIds }
      if !forceDelete then manager.startDeletion id children (.deleting (children ++ [id]))
      else
        let manager := manager.modifyJob id Job.markCancelling
        if job.replaceable ∧ assignment = .raises then manager
        else (manager.modifyJob id Job.setCancelEvent).startDeletion id children .stopping

def setStage (token : Nat) (stage : DeletionStage) : JobManager :=
  { manager with
    deletions := manager.deletions.modify token fun deletion => { deletion with stage } }

def shutdown : JobManager :=
  { manager with jobs := manager.jobs.mapValues Job.shutdown }

/-- The next step of a deletion; its `finally` may run from anywhere. -/
def stepDeletion (token : Nat) (deletion : Deletion) :
    Label → Option JobManager
  | .workerReplaced _ =>
    if deletion.stage = .stopping then
      (manager.modifyJob deletion.root (·.cleanup true)).setStage token .waiting
    else none
  | .taskGathered _ => do
    let job ← manager.jobs.lookup deletion.root
    if deletion.stage = .waiting ∧ job.task = .done then
      manager.setStage token (.deleting (deletion.children ++ [deletion.root]))
    else none
  | .deleteRecord _ =>
    match deletion.stage with
    | .deleting (id :: remaining) =>
      (manager.modifyJob id fun job => { job with stored := false }).setStage token
        (.deleting remaining)
    | _ => none
  | .finishDeletion _ => some { manager with
      deletingJobIds := manager.deletingJobIds.filter (· ∉ deletion.root :: deletion.children)
      deletions := manager.deletions.erase token }
  | _ => none

/-- The next step of the tasks of a job. -/
def stepTask (job : Job) : Label → Option Job
  | .startTask _ =>
    if job.task = .created ∧ job.cancelRequested = false then
      some { job with task := .running, monitoring := true }
    else none
  | .dropTask _ =>
    if job.task = .created ∧ job.cancelRequested then some { job with task := .done } else none
  | .monitor _ started assigned =>
    if job.monitoring then some (job.markJobInProgress started assigned) else none
  | .swallowCancel _ =>
    if job.task = .running ∧ job.cancelRequested then
      some { job with cancelRequested := false }
    else none
  | .endTask _ result =>
    if job.task = .running then
      some { job.taskEnded result with task := .ending, monitoring := false }
    else none
  | .finishTask _ => if job.task = .ending then some { job with task := .done } else none
  | _ => none

/-- A part of a cleanup pass, on a job that it may still take. -/
def stepCleanup (job : Job) : Label → Option Job
  | .failStuck _ =>
    if job.stored ∧ (job.status = .inProgress ∨ job.status = .cancelling) then some job.failStuck
    else none
  | .removeOld _ erased =>
    if job.stored ∧ job.status.isTerminal ∧ job.jobType.cleanupExempt = false then
      some { job with stored := !erased }
    else none
  | _ => none

def step (label : Label) : Option JobManager :=
  match label with
  | .createJob jobType orgId resultPath hasStartEvent hasCancelEvent replaceable accepted =>
    let cancelEvent := if hasCancelEvent then some false else none
    let job := { jobType, orgId, resultPath, hasStartEvent, cancelEvent, replaceable }
    some (if accepted then manager.insertJob job else manager)
  | .startTask id | .dropTask id | .monitor id _ _ | .swallowCancel id | .endTask id _
  | .finishTask id => do
    let job ← manager.jobs.lookup id
    let next ← stepTask job label
    return manager.modifyJob id fun _ => next
  | .cancelJob id orgId assigned => some (manager.cancelJob id orgId assigned)
  | .deleteJob id orgId children validates assignment =>
    some (manager.deleteJob id orgId children validates assignment)
  | .workerReplaced token | .taskGathered token | .deleteRecord token | .finishDeletion token => do
    let deletion ← manager.deletions.lookup token
    manager.stepDeletion token deletion label
  | .failStuck id | .removeOld id _ => do
    let job ← manager.jobs.lookup id
    let next ← stepCleanup job label
    return manager.modifyJob id fun _ => next
  | .shutdown => some manager.shutdown

end JobManager
end InferenceServer.Jobs.Lifecycle
