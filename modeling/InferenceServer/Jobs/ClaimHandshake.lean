import InferenceServer.Machine.Run

/-! Cancelling a queued job while a worker claims it. The canceller publishes its event and then
looks for an assignment; the worker publishes its assignment and then looks for the event. When
both see the other, both back off, and the monitor of the job ends it. -/
namespace InferenceServer.Jobs

open Machine

inductive JobStatus
  | queued
  | inProgress
  | completed
  | failed
  | cancelled
  | cancelling
  deriving DecidableEq

def JobStatus.isTerminal : JobStatus → Bool
  | .completed | .failed | .cancelled => true
  | .queued | .inProgress | .cancelling => false

/-- A worker and its process. -/
abbrev WorkerIdentity := String × Nat

/-- Where `cancel_job` is. -/
inductive Canceller
  | notCalled
  | published
  | unassigned
  | assigned
  | refused
  | finishedImmediately
  | initiated
  deriving DecidableEq

/-- Where `claim_job_for_worker` is. -/
inductive Claimer
  | notCalled
  | checked
  | assigned
  | accepting
  | withdrawing
  | returned (claimed : Bool)
  deriving DecidableEq

/-- Where `_mark_job_in_progress` is. -/
inductive Monitor
  | notStarted
  | polling
  | sawCancelling
  | sawEvent
  | sawUnassigned
  | done
  deriving DecidableEq

/-- The task of the job, which runs the task function. -/
inductive Task
  | created
  | running
  | cancelRequested
  | done
  deriving DecidableEq

/-- The shared cells of one job and where each party is. -/
structure Handshake where
  status : JobStatus := .queued
  startEvent : Bool := false
  cancelEvent : Bool := false
  identity : Option WorkerIdentity := none
  canceller : Canceller := .notCalled
  claimer : Claimer := .notCalled
  monitor : Monitor := .notStarted
  task : Task := .created
  deriving DecidableEq

inductive Party
  | canceller
  | claimer
  | monitor
  | task
  deriving DecidableEq

namespace Handshake

/-- `task.cancel()`, unless the task is over. -/
def cancelTask (job : Handshake) : Task :=
  match job.task with
  | .done => .done
  | _ => .cancelRequested

/-- `_cleanup_job` with `force`: the event is set and the task is cancelled. -/
def cleanupForced (job : Handshake) : Handshake :=
  if job.task = .done then job
  else { job with cancelEvent := true, task := job.cancelTask }

/-- `_cleanup_job` of a job that has a cancel event: the event is all there is. -/
def cleanup (job : Handshake) : Handshake :=
  if job.task = .done then job else { job with cancelEvent := true }

section Cleanup

variable {job : Handshake}

@[simp] theorem status_cleanup : job.cleanup.status = job.status := by
  unfold cleanup
  split <;> rfl

@[simp] theorem claimer_cleanup : job.cleanup.claimer = job.claimer := by
  unfold cleanup
  split <;> rfl

theorem cancelEvent_cleanup (live : job.task ≠ .done) : job.cleanup.cancelEvent = true := by
  rw [cleanup, if_neg live]

/-- An event that has been set stays set. -/
theorem set_cleanup (set : job.cancelEvent = true) : job.cleanup.cancelEvent = true := by
  unfold cleanup
  split
  · exact set
  · rfl

@[simp] theorem status_cleanupForced : job.cleanupForced.status = job.status := by
  unfold cleanupForced
  split <;> rfl

@[simp] theorem startEvent_cleanupForced : job.cleanupForced.startEvent = job.startEvent := by
  unfold cleanupForced
  split <;> rfl

@[simp] theorem canceller_cleanupForced : job.cleanupForced.canceller = job.canceller := by
  unfold cleanupForced
  split <;> rfl

@[simp] theorem claimer_cleanupForced : job.cleanupForced.claimer = job.claimer := by
  unfold cleanupForced
  split <;> rfl

@[simp] theorem monitor_cleanupForced : job.cleanupForced.monitor = job.monitor := by
  unfold cleanupForced
  split <;> rfl

theorem set_cleanupForced (set : job.cancelEvent = true) :
    job.cleanupForced.cancelEvent = true := by
  unfold cleanupForced
  split
  · exact set
  · rfl

end Cleanup

/-- The next access of `cancel_job` to an event or the assignment. -/
def cancelJob (job : Handshake) : Option Handshake :=
  match job.canceller with
  | .notCalled =>
    if job.status.isTerminal then
      some { job with canceller := .refused }
    else if job.status = .queued then
      some { job with cancelEvent := true, canceller := .published }
    else
      some { { job with status := .cancelling }.cleanup with canceller := .initiated }
  | .published =>
    if job.status = .queued ∧ job.identity = none then
      some { job with canceller := .unassigned }
    else
      some { job with canceller := .assigned }
  | .unassigned =>
    some { job.cleanupForced with status := .cancelled, canceller := .finishedImmediately }
  | .assigned =>
    some { { job with status := .cancelling }.cleanup with canceller := .initiated }
  | .refused | .finishedImmediately | .initiated => none

/-- The next access of `claim_job_for_worker`. -/
def claimJob (identity : WorkerIdentity) (job : Handshake) : Option Handshake :=
  match job.claimer with
  | .notCalled =>
    some { job with claimer := if job.cancelEvent then .returned false else .checked }
  | .checked => some { job with identity := some identity, claimer := .assigned }
  | .assigned =>
    some { job with claimer := if job.cancelEvent then .withdrawing else .accepting }
  | .withdrawing => some { job with identity := none, claimer := .returned false }
  | .accepting => some { job with startEvent := true, claimer := .returned true }
  | .returned _ => none

/-- The next access of `_mark_job_in_progress`, which polls until it sees the start. -/
def markJobInProgress (job : Handshake) : Option Handshake :=
  match job.monitor with
  | .polling =>
    if job.startEvent then
      some { job with
        status := if job.status = .queued then .inProgress else job.status
        monitor := .done }
    else if job.status = .cancelling then some { job with monitor := .sawCancelling }
    else some job
  | .sawCancelling =>
    some { job with monitor := if job.cancelEvent then .sawEvent else .polling }
  | .sawEvent =>
    some { job with monitor := if job.identity = none then .sawUnassigned else .polling }
  | .sawUnassigned => some { job.cleanupForced with monitor := .done }
  | .notStarted | .done => none

/-- The task of the job starts its monitor; a cancellation ends it, and the monitor with it. A
task that is cancelled before it starts never runs its handler. -/
def processJob (job : Handshake) : Option Handshake :=
  match job.task with
  | .created => some { job with monitor := .polling, task := .running }
  | .cancelRequested =>
    if job.monitor = .notStarted then some { job with task := .done }
    else some { job with
      status := if job.status.isTerminal then job.status else .cancelled
      cancelEvent := true
      monitor := .done
      task := .done }
  | .running | .done => none

def step (identity : WorkerIdentity) (job : Handshake) : Party → Option Handshake
  | .canceller => job.cancelJob
  | .claimer => job.claimJob identity
  | .monitor => job.markJobInProgress
  | .task => job.processJob

/-- No party has a step left. -/
def Quiescent (identity : WorkerIdentity) (job : Handshake) : Prop :=
  ∀ party, job.step identity party = none

/-- Every move of a party, with what it has seen. -/
inductive Moves (identity : WorkerIdentity) (job : Handshake) : Party → Handshake → Prop
  | refuse (here : job.canceller = .notCalled) (terminal : job.status.isTerminal = true) :
      Moves identity job .canceller { job with canceller := .refused }
  | publish (here : job.canceller = .notCalled) (queued : job.status = .queued) :
      Moves identity job .canceller { job with cancelEvent := true, canceller := .published }
  | stop (here : job.canceller = .notCalled)
      (active : job.status = .inProgress ∨ job.status = .cancelling) :
      Moves identity job .canceller
        { { job with status := .cancelling }.cleanup with canceller := .initiated }
  | findUnassigned (here : job.canceller = .published) (queued : job.status = .queued)
      (free : job.identity = none) :
      Moves identity job .canceller { job with canceller := .unassigned }
  | findAssigned (here : job.canceller = .published)
      (taken : job.status ≠ .queued ∨ job.identity.isSome) :
      Moves identity job .canceller { job with canceller := .assigned }
  | finish (here : job.canceller = .unassigned) : Moves identity job .canceller
      { job.cleanupForced with status := .cancelled, canceller := .finishedImmediately }
  | initiate (here : job.canceller = .assigned) : Moves identity job .canceller
      { { job with status := .cancelling }.cleanup with canceller := .initiated }
  | reject (here : job.claimer = .notCalled) (set : job.cancelEvent = true) :
      Moves identity job .claimer { job with claimer := .returned false }
  | check (here : job.claimer = .notCalled) (clear : job.cancelEvent = false) :
      Moves identity job .claimer { job with claimer := .checked }
  | assign (here : job.claimer = .checked) :
      Moves identity job .claimer { job with identity := some identity, claimer := .assigned }
  | withdraw (here : job.claimer = .assigned) (set : job.cancelEvent = true) :
      Moves identity job .claimer { job with claimer := .withdrawing }
  | accept (here : job.claimer = .assigned) (clear : job.cancelEvent = false) :
      Moves identity job .claimer { job with claimer := .accepting }
  | unassign (here : job.claimer = .withdrawing) :
      Moves identity job .claimer { job with identity := none, claimer := .returned false }
  | claim (here : job.claimer = .accepting) :
      Moves identity job .claimer { job with startEvent := true, claimer := .returned true }
  | seeStart (here : job.monitor = .polling) (started : job.startEvent = true) :
      Moves identity job .monitor { job with
        status := if job.status = .queued then .inProgress else job.status
        monitor := .done }
  | seeCancelling (here : job.monitor = .polling) (waiting : job.startEvent = false)
      (cancelling : job.status = .cancelling) :
      Moves identity job .monitor { job with monitor := .sawCancelling }
  | sleep (here : job.monitor = .polling) (waiting : job.startEvent = false)
      (other : job.status ≠ .cancelling) : Moves identity job .monitor job
  | readEvent (here : job.monitor = .sawCancelling) : Moves identity job .monitor
      { job with monitor := if job.cancelEvent then .sawEvent else .polling }
  | readIdentity (here : job.monitor = .sawEvent) : Moves identity job .monitor
      { job with monitor := if job.identity = none then .sawUnassigned else .polling }
  | terminate (here : job.monitor = .sawUnassigned) :
      Moves identity job .monitor { job.cleanupForced with monitor := .done }
  | begin (here : job.task = .created) :
      Moves identity job .task { job with monitor := .polling, task := .running }
  | drop (here : job.task = .cancelRequested) (unstarted : job.monitor = .notStarted) :
      Moves identity job .task { job with task := .done }
  | handle (here : job.task = .cancelRequested) (monitored : job.monitor ≠ .notStarted) :
      Moves identity job .task { job with
        status := if job.status.isTerminal then job.status else .cancelled
        cancelEvent := true
        monitor := .done
        task := .done }

variable {identity : WorkerIdentity} {job next : Handshake}

theorem moves_of_cancelJob (stepped : job.cancelJob = some next) :
    Moves identity job .canceller next := by
  unfold cancelJob at stepped
  split at stepped
  · rename_i here
    split at stepped
    · cases stepped
      exact .refuse here ‹_›
    · rename_i live
      split at stepped
      · cases stepped
        exact .publish here ‹_›
      · cases stepped
        refine .stop here ?_
        cases status : job.status <;> simp_all [JobStatus.isTerminal]
  · rename_i here
    split at stepped
    · rename_i both
      cases stepped
      exact .findUnassigned here both.1 both.2
    · rename_i either
      cases stepped
      refine .findAssigned here ?_
      by_cases queued : job.status = .queued
      · exact .inr (Option.isSome_iff_ne_none.mpr fun free => either ⟨queued, free⟩)
      · exact .inl queued
  · cases stepped
    exact .finish ‹_›
  · cases stepped
    exact .initiate ‹_›
  all_goals cases stepped

theorem moves_of_claimJob (stepped : job.claimJob identity = some next) :
    Moves identity job .claimer next := by
  unfold claimJob at stepped
  split at stepped
  · rename_i here
    cases stepped
    split
    · exact .reject here ‹_›
    · exact .check here (Bool.eq_false_iff.mpr ‹_›)
  · cases stepped
    exact .assign ‹_›
  · rename_i here
    cases stepped
    split
    · exact .withdraw here ‹_›
    · exact .accept here (Bool.eq_false_iff.mpr ‹_›)
  · cases stepped
    exact .unassign ‹_›
  · cases stepped
    exact .claim ‹_›
  · cases stepped

theorem moves_of_markJobInProgress (stepped : job.markJobInProgress = some next) :
    Moves identity job .monitor next := by
  unfold markJobInProgress at stepped
  split at stepped
  · rename_i here
    split at stepped
    · cases stepped
      exact .seeStart here ‹_›
    · rename_i waiting
      have waiting := Bool.eq_false_iff.mpr waiting
      split at stepped <;> cases stepped
      · exact .seeCancelling here waiting ‹_›
      · exact .sleep here waiting ‹_›
  · cases stepped
    exact .readEvent ‹_›
  · cases stepped
    exact .readIdentity ‹_›
  · cases stepped
    exact .terminate ‹_›
  all_goals cases stepped

theorem moves_of_processJob (stepped : job.processJob = some next) :
    Moves identity job .task next := by
  unfold processJob at stepped
  split at stepped
  · cases stepped
    exact .begin ‹_›
  · split at stepped <;> cases stepped
    · exact .drop ‹_› ‹_›
    · exact .handle ‹_› ‹_›
  all_goals cases stepped

theorem moves_of_step {party : Party} (stepped : job.step identity party = some next) :
    Moves identity job party next := by
  cases party with
  | canceller => exact moves_of_cancelJob stepped
  | claimer => exact moves_of_claimJob stepped
  | monitor => exact moves_of_markJobInProgress stepped
  | task => exact moves_of_processJob stepped

end Handshake
end InferenceServer.Jobs
