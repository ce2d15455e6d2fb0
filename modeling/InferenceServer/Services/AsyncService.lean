import InferenceServer.Disaggregation.DecodeStreams

/-! A service that answers each request with one response from a worker. Requests wait in a map;
consumer threads take them off with the results, the death of a worker fails all that wait, and so
does a stop. A step is one part that holds a lock, one access to a flag, one push to a queue or one
call of a callback. -/
namespace InferenceServer.Services
open Machine
open Disaggregation (TaskId)

structure IpcResult (Payload : Type*) where
  taskId : TaskId
  isDone : Bool := false
  isClaimed : Bool := false
  payload : Payload
  deriving DecidableEq

/-- A response is built from a result, or reports an error. -/
inductive AsyncResponse (Payload : Type*)
  | result (payload : Payload)
  | error (message : String)
  deriving DecidableEq

/-- A request that waits. Its callback goes by its task id. -/
structure PendingEntry where
  claimedByWorker : Option Nat := none
  deriving DecidableEq

/-- Beside the source's fields, the task ids of the requests that were submitted and of those whose
call has returned, the calls of callbacks, and whether the death of a worker has failed all that
waited. -/
structure AsyncService (Payload : Type*) where
  pendingResults : Table TaskId PendingEntry := ∅
  inFlight : UInt64 := 0
  running : Bool := true
  workerFailed : Bool := false
  failureReason : String := ""
  taskQueue : List TaskId := []
  submitted : List TaskId := []
  returned : List TaskId := []
  completions : List (TaskId × AsyncResponse Payload) := []
  workerDied : Bool := false

inductive AsyncCall (Payload : Type*)
  | produceResponseAsync (taskId : TaskId)
  | consume (workerIdx : Nat) (result : IpcResult Payload)
  | onWorkerDied (workerIdx : Nat)
  | stop
  deriving DecidableEq

/-- Who calls `drainPending`. -/
inductive Drainer
  | submitter (taskId : TaskId)
  | workerDeath
  | stop
  deriving DecidableEq

/-- An operation between two of its steps. -/
inductive AsyncFrame (Payload : Type*)
  | refusing (taskId : TaskId)
  | validating (taskId : TaskId)
  | pushing (taskId : TaskId)
  | stamping (taskId : TaskId)
  /-- Looks at the flag for the second time. -/
  | checking (taskId : TaskId)
  /-- Reads why the worker failed, and is to drain. -/
  | reasoning (taskId : TaskId)
  | retracting (taskId : TaskId) (error : String)
  /-- Calls the callback of its own request, and returns. -/
  | completing (taskId : TaskId) (response : AsyncResponse Payload)
  | responding (taskId : TaskId) (response : AsyncResponse Payload)
  | emptying (workerIdx : Nat)
  | answering (workerIdx : Nat) (taskId : TaskId) (response : AsyncResponse Payload)
  | recording (workerIdx : Nat)
  | marking (reason : String)
  | stopping
  | draining (error : String) (drainer : Drainer)
  | failing (remaining : List TaskId) (error : String) (drainer : Drainer)
  deriving DecidableEq

/-- What is left to chance: the error of `validateRequest`, exceptions of `buildIpcTask` and of the
push, and what is popped. -/
structure AsyncOutcome (Payload : Type*) where
  invalid : String := ""
  buildError : Option String := none
  pushError : Option String := none
  popped : Option (IpcResult Payload) := none
  deriving DecidableEq

variable {Payload : Type*}

namespace AsyncService

variable (service : AsyncService Payload) (taskId : TaskId) (outcome : AsyncOutcome Payload)

/-- Takes a request that waits off the map. -/
def takePending : Bool × AsyncService Payload :=
  match service.pendingResults.take taskId with
  | (none, _) => (false, service)
  | (some _, pendingResults) =>
    (true, { service with pendingResults, inFlight := service.inFlight - 1 })

def claim (workerIdx : Nat) (taskId : TaskId) : AsyncService Payload :=
  { service with
    pendingResults := service.pendingResults.modify taskId fun entry =>
      { entry with claimedByWorker := some workerIdx } }

def complete (response : AsyncResponse Payload) : AsyncService Payload :=
  { service with completions := service.completions ++ [(taskId, response)] }

def finish : AsyncService Payload :=
  { service with returned := service.returned ++ [taskId] }

def readFailureReason : String :=
  if service.failureReason ≠ "" then service.failureReason else "Worker process exited"

def call (resultQueues : Nat) (service : AsyncService Payload) :
    AsyncCall Payload → AsyncService Payload × Option (AsyncFrame Payload)
  | .produceResponseAsync taskId =>
    ({ service with submitted := service.submitted ++ [taskId] },
      some (if service.workerFailed then .refusing taskId else .validating taskId))
  | .consume workerIdx result =>
    if result.isClaimed then (service.claim workerIdx result.taskId, none)
    else
      match service.takePending result.taskId with
      | (false, service) => (service, none)
      | (true, service) => (service, some (.responding result.taskId (.result result.payload)))
  | .onWorkerDied workerIdx =>
    (service, some (if workerIdx < resultQueues then .emptying workerIdx else .recording workerIdx))
  | .stop =>
    if service.running then ({ service with running := false }, some .stopping)
    else (service, some (.draining "Server shutting down" .stop))

/-- The next step of a `produceResponseAsync` call. -/
def resumeProduce :
    AsyncFrame Payload → AsyncService Payload × Option (AsyncFrame Payload)
  | .refusing taskId => (service, some (.completing taskId (.error service.readFailureReason)))
  | .validating taskId =>
    if outcome.invalid ≠ "" then (service, some (.completing taskId (.error outcome.invalid)))
    else
      match outcome.buildError with
      | some error => (service, some (.completing taskId (.error error)))
      | none =>
        ({ service with
          pendingResults := service.pendingResults.insert taskId {}
          inFlight := service.inFlight + 1 }, some (.pushing taskId))
  | .pushing taskId =>
    match outcome.pushError with
    | some error => (service, some (.retracting taskId error))
    | none => ({ service with taskQueue := service.taskQueue ++ [taskId] }, some (.stamping taskId))
  | .stamping taskId => (service, some (.checking taskId))
  | .checking taskId =>
    if service.workerFailed then (service, some (.reasoning taskId))
    else (service.finish taskId, none)
  | .reasoning taskId => (service, some (.draining service.readFailureReason (.submitter taskId)))
  | .retracting taskId error =>
    match service.takePending taskId with
    | (true, service) =>
      (service, some (.completing taskId (.error ("Failed to enqueue task: " ++ error))))
    | (false, service) => (service.finish taskId, none)
  | .completing taskId response => ((service.complete taskId response).finish taskId, none)
  | frame => (service, some frame)

/-- The next step of an `onWorkerDied` call. -/
def resumeDeath :
    AsyncFrame Payload → AsyncService Payload × Option (AsyncFrame Payload)
  | .emptying workerIdx =>
    match outcome.popped with
    | none => (service, some (.recording workerIdx))
    | some result =>
      if result.isDone then (service, some (.emptying workerIdx))
      else if result.isClaimed then
        (service.claim workerIdx result.taskId, some (.emptying workerIdx))
      else
        match service.takePending result.taskId with
        | (false, service) => (service, some (.emptying workerIdx))
        | (true, service) =>
          (service, some (.answering workerIdx result.taskId (.result result.payload)))
  | .answering workerIdx taskId response =>
    (service.complete taskId response, some (.emptying workerIdx))
  | .recording workerIdx =>
    let reason := "Worker process " ++ toString workerIdx ++ " exited while processing request"
    ({ service with
      failureReason := if service.failureReason = "" then reason else service.failureReason },
      some (.marking reason))
  | .marking reason =>
    ({ service with workerFailed := true }, some (.draining reason .workerDeath))
  | frame => (service, some frame)

/-- The next step of a `drainPending` call. -/
def resumeDrain :
    AsyncFrame Payload → AsyncService Payload × Option (AsyncFrame Payload)
  | .draining error drainer =>
    ({ service with
      pendingResults := ∅
      inFlight := 0
      workerDied := service.workerDied || drainer = .workerDeath },
      some (.failing service.pendingResults.entries.keys error drainer))
  | .failing (taskId :: remaining) error drainer =>
    (service.complete taskId (.error error), some (.failing remaining error drainer))
  | .failing [] _ (.submitter taskId) => (service.finish taskId, none)
  | .failing [] _ _ => (service, none)
  | frame => (service, some frame)

def resume (frame : AsyncFrame Payload) (outcome : AsyncOutcome Payload) :
    AsyncService Payload × Option (AsyncFrame Payload) :=
  match frame with
  | .responding taskId response => (service.complete taskId response, none)
  | .stopping => (service, some (.draining "Server shutting down" .stop))
  | .draining .. | .failing .. => service.resumeDrain frame
  | .emptying _ | .answering .. | .recording _ | .marking _ => service.resumeDeath outcome frame
  | _ => service.resumeProduce outcome frame

end AsyncService

def asyncHandlers (resultQueues : Nat) : Handlers (AsyncService Payload) (AsyncCall Payload)
    (AsyncFrame Payload) (AsyncOutcome Payload) where
  call := AsyncService.call resultQueues
  resume := AsyncService.resume

abbrev Answering (Payload : Type*) := Running (AsyncService Payload) (AsyncFrame Payload)

abbrev AsyncTurn (Payload : Type*) :=
  Turn (AsyncCall Payload) (AsyncFrame Payload) (AsyncOutcome Payload)

end InferenceServer.Services
