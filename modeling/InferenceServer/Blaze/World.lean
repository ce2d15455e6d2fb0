import InferenceServer.Machine.Run
import InferenceServer.Blaze.Runner

/-! A runner with everything that talks to it: the task, memory and stop queues
filled by the server and the scheduler behind the port. `step` of a runner is
taken one message at a time, so the other parties may act between any two of
its handler calls. -/
namespace InferenceServer.Blaze

/-- Where a runner is in its `step`. The two scheduler queues are drained up to
`maxUsers` messages each, and cancels are taken off their queue all at once. -/
inductive Pc
  | responses (drained : Nat)
  | outputs (drained : Nat)
  | memory
  | retryCancel
  | drainCancels
  | cancels (taskIds : List UInt32)
  | task
  deriving DecidableEq

/-- What has happened so far, for stating properties; no step reads it except for
the freshness of task ids. -/
structure History (n : Nat) where
  /-- ids of all tasks ever put on the task queue -/
  issued : List UInt32 := []
  /-- ids cancelled by their clients -/
  cancelled : List UInt32 := []
  /-- popped tasks whose slot was IDLE or awaiting an ack when they were handled -/
  admitted : List UInt32 := []
  /-- memory requests taken off the queue for a slot that was neither FREE nor being evicted -/
  obtained : List (ManageMemoryTask n) := []
  /-- cancels drained while their task was bound to a running slot -/
  drainedRunning : List UInt32 := []
  /-- cancels `handleStopRequest` has handled -/
  handledCancels : List UInt32 := []
  /-- tokens pushed for outputs: the task they went to and the task that produced them -/
  delivered : List (UInt32 × UInt32) := []

structure World (n : Nat) where
  runner : BlazeRunner n
  pc : Pc := .responses 0
  taskQueue : List Sequence := []
  memoryQueue : List (ManageMemoryTask n) := []
  stopQueue : List UInt32 := []
  crashed : Option Fault := none
  history : History n := {}

inductive Label (n : Nat)
  /-- the server queues a task, with a fresh id and a slot of the runner -/
  | submit (task : Sequence)
  /-- the server asks for memory -/
  | manage (request : ManageMemoryTask n)
  /-- a client cancels -/
  | cancel (taskId : UInt32)
  /-- the scheduler answers a waiting request; an ALLOCATE gets `slotId` -/
  | respond (position : Nat) (slotId : Option (Fin n))
  /-- the scheduler rejects the SUBMIT of a slot -/
  | reject (slotId : Fin n) (errorCode : Int32)
  /-- the scheduler sends a CONTINUE response for a slot -/
  | report (slotId : Fin n) (migrationComplete : Bool)
  /-- the scheduler enqueues an output of the run of `producer` -/
  | emit (output : OutputMessage n) (producer : UInt32)
  /-- the scheduler drops the outputs of a slot that nobody has taken yet -/
  | purge (slotId : Fin n)
  /-- the runner takes its next step -/
  | run (answer : SchedulerAnswer)
  deriving DecidableEq

/-- The runner's next step, with a scheduler that takes requests. -/
def tick : Label n := .run { accepts := true }

/-- The runner's next step, with a scheduler whose request queue is full. -/
def tickFull : Label n := .run { accepts := false }

/-- A number of the runner's steps, with a scheduler that takes requests. -/
def ticks (count : Nat) : List (Label n) := List.replicate count tick

namespace SchedulerPort

def takeAwaiting (port : SchedulerPort n) (position : Nat) : SchedulerPort n :=
  { port with awaiting := port.awaiting.eraseIdx position }

/-- Enqueues a response, which may end the run of a slot. -/
def respond (port : SchedulerPort n) (response : SchedulerResponse n) (ended : Option (Fin n)) :
    SchedulerPort n :=
  { port with
    responses := port.responses ++ [response]
    active := match ended with
      | none => port.active
      | some s => Function.update port.active s none }

/-- Enqueues an output. The last one of a run ends it. -/
def emit (config : BlazeConfig) (port : SchedulerPort n) (output : OutputMessage n)
    (producer : UInt32) : SchedulerPort n :=
  { port with
    outputs := port.outputs ++ [(output, producer)]
    active := Function.update port.active output.slotId
      (if output.ctxExhausted || Runner.outputFinished config.kind output then none
      else some { task := producer, emitted := true }) }

/-- Drops the queued outputs of a slot. -/
def purge (port : SchedulerPort n) (s : Fin n) : SchedulerPort n :=
  { port with outputs := port.outputs.filter (·.1.slotId ≠ s) }

end SchedulerPort

namespace World

variable (config : BlazeConfig)

def initial (n : Nat) : World n := { runner := Runner.initial n }

/-- The state of a slot. -/
def slotState (w : World n) (s : Fin n) : SlotState := (w.runner.slotManager.slots s).state

/-- A task is bound to a running slot. -/
def RunningOn (w : World n) (s : Fin n) (taskId : UInt32) : Prop :=
  (w.runner.slotManager.slots s).state = .running ∧
    (w.runner.slotManager.slots s).taskId = some taskId

instance (w : World n) (s : Fin n) (taskId : UInt32) : Decidable (w.RunningOn s taskId) :=
  inferInstanceAs (Decidable (_ ∧ _))

/-- A runner after a handler, or the fault that ended its run loop. -/
def settle (w : World n) (result : Except Fault (BlazeRunner n))
    (continued : BlazeRunner n → World n) : World n :=
  match result with
  | .error fault => { w with crashed := some fault }
  | .ok r => continued r

/-- The tasks tokens were pushed for. -/
def tokenTasks (log : List (Effect n)) : List UInt32 :=
  log.filterMap fun
    | .token token => some token.taskId
    | _ => none

/-- A memory request the runner has to account for: an ALLOCATE, or a DEALLOCATE
of a slot that is neither FREE nor being evicted. -/
def accountable (w : World n) (request : ManageMemoryTask n) : Bool :=
  match request.action, request.slotId with
  | .allocate, _ => true
  | .deallocate, some s => w.slotState s ≠ .free ∧ w.slotState s ≠ .awaitingEvictAck
  | _, _ => false

/-- A task whose slot takes it: it is IDLE or awaits an ack. -/
def admissible (w : World n) (task : Sequence) : Bool :=
  match task.slot config.kind n with
  | some s => w.slotState s ≠ .free ∧ w.slotState s ≠ .running
  | none => false

/-- An ALLOCATE response that is due names a FREE slot or none. -/
def allocatesFree (w : World n) (response : SchedulerResponse n) : Bool :=
  match response.requestType, response.slotId with
  | .allocate, some s => w.slotState s = .free
  | _, _ => true

/-- The history with a memory request obtained, when it is to be accounted for. -/
def noteObtained (w : World n) (request : ManageMemoryTask n) : History n :=
  { w.history with
    obtained := w.history.obtained ++ if w.accountable request then [request] else [] }

/-- The history with the tokens a handler pushed for an output of `producer`. -/
def noteDelivered (w : World n) (r : BlazeRunner n) (producer : UInt32) : History n :=
  let pushed := (tokenTasks r.log).drop (tokenTasks w.runner.log).length
  { w.history with delivered := w.history.delivered ++ pushed.map (·, producer) }

/-- The history with the queued cancels of running tasks drained. -/
def noteDrained (w : World n) : History n :=
  let running := w.stopQueue.filter fun taskId => decide (∃ s, w.RunningOn s taskId)
  { w.history with drainedRunning := w.history.drainedRunning ++ running }

/-- The history with a task popped, when its slot takes it. -/
def noteAdmitted (w : World n) (task : Sequence) : History n :=
  { w.history with
    admitted := w.history.admitted ++ if w.admissible config task then [task.taskId] else [] }

def runResponse (w : World n) (answer : SchedulerAnswer) (drained : Nat) : Option (World n) :=
  match w.runner.scheduler.responses with
  | [] => some { w with pc := .outputs 0 }
  | response :: rest =>
    if drained < n then
      if w.allocatesFree response then
        some (w.settle ((w.runner.popResponse rest).handleSchedulerResponse config answer response)
          fun r => { w with runner := r, pc := .responses (drained + 1) })
      else none
    else some { w with pc := .outputs 0 }

def runOutput (w : World n) (answer : SchedulerAnswer) (drained : Nat) : World n :=
  match w.runner.scheduler.outputs with
  | [] => { w with pc := .memory }
  | (output, producer) :: rest =>
    if drained < n then
      w.settle ((w.runner.popOutput rest).handleSchedulerOutput config answer output)
        fun r => { w with
          runner := r, pc := .outputs (drained + 1), history := w.noteDelivered r producer }
    else { w with pc := .memory }

/-- `getMemoryRequest` and its handler: a pending request comes first. -/
def runMemory (w : World n) (answer : SchedulerAnswer) : World n :=
  match w.runner.pendingRequests.pendingMemoryTask, w.memoryQueue with
  | some request, _ =>
    w.settle (w.runner.takePendingMemoryTask.handleMemoryRequest config answer request) fun r =>
      { w with runner := r, pc := .retryCancel }
  | none, request :: queue =>
    w.settle (w.runner.handleMemoryRequest config answer request) fun r => { w with
      runner := r, pc := .retryCancel, memoryQueue := queue, history := w.noteObtained request }
  | none, [] => { w with pc := .retryCancel }

def handleCancel (w : World n) (answer : SchedulerAnswer) (r : BlazeRunner n) (taskId : UInt32)
    (pc : Pc) : World n :=
  w.settle (r.handleStopRequest answer taskId) fun r => { w with
    runner := r, pc
    history := { w.history with handledCancels := w.history.handledCancels ++ [taskId] } }

def runRetryCancel (w : World n) (answer : SchedulerAnswer) : World n :=
  match w.runner.pendingRequests.pendingCancelTaskId with
  | some taskId => w.handleCancel answer (w.runner.takePendingCancel) taskId .drainCancels
  | none => { w with pc := .drainCancels }

/-- `tryPopAll` moves the whole stop queue into the step. -/
def drainCancels (w : World n) : World n :=
  { w with pc := .cancels w.stopQueue, stopQueue := [], history := w.noteDrained }

/-- `getTask` and its handler: a pending task comes first. -/
def runTask (w : World n) (answer : SchedulerAnswer) : World n :=
  match w.runner.pendingRequests.pendingTask, w.taskQueue with
  | some task, _ =>
    w.settle (w.runner.dropPendingTask.handleTask config answer task) fun r =>
      { w with runner := r, pc := .responses 0 }
  | none, task :: queue =>
    w.settle (w.runner.handleTask config answer task) fun r => { w with
      runner := r, pc := .responses 0, taskQueue := queue
      history := w.noteAdmitted config task }
  | none, [] => { w with pc := .responses 0 }

/-- The next handler call of a runner's `step`. -/
def runNext (w : World n) (answer : SchedulerAnswer) : Option (World n) :=
  match w.pc with
  | .responses drained => w.runResponse config answer drained
  | .outputs drained => some (w.runOutput config answer drained)
  | .memory => some (w.runMemory config answer)
  | .retryCancel => some (w.runRetryCancel answer)
  | .drainCancels => some w.drainCancels
  | .cancels [] => some { w with pc := .task }
  | .cancels (taskId :: rest) => some (w.handleCancel answer w.runner taskId (.cancels rest))
  | .task => some (w.runTask config answer)

/-- The response to an accepted ALLOCATE, STOP or EVICT. -/
def answerTo (request : ISRequest n) (slotId : Option (Fin n)) : SchedulerResponse n :=
  { requestType := request.type, requestId := request.requestId
    slotId := if request.type = .allocate then slotId else request.slotId }

def withScheduler (w : World n) (scheduler : SchedulerPort n) : World n :=
  { w with runner := { w.runner with scheduler } }

/-- One step of the system. A label that breaks an assumption about the other
parties is not enabled. -/
def step (w : World n) : Label n → Option (World n)
  | .submit task =>
    if task.taskId ∉ w.history.issued ∧ (task.slot config.kind n).isSome then
      some { w with
        taskQueue := w.taskQueue ++ [task]
        history := { w.history with issued := w.history.issued ++ [task.taskId] } }
    else none
  | .manage request =>
    if request.action = .deallocate → request.slotId.isSome then
      some { w with memoryQueue := w.memoryQueue ++ [request] }
    else none
  | .cancel taskId => some { w with
      stopQueue := w.stopQueue ++ [taskId]
      history := { w.history with cancelled := w.history.cancelled ++ [taskId] } }
  | .respond position slotId =>
    match w.runner.scheduler.awaiting[position]? with
    | none => none
    | some request =>
      let port := w.runner.scheduler.takeAwaiting position
      let ended := if request.type = .allocate then none else request.slotId
      some (w.withScheduler (port.respond (answerTo request slotId) ended))
  | .reject s errorCode => some (w.withScheduler (w.runner.scheduler.respond
      { requestType := .submit, slotId := some s, errorCode } (some s)))
  | .report s migrationComplete => some (w.withScheduler (w.runner.scheduler.respond
      { requestType := .continue, slotId := some s, migrationComplete } none))
  | .emit output producer => some (w.withScheduler (w.runner.scheduler.emit config output producer))
  | .purge s => some (w.withScheduler (w.runner.scheduler.purge s))
  | .run answer => if w.crashed.isSome then none else w.runNext config answer

/-- A decode runner without migration. -/
def decodeConfig : BlazeConfig :=
  { kind := .decode, enableMigration := false, maxContextLength := 4096 }

/-- The slots of a small runner. -/
def firstSlot : Fin 2 := 0

def secondSlot : Fin 2 := 1

/-- Both slots of a runner are allocated. -/
def allocateBoth : List (Label 2) :=
  [.manage { taskId := 100 }, .manage { taskId := 101 }] ++ ticks 14 ++
    [.respond 0 (some firstSlot), .respond 0 (some secondSlot)] ++ ticks 9

end World

end InferenceServer.Blaze
