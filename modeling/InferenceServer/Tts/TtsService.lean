import InferenceServer.Tts.BlazeTtsRunner

/-! The service that takes requests for speech. Every region under the mutex, every queue operation
and every call of a callback is one step; task ids are unique, and a worker sends messages only of
tasks that it has taken. -/
namespace InferenceServer.Tts

open Machine

inductive TtsEvent
  | chunk (chunkIndex sampleRateHz channels : Nat) (samplesBf16 : List Nat)
  | finish (reason : FinishReason)
  deriving DecidableEq

namespace Message

def taskId : Message → Nat
  | .chunk taskId _ _ _ _ => taskId
  | .finish taskId _ _ => taskId

/-- What the callback is told of a message. -/
def event : Message → TtsEvent
  | .chunk _ chunkIndex sampleRateHz channels samplesBf16 =>
    .chunk chunkIndex sampleRateHz channels samplesBf16
  | .finish _ reason _ => .finish reason

end Message

namespace TtsEvent

def isFinish : TtsEvent → Bool
  | .finish _ => true
  | .chunk _ _ _ _ => false

end TtsEvent

/-- A call of `generate`. -/
inductive Generating
  | idle
  | prepared
  | registered
  | refused
  | returned (accepted : Bool)
  | threw
  deriving DecidableEq

/-- A call of `cancel` that has left the mutex, maybe with the callback of the request, and has
still to tell the workers from one on. -/
structure Cancelling where
  taskId : Nat
  takes : Bool
  queue : Nat := 0
  deriving DecidableEq

/-- An audio loop. -/
inductive AudioLoop
  | checking
  | popping
  | handling (message : Message)
  | calling (taskId : Nat) (event : TtsEvent)
  | exited
  deriving DecidableEq

/-- What the loop is about to tell the callback of the request, which it has copied or taken. -/
def AudioLoop.called (taskId : Nat) : AudioLoop → List TtsEvent
  | .calling other event => if other = taskId then [event] else []
  | _ => []

/-- The call of `stop` that cleared `running`. -/
inductive Stopping
  | no
  | joining
  | sweeping
  | calling (rest : List Nat)
  | stopped
  deriving DecidableEq

namespace Stopping

/-- The loops were joined. -/
def joined : Stopping → Bool
  | .no | .joining => false
  | .sweeping | .calling _ | .stopped => true

/-- The requests were taken out. -/
def swept : Stopping → Bool
  | .no | .joining | .sweeping => false
  | .calling _ | .stopped => true

/-- The requests that have still to be told. -/
def rest : Stopping → List Nat
  | .calling rest => rest
  | _ => []

end Stopping

structure TtsService where
  config : TtsConfig
  workers : Nat
  running : Bool := true
  inFlight : List Nat := []
  generating : Nat → Generating := fun _ => .idle
  cancelling : List Cancelling := []
  loops : Nat → AudioLoop := fun _ => .checking
  /-- The shutdown of an audio queue is a message of its own. -/
  audioQueues : Nat → List (Option Message) := fun _ => []
  taskQueue : List Task := []
  cancelQueues : Nat → List Nat := fun _ => []
  stopping : Stopping := .no
  /-- Some call of `stop` has returned. -/
  stopReturned : Bool := false
  /-- The worker that has taken a task. -/
  worker : Nat → Option Nat := fun _ => none
  /-- What the callbacks were told, and what the workers have sent. -/
  events : List (Nat × TtsEvent) := []
  put : List Message := []

inductive ServiceLabel
  | generate (taskId : Nat) (ready prepared : Bool)
  | register (taskId : Nat)
  | push (task : Task) (accepted : Bool)
  | rollBack (taskId : Nat)
  | cancel (taskId : Nat)
  | cancelNext (index : Nat) (room : Bool)
  | check (worker : Nat)
  | pop (worker : Nat)
  | handle (worker : Nat)
  | call (worker : Nat)
  | stop
  | join
  | sweep (order : List Nat)
  | stopCall
  | takeTask (worker : Nat)
  | takeCancel (worker : Nat)
  | put (worker : Nat) (message : Message)
  deriving DecidableEq

namespace TtsService

variable (service : TtsService) (worker : Nat)

def capacityLimit : Nat :=
  min (max service.config.taskQueueCapacity 1) (max service.config.maxUsers 1)

def setGenerating (taskId : Nat) (generating : Generating) : TtsService :=
  { service with generating := Function.update service.generating taskId generating }

def setLoop (loop : AudioLoop) : TtsService :=
  { service with loops := Function.update service.loops worker loop }

def tell (taskId : Nat) (event : TtsEvent) : TtsService :=
  { service with events := service.events ++ [(taskId, event)] }

/-- `generate`, up to the registration. -/
def generate (taskId : Nat) (ready prepared : Bool) : Option TtsService :=
  if service.generating taskId = .idle then
    if service.running ∧ ready then
      some (service.setGenerating taskId (if prepared then .prepared else .threw))
    else some (service.setGenerating taskId (.returned false))
  else none

def register (taskId : Nat) : Option TtsService :=
  if service.generating taskId = .prepared then
    if service.capacityLimit ≤ service.inFlight.length then
      some (service.setGenerating taskId .threw)
    else some { service.setGenerating taskId .registered with
      inFlight := service.inFlight ++ [taskId] }
  else none

def push (task : Task) (accepted : Bool) : Option TtsService :=
  if service.generating task.taskId = .registered ∧ task.done = false then
    if accepted then some { service.setGenerating task.taskId (.returned true) with
      taskQueue := service.taskQueue ++ [task] }
    else some (service.setGenerating task.taskId .refused)
  else none

def rollBack (taskId : Nat) : Option TtsService :=
  if service.generating taskId = .refused then
    some { service.setGenerating taskId .threw with inFlight := service.inFlight.erase taskId }
  else none

/-- The mutex region of `cancel`. -/
def cancel (taskId : Nat) : TtsService :=
  { service with
    inFlight := service.inFlight.erase taskId
    cancelling := service.cancelling ++ [⟨taskId, taskId ∈ service.inFlight, 0⟩] }

/-- The next push of a `cancel`, whose queue may be full, or its call of the callback. -/
def cancelNext (index : Nat) (room : Bool) : Option TtsService :=
  match service.cancelling[index]? with
  | none => none
  | some cancelling =>
    if cancelling.queue < service.workers then some { service with
      cancelQueues := if room then Function.update service.cancelQueues cancelling.queue
          (service.cancelQueues cancelling.queue ++ [cancelling.taskId])
        else service.cancelQueues
      cancelling := service.cancelling.set index { cancelling with queue := cancelling.queue + 1 } }
    else
      let left := { service with cancelling := service.cancelling.eraseIdx index }
      some (if cancelling.takes then left.tell cancelling.taskId (.finish .cancelled) else left)

/-- The loop's check of `running`. -/
def check : Option TtsService :=
  match service.loops worker with
  | .checking =>
    if worker < service.workers then
      some (service.setLoop worker (if service.running then .popping else .exited))
    else none
  | _ => none

def pop : Option TtsService :=
  match service.loops worker, service.audioQueues worker with
  | .popping, message :: rest =>
    some { service.setLoop worker (message.elim .exited .handling) with
      audioQueues := Function.update service.audioQueues worker rest }
  | _, _ => none

/-- The mutex region of `deliverEvent`, which copies the callback, or of `finishRequest`, which
moves it out. -/
def handle : Option TtsService :=
  match service.loops worker with
  | .handling message =>
    if message.taskId ∈ service.inFlight then
      let called := service.setLoop worker (.calling message.taskId message.event)
      some (if message.event.isFinish then
          { called with inFlight := service.inFlight.erase message.taskId }
        else called)
    else some (service.setLoop worker .checking)
  | _ => none

def call : Option TtsService :=
  match service.loops worker with
  | .calling taskId event => some ((service.setLoop worker .checking).tell taskId event)
  | _ => none

/-- `stop`, up to the shutdown of the queues; it returns at once when the service does not run. -/
def stop : TtsService :=
  if service.running then { service with
    running := false
    stopping := .joining
    taskQueue := service.taskQueue ++ [{ taskId := 0, done := true }]
    audioQueues := fun worker => service.audioQueues worker ++ [none] }
  else { service with stopReturned := true }

def join : Option TtsService :=
  if service.stopping = .joining ∧ ∀ worker < service.workers, service.loops worker = .exited then
    some { service with stopping := .sweeping }
  else none

/-- The callbacks of all requests are moved out, in the order of the map. -/
def sweep (order : List Nat) : Option TtsService :=
  if service.stopping = .sweeping ∧ order.Perm service.inFlight then
    some { service with inFlight := [], stopping := .calling order }
  else none

def stopCall : Option TtsService :=
  match service.stopping with
  | .calling (taskId :: rest) =>
    some ({ service with stopping := .calling rest }.tell taskId (.finish .cancelled))
  | .calling [] => some { service with stopping := .stopped, stopReturned := true }
  | _ => none

def takeTask : Option TtsService :=
  match service.taskQueue with
  | [] => none
  | task :: rest =>
    if worker < service.workers then some { service with
      taskQueue := rest
      worker := if task.done then service.worker
        else Function.update service.worker task.taskId (some worker) }
    else none

def takeCancel : Option TtsService :=
  match service.cancelQueues worker with
  | [] => none
  | _ :: rest => some { service with
      cancelQueues := Function.update service.cancelQueues worker rest }

/-- A worker sends a message of a task that it has taken. -/
def sendMessage (message : Message) : Option TtsService :=
  if service.worker message.taskId = some worker then some { service with
    audioQueues := Function.update service.audioQueues worker
      (service.audioQueues worker ++ [some message])
    put := service.put ++ [message] }
  else none

def step : ServiceLabel → Option TtsService
  | .generate taskId ready prepared => service.generate taskId ready prepared
  | .register taskId => service.register taskId
  | .push task accepted => service.push task accepted
  | .rollBack taskId => service.rollBack taskId
  | .cancel taskId => some (service.cancel taskId)
  | .cancelNext index room => service.cancelNext index room
  | .check worker => service.check worker
  | .pop worker => service.pop worker
  | .handle worker => service.handle worker
  | .call worker => service.call worker
  | .stop => some service.stop
  | .join => service.join
  | .sweep order => service.sweep order
  | .stopCall => service.stopCall
  | .takeTask worker => service.takeTask worker
  | .takeCancel worker => service.takeCancel worker
  | .put worker message => service.sendMessage worker message

/-- The service after `start`. -/
def start (config : TtsConfig) (workers : Nat) : TtsService where
  config := config
  workers := workers

/-- The `cancel` calls a callback that an audio loop has copied and has still to call. -/
def Overtakes (index : Nat) : Prop :=
  match service.cancelling[index]? with
  | none => False
  | some cancelling => service.workers ≤ cancelling.queue ∧ cancelling.takes = true ∧
      ∃ worker < service.workers, (service.loops worker).called cancelling.taskId ≠ []

/-- No `cancel` overtakes an audio loop; what `generate` rolls back is still registered; nothing is
registered after the sweep of `stop`; and no second `stop` finds the service not running before
the first has returned. -/
def Meets : ServiceLabel → Prop
  | .cancelNext index _ => ¬ service.Overtakes index
  | .rollBack taskId => taskId ∈ service.inFlight
  | .register _ => service.stopping.swept = false
  | .stop => service.running = false → service.stopping = .stopped
  | _ => True

instance (service : TtsService) (index : Nat) : Decidable (service.Overtakes index) :=
  match found : service.cancelling[index]? with
  | none => .isFalse fun overtakes => by
      unfold Overtakes at overtakes
      rw [found] at overtakes
      exact overtakes
  | some cancelling => decidable_of_iff (service.workers ≤ cancelling.queue ∧
      cancelling.takes = true ∧
      ∃ worker < service.workers, (service.loops worker).called cancelling.taskId ≠ []) (by
        unfold Overtakes
        rw [found])

instance (service : TtsService) (label : ServiceLabel) : Decidable (service.Meets label) :=
  match label with
  | .cancelNext index _ => inferInstanceAs (Decidable (¬ service.Overtakes index))
  | .rollBack taskId => inferInstanceAs (Decidable (taskId ∈ service.inFlight))
  | .register _ => inferInstanceAs (Decidable (service.stopping.swept = false))
  | .stop => inferInstanceAs (Decidable (service.running = false → service.stopping = .stopped))
  | .generate _ _ _ | .push _ _ | .cancel _ | .check _ | .pop _ | .handle _ | .call _ | .join
  | .sweep _ | .stopCall | .takeTask _ | .takeCancel _ | .put _ _ => .isTrue trivial

end TtsService
end InferenceServer.Tts
