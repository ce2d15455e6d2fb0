import InferenceServer.Gateway.Dispatcher

/-! The dispatcher's handlers on their threads: requests and cancels of the decode server on
one, results and registrations of the prefill servers on another, the loss of a server on
a watchdog, and timeouts on a timer. A step is one part that holds a lock or one call of a
sender. Each request has a number of its own, under which a trace records what becomes of
it. -/
namespace InferenceServer.Gateway
open Machine

/-- What the decode thread does next. -/
inductive DecodeThread
  | idle
  /-- Fails a request that no prefill was found for. -/
  | rejecting (request : Nat) (msg : PrefillRequestMessage)
  | incrementing (request : Nat) (msg : PrefillRequestMessage) (chosen : ServerId)
  | tracking (request : Nat) (msg : PrefillRequestMessage) (chosen : ServerId)
  | sending (request : Nat) (msg : PrefillRequestMessage) (chosen : ServerId)
  /-- Decrements after the request could not be sent. -/
  | sendFailed (request : Nat) (msg : PrefillRequestMessage) (chosen : ServerId)
  /-- Erases the task that could not be sent. -/
  | erasing (request : Nat) (msg : PrefillRequestMessage)
  | failing (request : Nat) (msg : PrefillRequestMessage)
  | cancelled (request : Nat) (taskId : TaskId) (entry : InFlightEntry)
  | sendingCancel (taskId : TaskId) (entry : InFlightEntry)
  deriving DecidableEq

inductive PrefillThread
  | idle
  | decrementing (request : Nat) (fromServerId : ServerId) (msg : PrefillResultMessage)
  | forwarding (request : Nat) (msg : PrefillResultMessage)
  | registering (serverId : ServerId) (maxInFlight : Nat)
  deriving DecidableEq

/-- Tasks that were taken off, with the numbers of their requests. -/
abbrev Taken := List (Nat × TaskId × InFlightEntry)

inductive WatchdogThread
  | idle
  | orphaning (serverId : ServerId)
  | failing (orphaned : Taken)
  deriving DecidableEq

inductive TimerThread
  | idle
  | recovering (recovered : List ServerId) (now : Time)
  | sweeping (now : Time)
  | decrementing (timedOut : Taken) (now : Time)
  | sendingCancel (timedOut : Taken) (now : Time)
  | recording (timedOut : Taken) (now : Time)
  | failing (timedOut : Taken) (now : Time)
  deriving DecidableEq

inductive Act
  | accepted (request : Nat)
  | cancelAccepted (request : Nat)
  | decremented (request : Nat)
  /-- `sendResultToDecode` for the request. -/
  | answered (request : Nat)
  deriving DecidableEq

structure Threads where
  dispatcher : Dispatcher := {}
  decode : DecodeThread := .idle
  prefill : PrefillThread := .idle
  watchdog : WatchdogThread := .idle
  timer : TimerThread := .idle
  requests : Nat := 0
  /-- The request that was last accepted under a task id. -/
  current : TaskId → Nat := fun _ => 0
  trace : List Act := []

inductive Move
  | request (msg : PrefillRequestMessage)
  | cancel (taskId : TaskId)
  | result (fromServerId : ServerId) (msg : PrefillResultMessage)
  | registration (serverId : ServerId) (maxInFlight : Nat)
  | cacheBlocksAdded (serverId : ServerId) (blockHashes : List UInt64)
  | down (serverId : ServerId)
  | timeouts (now : Time)
  /-- The next step of the decode thread; `sent` is what a sender returns. -/
  | decode (now : Time) (sent : Bool)
  | prefill
  | watchdog
  | timer

namespace Threads

variable (threads : Threads) (serverId : ServerId)

def startRequest (msg : PrefillRequestMessage) : Option Threads :=
  match threads.decode with
  | .idle =>
    let (chosen, dispatcher) := threads.dispatcher.route msg
    some { threads with
      dispatcher
      requests := threads.requests + 1
      decode := match chosen with
        | none => .rejecting threads.requests msg
        | some chosen => .incrementing threads.requests msg chosen }
  | _ => none

def startCancel (taskId : TaskId) : Option Threads :=
  match threads.decode with
  | .idle =>
    match threads.dispatcher.takeTask taskId with
    | (none, _) => some threads
    | (some entry, dispatcher) =>
      some { threads with
        dispatcher
        decode := .cancelled (threads.current taskId) taskId entry
        trace := threads.trace ++ [.cancelAccepted (threads.current taskId)] }
  | _ => none

def decodeStep (now : Time) (sent : Bool) : Option Threads :=
  match threads.decode with
  | .idle => none
  | .rejecting request _ | .failing request _ =>
    some { threads with decode := .idle, trace := threads.trace ++ [.answered request] }
  | .incrementing request msg chosen =>
    some { threads with
      dispatcher := threads.dispatcher.incrementInflight chosen
      decode := .tracking request msg chosen }
  | .tracking request msg chosen =>
    some { threads with
      dispatcher := threads.dispatcher.track msg.taskId { prefillId := chosen, startedAt := now }
      current := Function.update threads.current msg.taskId request
      decode := .sending request msg chosen
      trace := threads.trace ++ [.accepted request] }
  | .sending request msg chosen =>
    some { threads with decode := if sent then .idle else .sendFailed request msg chosen }
  | .sendFailed request msg chosen =>
    some { threads with
      dispatcher := threads.dispatcher.decrementInflight chosen
      decode := .erasing request msg
      trace := threads.trace ++ [.decremented request] }
  | .erasing request msg =>
    some { threads with
      dispatcher := (threads.dispatcher.takeTask msg.taskId).2
      decode := .failing request msg }
  | .cancelled request taskId entry =>
    some { threads with
      dispatcher := threads.dispatcher.decrementInflight entry.prefillId
      decode := .sendingCancel taskId entry
      trace := threads.trace ++ [.decremented request] }
  | .sendingCancel _ _ => some { threads with decode := .idle }

def startResult (fromServerId : ServerId) (msg : PrefillResultMessage) : Option Threads :=
  match threads.prefill with
  | .idle =>
    match threads.dispatcher.takeTask msg.taskId with
    | (none, _) => some threads
    | (some _, dispatcher) =>
      some { threads with
        dispatcher
        prefill := .decrementing (threads.current msg.taskId) fromServerId msg }
  | _ => none

def startRegistration (maxInFlight : Nat) : Option Threads :=
  match threads.prefill with
  | .idle =>
    some { threads with
      dispatcher := { threads.dispatcher with
        registry := threads.dispatcher.registry.preRegister serverId }
      prefill := .registering serverId maxInFlight }
  | _ => none

def addCacheBlocks (blockHashes : List UInt64) : Option Threads :=
  match threads.prefill with
  | .idle =>
    some { threads with
      dispatcher := threads.dispatcher.onCacheBlocksAdded serverId blockHashes }
  | _ => none

def prefillStep : Option Threads :=
  match threads.prefill with
  | .idle => none
  | .decrementing request fromServerId msg =>
    some { threads with
      dispatcher := threads.dispatcher.decrementInflight fromServerId
      prefill := .forwarding request msg
      trace := threads.trace ++ [.decremented request] }
  | .forwarding request _ =>
    some { threads with prefill := .idle, trace := threads.trace ++ [.answered request] }
  | .registering serverId maxInFlight =>
    some { threads with
      dispatcher := { threads.dispatcher with
        registry := threads.dispatcher.registry.markRegistered serverId maxInFlight }
      prefill := .idle }

/-- The tasks of a kind, each with the request it was accepted for. -/
def takeTasks (taken : InFlightEntry → Bool) : Taken × Dispatcher :=
  let (tasks, dispatcher) := threads.dispatcher.takeTasks taken
  (tasks.map fun task => (threads.current task.1, task.1, task.2), dispatcher)

def startDown : Option Threads :=
  match threads.watchdog with
  | .idle =>
    let (wasKnown, registry) := threads.dispatcher.registry.markDown serverId
    some { threads with
      dispatcher := { threads.dispatcher with registry }
      watchdog := if wasKnown then .orphaning serverId else .idle }
  | _ => none

def watchdogStep : Option Threads :=
  match threads.watchdog with
  | .idle => none
  | .orphaning serverId =>
    let (orphaned, dispatcher) := threads.takeTasks (·.prefillId = serverId)
    some { threads with dispatcher, watchdog := .failing orphaned }
  | .failing [] => some { threads with watchdog := .idle }
  | .failing ((request, _) :: rest) =>
    some { threads with
      watchdog := .failing rest
      trace := threads.trace ++ [.answered request] }

def startTimeouts (now : Time) : Option Threads :=
  match threads.timer with
  | .idle =>
    let (recovered, dispatcher) := threads.dispatcher.takeRecovered now
    some { threads with dispatcher, timer := .recovering recovered now }
  | _ => none

def timerStep (options : Options) (threads : Threads) : Option Threads :=
  match threads.timer with
  | .idle => none
  | .recovering [] now =>
    some { threads with timer := if options.requestTimeout ≤ 0 then .idle else .sweeping now }
  | .recovering (serverId :: rest) now =>
    some { threads with
      dispatcher := threads.dispatcher.setAcceptingTasks serverId true
      timer := .recovering rest now }
  | .sweeping now =>
    let (timedOut, dispatcher) := threads.takeTasks (Dispatcher.timedOut options now)
    some { threads with dispatcher, timer := .decrementing timedOut now }
  | .decrementing [] _ => some { threads with timer := .idle }
  | .decrementing ((request, taskId, entry) :: rest) now =>
    some { threads with
      dispatcher := threads.dispatcher.decrementInflight entry.prefillId
      timer := .sendingCancel ((request, taskId, entry) :: rest) now
      trace := threads.trace ++ [.decremented request] }
  | .sendingCancel timedOut now => some { threads with timer := .recording timedOut now }
  | .recording [] _ => none
  | .recording ((request, taskId, entry) :: rest) now =>
    some { threads with
      dispatcher := Dispatcher.recordTimeout options threads.dispatcher entry.prefillId now
      timer := .failing ((request, taskId, entry) :: rest) now }
  | .failing [] _ => none
  | .failing ((request, _) :: rest) now =>
    some { threads with
      timer := .decrementing rest now
      trace := threads.trace ++ [.answered request] }

def step (options : Options) (threads : Threads) : Move → Option Threads
  | .request msg => threads.startRequest msg
  | .cancel taskId => threads.startCancel taskId
  | .result fromServerId msg => threads.startResult fromServerId msg
  | .registration serverId maxInFlight => threads.startRegistration serverId maxInFlight
  | .cacheBlocksAdded serverId blockHashes => threads.addCacheBlocks serverId blockHashes
  | .down serverId => threads.startDown serverId
  | .timeouts now => threads.startTimeouts now
  | .decode now sent => threads.decodeStep now sent
  | .prefill => threads.prefillStep
  | .watchdog => threads.watchdogStep
  | .timer => timerStep options threads

end Threads

end InferenceServer.Gateway
