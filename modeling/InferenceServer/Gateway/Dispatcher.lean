import InferenceServer.Gateway.Registry
import InferenceServer.Machine.Table

/-! The dispatcher: it assigns each request of the decode server to a prefill server and
hands the result back. The parts that hold a lock are functions of their own, and the
handlers are put together from them. -/
namespace InferenceServer.Gateway
open Machine

abbrev TaskId := UInt32

/-- Ticks of the steady clock, as durations are. -/
abbrev Time := Int

structure PrefillRequestMessage where
  taskId : TaskId
  registrationHashes : List UInt64 := []
  deriving DecidableEq

structure PrefillResultMessage where
  taskId : TaskId
  error : Bool := false
  generatedText : String := ""
  deriving DecidableEq

structure Options where
  requestTimeout : Int
  timeoutWindow : Int
  timeoutCooldown : Int
  timeoutThreshold : Nat

def Options.default : Options where
  requestTimeout := 300000
  timeoutWindow := 60000
  timeoutCooldown := 30000
  timeoutThreshold := 3

structure InFlightEntry where
  prefillId : ServerId
  startedAt : Time
  deriving DecidableEq

structure Dispatcher where
  registry : PrefillRegistry := {}
  inFlight : Table TaskId InFlightEntry := ∅
  prefillTimeoutHistory : ServerId → List Time := fun _ => []
  prefillBlockedUntil : Table ServerId Time := ∅
  roundRobinCursor : UInt64 := 0

/-- What goes out through the senders. -/
inductive Sent
  | requestToPrefill (prefillServerId : ServerId) (msg : PrefillRequestMessage)
  | cancelToPrefill (prefillServerId : ServerId) (taskId : TaskId)
  | resultToDecode (msg : PrefillResultMessage)
  deriving DecidableEq

def failTaskToDecode (taskId : TaskId) (reason : String) : Sent :=
  .resultToDecode { taskId, error := true, generatedText := reason }

namespace Dispatcher

variable (dispatcher : Dispatcher) (options : Options) (serverId : ServerId) (taskId : TaskId)
  (msg : PrefillRequestMessage)

/-- Chooses a prefill for a request and moves the cursor on. -/
def route : Option ServerId × Dispatcher :=
  let (selection, roundRobinCursor) := selectPrefill
    (dispatcher.registry.routingSnapshot msg.registrationHashes) dispatcher.roundRobinCursor
  (selection.serverId, { dispatcher with roundRobinCursor })

def incrementInflight : Dispatcher :=
  { dispatcher with registry := dispatcher.registry.incrementInflight serverId }

def decrementInflight : Dispatcher :=
  { dispatcher with registry := dispatcher.registry.decrementInflight serverId }

def track (entry : InFlightEntry) : Dispatcher :=
  { dispatcher with inFlight := dispatcher.inFlight.insert taskId entry }

/-- Finds and erases a task. -/
def takeTask : Option InFlightEntry × Dispatcher :=
  (dispatcher.inFlight.lookup taskId,
    { dispatcher with inFlight := dispatcher.inFlight.erase taskId })

/-- Erases the tasks of a kind. -/
def takeTasks (taken : InFlightEntry → Bool) : List (TaskId × InFlightEntry) × Dispatcher :=
  (Table.select (fun _ entry => taken entry) dispatcher.inFlight,
    { dispatcher with
      inFlight := Table.eraseIf (fun _ entry => taken entry) dispatcher.inFlight })

/-- The prefills whose cooldown is over. -/
def takeRecovered (now : Time) : List ServerId × Dispatcher :=
  ((Table.select (fun _ blockedUntil => !decide (now < blockedUntil))
      dispatcher.prefillBlockedUntil).map Prod.fst,
    { dispatcher with
      prefillBlockedUntil := Table.eraseIf (fun _ blockedUntil => !decide (now < blockedUntil))
        dispatcher.prefillBlockedUntil })

def setAcceptingTasks (acceptingTasks : Bool) : Dispatcher :=
  { dispatcher with registry := dispatcher.registry.setAcceptingTasks serverId acceptingTasks }

def timedOut (now : Time) (entry : InFlightEntry) : Bool :=
  !decide (now - entry.startedAt < options.requestTimeout)

/-- A prefill with too many timeouts within the window gets no new tasks for a while. -/
def recordTimeout (dispatcher : Dispatcher) (prefillId : ServerId) (now : Time) : Dispatcher :=
  if options.timeoutThreshold > 0 ∧ options.timeoutWindow > 0 ∧ options.timeoutCooldown > 0 then
    let history := (dispatcher.prefillTimeoutHistory prefillId ++ [now]).dropWhile fun timeout =>
      now - timeout > options.timeoutWindow
    if history.length ≥ options.timeoutThreshold then
      { dispatcher.setAcceptingTasks prefillId false with
        prefillBlockedUntil :=
          dispatcher.prefillBlockedUntil.insert prefillId (now + options.timeoutCooldown)
        prefillTimeoutHistory :=
          Function.update dispatcher.prefillTimeoutHistory prefillId [] }
    else
      { dispatcher with
        prefillTimeoutHistory :=
          Function.update dispatcher.prefillTimeoutHistory prefillId history }
  else dispatcher

/-- `sent` is what the sender of the request returns. -/
def onPrefillRequest (now : Time) (sent : Bool) : Dispatcher × List Sent :=
  match dispatcher.route msg with
  | (none, dispatcher) => (dispatcher, [failTaskToDecode msg.taskId "no_prefill_available"])
  | (some chosen, dispatcher) =>
    let dispatcher := (dispatcher.incrementInflight chosen).track msg.taskId
      { prefillId := chosen, startedAt := now }
    if sent then (dispatcher, [.requestToPrefill chosen msg])
    else
      (((dispatcher.decrementInflight chosen).takeTask msg.taskId).2,
        [.requestToPrefill chosen msg, failTaskToDecode msg.taskId "prefill_send_failed"])

/-- The counter of the responder is decremented, whoever was assigned. -/
def onPrefillResult (fromServerId : ServerId) (msg : PrefillResultMessage) :
    Dispatcher × List Sent :=
  match dispatcher.takeTask msg.taskId with
  | (none, dispatcher) => (dispatcher, [])
  | (some _, dispatcher) => (dispatcher.decrementInflight fromServerId, [.resultToDecode msg])

def onPrefillCancel : Dispatcher × List Sent :=
  match dispatcher.takeTask taskId with
  | (none, dispatcher) => (dispatcher, [])
  | (some entry, dispatcher) =>
    (dispatcher.decrementInflight entry.prefillId, [.cancelToPrefill entry.prefillId taskId])

def onCacheBlocksAdded (blockHashes : List UInt64) : Dispatcher :=
  { dispatcher with registry := dispatcher.registry.addCachedBlocks serverId blockHashes }

def onPrefillDown : Dispatcher × List Sent :=
  let (orphaned, dispatcher) := dispatcher.takeTasks (·.prefillId = serverId)
  (dispatcher, orphaned.map fun task => failTaskToDecode task.1 "prefill_down")

/-- `PrefillRegistry::markDown`, with the dispatcher's handler as its callback. -/
def markDown : Dispatcher × List Sent :=
  match dispatcher.registry.markDown serverId with
  | (wasKnown, registry) =>
    let dispatcher := { dispatcher with registry }
    if wasKnown then dispatcher.onPrefillDown serverId else (dispatcher, [])

/-- A registration message: the slot is created when it is new. -/
def onRegistration (maxInFlight : Nat) : Dispatcher :=
  { dispatcher with
    registry := (dispatcher.registry.preRegister serverId).markRegistered serverId maxInFlight }

/-- The loop body over the tasks that timed out. -/
def failTimedOut (now : Time) (dispatcher : Dispatcher) (task : TaskId × InFlightEntry) :
    Dispatcher :=
  recordTimeout options (dispatcher.decrementInflight task.2.prefillId) task.2.prefillId now

def onRequestTimeouts (dispatcher : Dispatcher) (now : Time) : Dispatcher × List Sent :=
  let (recovered, dispatcher) := dispatcher.takeRecovered now
  let dispatcher := recovered.foldl (setAcceptingTasks · · true) dispatcher
  if options.requestTimeout ≤ 0 then (dispatcher, [])
  else
    let (tasks, dispatcher) := dispatcher.takeTasks (timedOut options now)
    (tasks.foldl (failTimedOut options now) dispatcher,
      tasks.flatMap fun task =>
        [.cancelToPrefill task.2.prefillId task.1, failTaskToDecode task.1 "timeout"])

end Dispatcher

end InferenceServer.Gateway
