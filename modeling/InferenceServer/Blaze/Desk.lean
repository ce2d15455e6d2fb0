import InferenceServer.Blaze.Phase
import InferenceServer.Blaze.Runner

/-! The runner as a desk: the same handlers over one phase for each slot. No
handler of a desk can fault and none keeps a map or a count, so what happens to
tasks, memory requests and cancels is read off directly. -/
namespace InferenceServer.Blaze

abbrev Desk (n : Nat) := Runner (Fin n → Phase) n

namespace Desk

variable (config : BlazeConfig) (d : Desk n)

def initial (n : Nat) : Desk n := { slotManager := fun _ => .free }

def phase (s : Fin n) : Phase := d.slotManager s

def setPhase (s : Fin n) (phase : Phase) : Desk n :=
  { d with slotManager := Function.update d.slotManager s phase }

@[simp] theorem setPhase_slotManager (s : Fin n) (phase : Phase) :
    (setPhase d s phase).slotManager = Function.update d.slotManager s phase := rfl

/-- Tells the client of a latched task, if any, that its stream is over. -/
def closeLatched (latched : Option Sequence) : Desk n :=
  match latched with
  | none => d
  | some task => d.closeDropped task

@[simp] theorem closeLatched_slotManager (latched : Option Sequence) :
    (closeLatched d latched).slotManager = d.slotManager := by
  cases latched <;> rfl

/-- EVICT of a slot that is IDLE or running `owner`. -/
def evictHeld (answer : SchedulerAnswer) (request : ManageMemoryTask n) (s : Fin n)
    (owner : Option UInt32) : Desk n :=
  let d := d.pushRequest answer (makeEvictRequest request.taskId s) none
  if answer.accepts then
    let d := d.evictPendingTask config s
    let d := match owner with
      | none => d
      | some task => d.note (.evictedRunning task)
    setPhase d s (.evicting request.taskId owner)
  else d.deferMemoryTask request

/-- DEALLOCATE of slot `s`. -/
def evict (answer : SchedulerAnswer) (request : ManageMemoryTask n) (s : Fin n) : Desk n :=
  match phase d s with
  | .idle => evictHeld config d answer request s none
  | .running task => evictHeld config d answer request s (some task)
  | .stopping task _ latched =>
    setPhase (closeLatched d latched) s (.stopping task (some request.taskId) none)
  | .evicting .. => d.note (.assertion .doubleDeallocate)
  | .free => d.note (.assertion .deallocateFree)

def memory (answer : SchedulerAnswer) (request : ManageMemoryTask n) : Desk n :=
  match request.action, request.slotId with
  | .allocate, _ => d.handleAllocateRequest config answer request
  | .deallocate, some s => evict config d answer request s
  | .deallocate, none => d
  | .move, _ => d.note (.assertion .unexpectedAction)

/-- A task for slot `s`. -/
def task (d : Desk n) (answer : SchedulerAnswer) (task : Sequence) (s : Fin n) : Desk n :=
  match phase d s with
  | .idle =>
    let d := d.pushRequest answer (Runner.taskRequest config s task) (some task.taskId)
    if answer.accepts then setPhase d s (.running task.taskId) else d.deferTask task
  | .stopping owner evict _ => setPhase d s (.stopping owner evict (some task))
  | .evicting .. => d.closeDropped task
  | .free | .running _ => d.note (.assertion .submitUnexpectedState)

/-- The STOP ack of slot `s`, whose latched eviction or task is taken up. -/
def stopAck (answer : SchedulerAnswer) (s : Fin n) : Desk n :=
  match phase d s with
  | .stopping _ (some evictId) latched =>
    evict config (setPhase (closeLatched d latched) s .idle) answer
      { taskId := evictId, action := .deallocate, slotId := some s } s
  | .stopping _ none (some latched) => task config (setPhase d s .idle) answer latched s
  | .stopping _ none none => setPhase d s .idle
  | _ => d

def evictAck (s : Fin n) : Desk n :=
  match phase d s with
  | .evicting .. => setPhase d s .free
  | _ => d

def allocateAck (requestId : UInt32) (slotId : Option (Fin n)) : Desk n :=
  match slotId with
  | none => d.note (.allocateReply requestId none)
  | some s => (setPhase d s .idle).note (.allocateReply requestId (some s))

def submitError (s : Fin n) : Desk n :=
  match phase d s with
  | .running task => (setPhase d s .idle).pushToken task 0 (flagError ||| flagFinal) 0 0
  | _ => d

/-- A response, by the request it answers. -/
def response (d : Desk n) (answer : SchedulerAnswer) (response : SchedulerResponse n) : Desk n :=
  match response.requestType, response.slotId with
  | .allocate, slotId => allocateAck d response.requestId slotId
  | .evict, some s => evictAck d s
  | .stop, some s => stopAck config d answer s
  | .submit, some s => submitError d s
  | .continue, _ =>
    if config.kind = .decode ∧ response.migrationComplete then d
    else d.note (.assertion .unexpectedResponse)
  | _, none => d

/-- An output of slot `s`: the token for a running task ends its run when it is
the last; `accepts` and `rejects` are the speculation counts it carries. -/
def output (d : Desk n) (output : OutputMessage n) (accepts rejects : UInt32) : Desk n :=
  match phase d output.slotId with
  | .running task =>
    if output.ctxExhausted then
      (setPhase d output.slotId .idle).pushToken task output.tokenId
        (Runner.exhaustedFlags config.kind) 0 0
    else if Runner.outputFinished config.kind output then
      (setPhase d output.slotId .idle).pushToken task output.tokenId flagFinal accepts rejects
    else d.pushToken task output.tokenId 0 accepts rejects
  | .stopping .. | .evicting .. => d
  | .free | .idle => d.note (.assertion .outputNotRunning)

/-- The slot running a task. -/
def slotRunning (task : UInt32) : Option (Fin n) :=
  (List.finRange n).find? fun s => phase d s = .running task

theorem slotRunning_some {d : Desk n} (found : slotRunning d taskId = some s) :
    d.slotManager s = .running taskId := by
  have running := List.find?_some found
  exact of_decide_eq_true running

theorem slotRunning_none {d : Desk n} (missing : slotRunning d taskId = none) (s : Fin n) :
    d.slotManager s ≠ .running taskId := by
  have absent := List.find?_eq_none.mp missing s (List.mem_finRange s)
  exact fun running => absent (decide_eq_true running)

def cancel (answer : SchedulerAnswer) (task : UInt32) : Desk n :=
  if d.pendingRequests.pendingTask.map Sequence.taskId = some task then d.dropPendingTask
  else match slotRunning d task with
    | none => d
    | some s =>
      let d := d.pushRequest answer (makeStopRequest task s) none
      if answer.accepts then
        (setPhase d s (.stopping task none none)).pushToken task 0 flagAbort 0 0
      else d.deferCancel task

end Desk

end InferenceServer.Blaze
