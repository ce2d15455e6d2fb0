import InferenceServer.Blaze.Types

/-! The slot table of a runner: slot contexts, the map from running tasks to
slots and the count of running slots. -/
namespace InferenceServer.Blaze

structure SlotManager (n : Nat) where
  slots : Fin n → SlotContext n
  taskToSlot : UInt32 → Option (Fin n)
  runningCount : Nat

namespace SlotManager

/-- A new table: every slot is FREE and no task is bound. -/
def initial (n : Nat) : SlotManager n :=
  { slots := fun _ => {}, taskToSlot := fun _ => none, runningCount := 0 }

variable (m : SlotManager n)

def getSlotContext (slotId : Fin n) : SlotContext n := m.slots slotId

/-- Writes through the reference `getSlotContext` returns. -/
def modify (slotId : Fin n) (change : SlotContext n → SlotContext n) : SlotManager n :=
  { m with slots := Function.update m.slots slotId (change (m.slots slotId)) }

/-- `taskToSlot.erase(*slot.taskId)` when the task id is set. -/
def eraseTask (taskId : Option UInt32) : SlotManager n :=
  match taskId with
  | none => m
  | some task => { m with taskToSlot := Function.update m.taskToSlot task none }

/-- The running count is adjusted before the transition is checked. -/
def setSlotState (slotId : Fin n) (state : SlotState) :
    Except Fault (SlotManager n) := do
  let runningCount := if state = .running then m.runningCount + 1 else m.runningCount
  let runningCount :=
    if (m.slots slotId).state = .running then runningCount - 1 else runningCount
  let slot ← (m.slots slotId).setState state
  return { m with slots := Function.update m.slots slotId slot, runningCount }

/-- Ends a run and keeps the slot: the deferred requests and the position stay. -/
def setSlotAsIdle (slotId : Fin n) : Except Fault (SlotManager n) :=
  let m := m.eraseTask (m.slots slotId).taskId
  let m := m.modify slotId fun slot => { slot with
    taskId := none, ignoreEos := false, specAcceptsAtStart := 0, specRejectsAtStart := 0
    tokensGenerated := 0, pendingAckRequestId := none }
  m.setSlotState slotId .idle

def clearSlotContext (slotId : Fin n) : Except Fault (SlotManager n) :=
  let m := m.eraseTask (m.slots slotId).taskId
  let m := m.modify slotId fun slot => { slot with
    taskId := none, ignoreEos := false, specAcceptsAtStart := 0, specRejectsAtStart := 0
    tokensGenerated := 0, currentPosition := 0, pendingAckRequestId := none
    deferredEvict := none, deferredContinue := none }
  m.setSlotState slotId .free

def getSlotByTaskId (taskId : UInt32) : Option (Fin n) :=
  m.taskToSlot taskId

def isBound (taskId : UInt32) : Bool := (m.taskToSlot taskId).isSome

def bindTaskToSlot (taskId : UInt32) (slotId : Fin n) : SlotManager n :=
  { m with taskToSlot := Function.update m.taskToSlot taskId (some slotId) }

def unbindTaskFromSlot (taskId : UInt32) : SlotManager n :=
  { m with taskToSlot := Function.update m.taskToSlot taskId none }

/-- The running count after a slot goes from one state to another. -/
def countAfter (before after : SlotState) : Nat :=
  let runningCount := if after = .running then m.runningCount + 1 else m.runningCount
  if before = .running then runningCount - 1 else runningCount

theorem setSlotState_ok (slotId : Fin n) (state : SlotState)
    (permitted : state = (m.slots slotId).state ∨ (m.slots slotId).state.legal state = true) :
    m.setSlotState slotId state = .ok { m with
      slots := Function.update m.slots slotId { m.slots slotId with state }
      runningCount := m.countAfter (m.slots slotId).state state } := by
  simp only [setSlotState, SlotContext.setState_ok permitted, countAfter]
  rfl

@[simp] theorem modify_slots (m : SlotManager n) (slotId : Fin n) change :
    (m.modify slotId change).slots = Function.update m.slots slotId (change (m.slots slotId)) := rfl

@[simp] theorem modify_taskToSlot (m : SlotManager n) (slotId : Fin n) change :
    (m.modify slotId change).taskToSlot = m.taskToSlot := rfl

@[simp] theorem modify_runningCount (m : SlotManager n) (slotId : Fin n) change :
    (m.modify slotId change).runningCount = m.runningCount := rfl

@[simp] theorem eraseTask_slots (taskId : Option UInt32) :
    (m.eraseTask taskId).slots = m.slots := by
  cases taskId <;> rfl

@[simp] theorem eraseTask_runningCount (taskId : Option UInt32) :
    (m.eraseTask taskId).runningCount = m.runningCount := by
  cases taskId <;> rfl

@[simp] theorem modify_modify (m : SlotManager n) (slotId : Fin n) first second :
    (m.modify slotId first).modify slotId second = m.modify slotId (second ∘ first) := by
  simp [modify]

@[simp] theorem modify_id (slotId : Fin n) : m.modify slotId id = m := by
  simp [modify]

theorem modify_congr {m : SlotManager n} (same : first (m.slots slotId) = second (m.slots slotId)) :
    m.modify slotId first = m.modify slotId second := by
  simp only [modify, same]

/-- What `setSlotAsIdle` leaves of a slot context. -/
def idleContext (slot : SlotContext n) : SlotContext n :=
  { state := .idle, deferredEvict := slot.deferredEvict
    deferredContinue := slot.deferredContinue, currentPosition := slot.currentPosition }

theorem setSlotAsIdle_ok {m : SlotManager n} (permitted : SlotState.idle = (m.slots slotId).state ∨
      (m.slots slotId).state.legal .idle = true) : m.setSlotAsIdle slotId = .ok {
      slots := Function.update m.slots slotId (idleContext (m.slots slotId))
      taskToSlot := (m.eraseTask (m.slots slotId).taskId).taskToSlot
      runningCount := m.countAfter (m.slots slotId).state .idle } := by
  unfold setSlotAsIdle
  rw [setSlotState_ok _ _ _ (by simpa using permitted)]
  simp [idleContext, countAfter]

theorem clearSlotContext_ok {m : SlotManager n}
    (permitted : SlotState.free = (m.slots slotId).state ∨
      (m.slots slotId).state.legal .free = true) : m.clearSlotContext slotId = .ok {
      slots := Function.update m.slots slotId {}
      taskToSlot := (m.eraseTask (m.slots slotId).taskId).taskToSlot
      runningCount := m.countAfter (m.slots slotId).state .free } := by
  unfold clearSlotContext
  rw [setSlotState_ok _ _ _ (by simpa using permitted)]
  simp [countAfter]

end SlotManager

end InferenceServer.Blaze
