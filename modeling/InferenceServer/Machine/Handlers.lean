import InferenceServer.Machine.Run
import Mathlib.Algebra.Order.BigOperators.Group.List
import Mathlib.Algebra.Order.Ring.Nat

/-! Handlers that run at the same time on a shared state. A handler is called, and takes its
further steps one by one; between two of them it waits as a frame, while any other handler
may go on. -/
namespace InferenceServer.Machine

/-- What a call does first, and what a waiting handler does next. Both leave a frame unless
the handler is over. -/
structure Handlers (Shared Call Frame Outcome : Type*) where
  call : Shared → Call → Shared × Option Frame
  resume : Shared → Frame → Outcome → Shared × Option Frame

/-- A shared state with the handlers that wait. -/
structure Running (Shared Frame : Type*) where
  shared : Shared
  frames : List Frame := []

inductive Turn (Call Frame Outcome : Type*)
  | call (call : Call)
  | resume (frame : Frame) (outcome : Outcome)

variable {Shared Call Frame Outcome Total : Type*}

section Load

variable [AddCommMonoid Total] (share : Frame → Total)
variable {frames : List Frame} {frame : Frame}

/-- What the waiting handlers hold together. -/
def load (frames : List Frame) : Total :=
  (frames.map share).sum

@[simp] theorem load_nil : load share [] = 0 := rfl

@[simp] theorem load_cons (frame : Frame) (frames : List Frame) :
    load share (frame :: frames) = share frame + load share frames := by
  simp [load]

@[simp] theorem load_append (frames more : List Frame) :
    load share (frames ++ more) = load share frames + load share more := by
  simp [load]

@[simp] theorem load_none : load share (none : Option Frame).toList = 0 := rfl

@[simp] theorem load_some (frame : Frame) : load share (some frame).toList = share frame := by
  simp [load]

theorem load_erase [DecidableEq Frame] (waits : frame ∈ frames) :
    load share frames = share frame + load share (frames.erase frame) :=
  (List.sum_map_erase share waits).symm

theorem load_eq_zero (zero : ∀ frame ∈ frames, share frame = 0) : load share frames = 0 := by
  refine List.sum_eq_zero fun count member => ?_
  obtain ⟨frame, present, rfl⟩ := List.mem_map.mp member
  exact zero frame present

/-- A waiting handler holds no more than all of them. -/
theorem le_load (share : Frame → Nat) (waits : frame ∈ frames) : share frame ≤ load share frames :=
  List.single_le_sum (fun _ _ => Nat.zero_le _) _ (List.mem_map_of_mem waits)

end Load

variable [DecidableEq Frame]

/-- The state after a turn, unless the handler that is to go on does not wait. -/
def Handlers.step (handlers : Handlers Shared Call Frame Outcome)
    (running : Running Shared Frame) : Turn Call Frame Outcome → Option (Running Shared Frame)
  | .call call =>
    let (shared, frame) := handlers.call running.shared call
    some { shared, frames := frame.toList ++ running.frames }
  | .resume frame outcome =>
    if frame ∈ running.frames then
      let (shared, rest) := handlers.resume running.shared frame outcome
      some { shared, frames := rest.toList ++ running.frames.erase frame }
    else none

/-- What each call and each further step keeps holds in every reached state. -/
theorem Handlers.invariant {handlers : Handlers Shared Call Frame Outcome}
    {allowed : Running Shared Frame → Turn Call Frame Outcome → Prop}
    {start finish : Running Shared Frame} (holds : Running Shared Frame → Prop)
    (initial : holds start)
    (call : ∀ running call, holds running → allowed running (.call call) →
      holds { shared := (handlers.call running.shared call).1
              frames := (handlers.call running.shared call).2.toList ++ running.frames })
    (resume : ∀ running frame outcome, holds running → allowed running (.resume frame outcome) →
      frame ∈ running.frames →
      holds { shared := (handlers.resume running.shared frame outcome).1
              frames := (handlers.resume running.shared frame outcome).2.toList ++
                running.frames.erase frame })
    (reached : Reaches handlers.step allowed start finish) : holds finish := by
  refine reached.invariant holds initial fun before turn after held permitted stepped => ?_
  cases turn with
  | call first =>
    simp only [step, Option.some.injEq] at stepped
    exact stepped ▸ call before first held permitted
  | resume frame outcome =>
    simp only [step] at stepped
    split at stepped
    · rename_i waits
      simp only [Option.some.injEq] at stepped
      exact stepped ▸ resume before frame outcome held permitted waits
    · cases stepped

end InferenceServer.Machine
