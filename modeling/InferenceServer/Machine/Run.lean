import Mathlib.Data.List.Infix

/-! Runs of a machine given by a partial step function on labels. A label the
machine cannot take in a state leaves `none`, so assumptions about the
environment are guards of the step. Results about runs are reduced to one
step, and a run may be restricted to the steps that meet a condition. -/
namespace InferenceServer.Machine

variable {State Label : Type*}
variable {step : State → Label → Option State} {allowed : State → Label → Prop} {start : State}
  {labels : List Label}

/-- States reached from `start` by steps that all meet `allowed`, a condition
on the state before the step and its label. -/
inductive Reaches (step : State → Label → Option State) (allowed : State → Label → Prop)
    (start : State) : State → Prop
  | refl : Reaches step allowed start start
  | tail {before after : State} {label : Label} : Reaches step allowed start before →
      allowed before label → step before label = some after → Reaches step allowed start after

namespace Reaches

variable {step : State → Label → Option State} {allowed : State → Label → Prop}
variable {start middle finish : State}

/-- What holds at the start and is kept by every allowed step holds in every
reached state. -/
theorem invariant (holds : State → Prop) (initial : holds start)
    (kept : ∀ before label after, holds before → allowed before label →
      step before label = some after → holds after)
    (reached : Reaches step allowed start finish) : holds finish := by
  induction reached with
  | refl => exact initial
  | tail _ permitted stepped ih => exact kept _ _ _ ih permitted stepped

theorem trans (first : Reaches step allowed start middle)
    (second : Reaches step allowed middle finish) : Reaches step allowed start finish := by
  induction second with
  | refl => exact first
  | tail _ permitted stepped ih => exact .tail ih permitted stepped

/-- A run that meets a condition meets every weaker one. -/
theorem mono {weaker : State → Label → Prop}
    (weakens : ∀ before label, allowed before label → weaker before label)
    (reached : Reaches step allowed start finish) : Reaches step weaker start finish := by
  induction reached with
  | refl => exact .refl
  | tail _ permitted stepped ih => exact .tail ih (weakens _ _ permitted) stepped

/-- A relation between an earlier and a later state follows from its one-step
form when the states in between keep an invariant. -/
theorem relates (holds : State → Prop) (related : State → State → Prop)
    (initial : holds start) (reflexive : related start start)
    (kept : ∀ before label after, holds before → allowed before label →
      step before label = some after → holds after)
    (extends_ : ∀ before label after, holds before → related start before →
      allowed before label → step before label = some after → related start after)
    (reached : Reaches step allowed start finish) : related start finish := by
  have keptBoth : ∀ before label after, holds before ∧ related start before →
      allowed before label → step before label = some after →
      holds after ∧ related start after := by
    intro before label after ⟨held, linked⟩ permitted stepped
    exact ⟨kept _ _ _ held permitted stepped, extends_ _ _ _ held linked permitted stepped⟩
  exact (reached.invariant (fun s => holds s ∧ related start s) ⟨initial, reflexive⟩ keptBoth).2

end Reaches

/-- Executes labels in order as `run` does, and stops with `none` at a step that
does not meet the condition. -/
def runWithin (step : State → Label → Option State) (allowed : State → Label → Prop)
    [∀ state label, Decidable (allowed state label)] (start : State) : List Label → Option State
  | [] => some start
  | label :: rest =>
    if allowed start label then
      match step start label with
      | none => none
      | some next => runWithin step allowed next rest
    else none

/-- An executed list of labels is a run meeting the condition it was executed
under. -/
theorem reaches_of_runWithin [∀ state label, Decidable (allowed state label)] {finish : State}
    (executed : runWithin step allowed start labels = some finish) :
    Reaches step allowed start finish := by
  suffices extended : ∀ middle, Reaches step allowed start middle →
      runWithin step allowed middle labels = some finish → Reaches step allowed start finish from
    extended start .refl executed
  clear executed
  induction labels with
  | nil =>
    intro middle reached executed
    simp only [runWithin, Option.some.injEq] at executed
    exact executed ▸ reached
  | cons label rest ih =>
    intro middle reached executed
    simp only [runWithin] at executed
    split at executed
    · rename_i permitted
      split at executed
      · contradiction
      · rename_i next stepped
        exact ih next (.tail reached permitted stepped) executed
    · contradiction

/-- The state an executed list of labels ends in is reached. -/
theorem reaches_get [∀ state label, Decidable (allowed state label)]
    (executed : (runWithin step allowed start labels).isSome = true) :
    Reaches step allowed start ((runWithin step allowed start labels).get executed) :=
  reaches_of_runWithin (Option.some_get executed).symm

end InferenceServer.Machine

/-! Runs of a machine whose every step can be taken: conditions on each step of a run, and
properties of each state on the way. -/
namespace InferenceServer.Machine

variable {State Label : Type*}

/-- Each step of a run meets a condition on the state before it and its label. -/
def EachStep (step : State → Label → State) (meets : State → Label → Prop) :
    State → List Label → Prop
  | _, [] => True
  | start, label :: rest => meets start label ∧ EachStep step meets (step start label) rest

def EachStep.decide (step : State → Label → State) (meets : State → Label → Prop)
    [∀ state label, Decidable (meets state label)] :
    ∀ start labels, Decidable (EachStep step meets start labels)
  | _, [] => isTrue trivial
  | start, label :: rest =>
    have : Decidable (EachStep step meets (step start label) rest) :=
      EachStep.decide step meets (step start label) rest
    inferInstanceAs (Decidable (meets start label ∧ EachStep step meets (step start label) rest))

instance (step : State → Label → State) (meets : State → Label → Prop)
    [∀ state label, Decidable (meets state label)] (start : State) (labels : List Label) :
    Decidable (EachStep step meets start labels) :=
  EachStep.decide step meets start labels

/-- Each state of a run, the first and the last included, has a property. -/
def EachState (step : State → Label → State) (holds : State → Prop) (start : State)
    (labels : List Label) : Prop :=
  ∀ before, before <+: labels → holds (before.foldl step start)

variable {step : State → Label → State} {start : State} {labels : List Label}

theorem eachState_nil {holds : State → Prop} : EachState step holds start [] ↔ holds start := by
  simp [EachState]

theorem eachState_cons {holds : State → Prop} {label : Label} :
    EachState step holds start (label :: labels) ↔
      holds start ∧ EachState step holds (step start label) labels := by
  constructor
  · intro all
    refine ⟨all [] (List.nil_prefix), fun before earlier => ?_⟩
    exact all (label :: before) (List.cons_prefix_cons.mpr ⟨rfl, earlier⟩)
  · rintro ⟨first, rest⟩ before earlier
    cases before with
    | nil => exact first
    | cons other before =>
      obtain ⟨rfl, shorter⟩ := List.cons_prefix_cons.mp earlier
      exact rest before shorter

/-- A property holds in each state of a run exactly when each step is good, if good steps
keep an invariant that implies it, and a step that leaves it intact is good. -/
theorem eachState_iff_eachStep (invariant : State → Prop) {holds : State → Prop}
    {admits good : State → Label → Prop} (implies : ∀ state, invariant state → holds state)
    (kept : ∀ state label, invariant state → admits state label → good state label →
      invariant (step state label))
    (needed : ∀ state label, invariant state → admits state label → holds (step state label) →
      good state label) (initial : invariant start) (admitted : EachStep step admits start labels) :
    EachState step holds start labels ↔ EachStep step good start labels := by
  induction labels generalizing start with
  | nil => exact ⟨fun _ => trivial, fun _ => eachState_nil.mpr (implies _ initial)⟩
  | cons label rest ih =>
    obtain ⟨admits, admitted⟩ := admitted
    rw [eachState_cons]
    constructor
    · rintro ⟨-, later⟩
      have isGood := needed _ _ initial admits (later [] List.nil_prefix)
      exact ⟨isGood, (ih (kept _ _ initial admits isGood) admitted).mp later⟩
    · rintro ⟨isGood, later⟩
      exact ⟨implies _ initial, (ih (kept _ _ initial admits isGood) admitted).mpr later⟩

end InferenceServer.Machine
