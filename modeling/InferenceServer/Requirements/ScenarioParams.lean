import InferenceServer.Machine.Dict
import InferenceServer.Machine.FirstBest
import Mathlib.Algebra.Ring.Int.Defs
import Mathlib.Data.Prod.Lex

/-! The sweeps of a requirements document, with what their rows state. -/
namespace InferenceServer.Requirements
open Machine

/-- A value of a row; truth values and other values state no target. -/
inductive Cell (Number : Type)
  | null
  | number (value : Number)
  | texts (texts : List String)
  | stage (key name : String) (position : Nat)
  | other

abbrev Row (Number : Type) := Dict String (Cell Number)

inductive Priority
  | must
  | should
  deriving DecidableEq

structure ScalarTarget (Number : Type) where
  metric : String
  target : Number
  priority : Priority := .must

structure Slo (Number : Type) where
  ttftMs : Option Number := none
  tpotMs : Option Number := none
  e2elMs : Option Number := none

structure SweepPoint (Number : Type) where
  isl : Int
  osl : Int
  concurrency : Int
  reference : Row Number := Dict.empty
  slo : Option (Slo Number) := none

structure Scenario (Number : Type) where
  id : String
  scalarTargets : List (ScalarTarget Number) := []
  slo : Option (Slo Number) := none
  sweep : List (SweepPoint Number) := []
  softMetrics : List String := []

structure AgenticSweepPoint (Number : Type) where
  concurrency : Int
  reference : Row Number := Dict.empty
  slo : Option (Slo Number) := none

structure AgenticWorkload (Number : Type) where
  id : String
  slo : Option (Slo Number) := none
  sweep : List (AgenticSweepPoint Number) := []
  softMetrics : List String := []
  stage : Option String := none

structure Stage where
  key : String
  name : String
  position : Nat

structure RequirementsDoc (Number : Type) where
  scenarios : List (Scenario Number) := []
  agenticWorkloads : List (AgenticWorkload Number) := []
  stages : List Stage := []

variable {Number : Type}

/-- `row.get(key)` -/
def cell (row : Row Number) (key : String) : Cell Number := (row.lookup key).getD .null

def Cell.isNull : Cell Number → Bool
  | .null => true
  | _ => false

variable [LinearOrder Number] [Zero Number]

/-- Only a positive number is a target. -/
def statedTarget (row : Row Number) (key : String) : Option Number :=
  match cell row key with
  | .number value => if value ≤ 0 then none else some value
  | _ => none

/-- The stated input throughput, or what the row's other columns make of it. -/
def inputThroughputTps [Sub Number] [Mul Number] [IntCast Number] (row : Row Number)
    (isl : Option Int) : Option Number :=
  if ¬ (cell row "inputThroughputTps").isNull then statedTarget row "inputThroughputTps"
  else
    match isl with
    | some isl => (statedTarget row "reqThroughputRps").map fun rps => (isl : Number) * rps
    | none => do
      let total ← statedTarget row "totalThroughputTps"
      let output ← statedTarget row "decodeThroughputTps"
      if total ≤ output then none else some (total - output)

omit [LinearOrder Number] [Zero Number] in
/-- A set field wins, an unset one is inherited. -/
def Slo.mergedOver (slo : Slo Number) : Option (Slo Number) → Slo Number
  | none => slo
  | some default => ⟨slo.ttftMs.or default.ttftMs, slo.tpotMs.or default.tpotMs,
      slo.e2elMs.or default.e2elMs⟩

def effectiveSlo (row default : Option (Slo Number)) : Option (Slo Number) :=
  match row.elim default fun row => some (row.mergedOver default) with
  | none => none
  | some merged =>
    if merged.ttftMs.isNone ∧ merged.tpotMs.isNone ∧ merged.e2elMs.isNone then none
    else some merged

end InferenceServer.Requirements

/-! The benchmark points of a scenario. Each is gated by what its own row states, and each gate
of the scenario by the one point that does best at its metric. -/
namespace InferenceServer.Requirements
open Machine

/-- The attributes of a `PerformanceTarget` that a document can set. -/
inductive Attr
  | ttftMs
  | tpotMs
  | e2elMs
  | tput
  | tputTotal
  | tputInput
  | goodput
  deriving DecidableEq

def inputThroughputKey : String := "inputThroughputTps"

/-- `_REFERENCE_KEY_TO_ATTR` -/
def referenceKeys : List (String × Attr) :=
  [("ttftMeanMs", .ttftMs), ("tpotMs", .tpotMs), ("e2elMs", .e2elMs),
    ("decodeThroughputTps", .tput), ("totalThroughputTps", .tputTotal),
    (inputThroughputKey, .tputInput), ("goodputPct", .goodput)]

/-- `_SCALAR_METRIC_TO_ATTR` -/
def scalarMetricAttr : String → Option Attr
  | "system_throughput" => some .tputTotal
  | "request_goodput" => some .goodput
  | _ => none

structure Gate (Number : Type) where
  value : Number
  priority : Priority
  lowerIsBetter : Bool

structure BenchmarkTaskParams (Number : Type) where
  isl : Int
  osl : Int
  maxConcurrency : Int
  numPrompts : Int
  targets : Option (Dict Attr Number)
  priority : Option Priority
  targetPriorities : Option (Dict Attr Priority)
  goodput : Option (Slo Number)

variable {Number : Type}

section Gates

def sloGates (slo : Slo Number) : List (Attr × Gate Number) :=
  [(Attr.ttftMs, slo.ttftMs), (Attr.tpotMs, slo.tpotMs), (Attr.e2elMs, slo.e2elMs)].filterMap
    fun bar => bar.2.map fun value => (bar.1, ⟨value, .must, true⟩)

def scalarGates (targets : List (ScalarTarget Number)) : List (Attr × Gate Number) :=
  targets.filterMap fun st =>
    (scalarMetricAttr st.metric).map fun attr => (attr, ⟨st.target, st.priority, false⟩)

/-- The gates that a scenario states, in the order in which they are read. -/
def statedGates (scenario : Scenario Number) : List (Attr × Gate Number) :=
  scenario.slo.elim [] sloGates ++ scalarGates scenario.scalarTargets

/-- `gates[attr] = ...` for each. -/
def scenarioLevelGates (scenario : Scenario Number) : Dict Attr (Gate Number) :=
  Dict.ofList (statedGates scenario)

end Gates

section Attach

/-- Points compare by their concurrency, then by their lengths. -/
def load (point : SweepPoint Number) : Int ×ₗ Int ×ₗ Int :=
  toLex (point.concurrency, toLex (point.isl, point.osl))

/-- The first of the least loaded points. -/
def fallback (scenario : Scenario Number) : Nat :=
  ((firstBest (· < ·) (fun index => scenario.sweep[index]?.map load)
    (List.range scenario.sweep.length)).map Prod.fst).getD 0

/-- The key whose references decide over a gate. -/
def refKey (attr : Attr) : Option String :=
  (referenceKeys.find? (·.2 = attr)).map Prod.fst

variable [LinearOrder Number] [Zero Number]

def Before (lowerIsBetter : Bool) (ref best : Number) : Prop :=
  if lowerIsBetter then ref < best else best < ref

instance (lowerIsBetter : Bool) : DecidableRel (@Before Number _ lowerIsBetter) :=
  fun ref best => inferInstanceAs (Decidable (if lowerIsBetter then ref < best else best < ref))

/-- What the point at an index states under a key. -/
def refAt (scenario : Scenario Number) (key : String) (index : Nat) : Option Number :=
  scenario.sweep[index]?.bind fun point => statedTarget point.reference key

def bestPoint (scenario : Scenario Number) (attr : Attr) (lowerIsBetter : Bool) :
    Option (Nat × Number) :=
  (refKey attr).bind fun key =>
    firstBest (Before lowerIsBetter) (refAt scenario key) (List.range scenario.sweep.length)

def attachIndex (scenario : Scenario Number) (attr : Attr) (gate : Gate Number) : Nat :=
  ((bestPoint scenario attr gate.lowerIsBetter).map Prod.fst).getD (fallback scenario)

abbrev Attach (Number : Type) := Dict Nat (Dict Attr (Number × Priority))

/-- `attach.setdefault(index, {})[attr] = (value, priority)` -/
def attachGate (scenario : Scenario Number) (attach : Attach Number)
    (entry : Attr × Gate Number) : Attach Number :=
  let index := attachIndex scenario entry.1 entry.2
  attach.set index (((attach.lookup index).getD Dict.empty).set entry.1
    (entry.2.value, entry.2.priority))

/-- To look for the least loaded point fails where there are no points; no caller has none. -/
def capabilityAttachPoints (scenario : Scenario Number) (gates : Dict Attr (Gate Number)) :
    Attach Number :=
  gates.entries.foldl (attachGate scenario) Dict.empty

end Attach

section Params

def numPromptsBase (inputLen outputLen maxConcurrency : Int) : Int :=
  if outputLen > 1024 ∨ inputLen > 16384 then 1 * maxConcurrency
  else if inputLen > 4096 then 2 * maxConcurrency
  else if (outputLen > 128 ∧ outputLen ≤ 1024) ∨ (inputLen > 128 ∧ inputLen ≤ 4096) then
    4 * maxConcurrency
  else 8 * maxConcurrency

def getNumPrompts (inputLen outputLen maxConcurrency minNumPrompts : Int) : Int :=
  max (numPromptsBase inputLen outputLen maxConcurrency) minNumPrompts

def aggregatePriority (priorities : List Priority) : Option Priority :=
  if priorities.isEmpty then none
  else some (if .must ∈ priorities then .must else .should)

def goodputSlo (slo : Option (Slo Number)) : Option (Slo Number) := slo

def pointGoodputSlo (point : SweepPoint Number) (default : Option (Slo Number)) :
    Option (Slo Number) :=
  if point.slo.isNone then none else goodputSlo (effectiveSlo point.slo default)

/-- `value or None` of a dictionary. -/
def orNone {Key Value : Type} (dict : Dict Key Value) : Option (Dict Key Value) :=
  if dict.entries.isEmpty then none else some dict

variable [LinearOrder Number] [Zero Number] [Sub Number] [Mul Number] [IntCast Number]
  (scenario : Scenario Number)

def referenceValue (point : SweepPoint Number) (key : String) : Option Number :=
  if key = inputThroughputKey then inputThroughputTps point.reference (some point.isl)
  else statedTarget point.reference key

/-- What a point states for itself; a soft column never blocks. -/
def ownTargets (point : SweepPoint Number) : List (Attr × Number × Priority) :=
  referenceKeys.filterMap fun entry =>
    (referenceValue point entry.1).map fun value =>
      (entry.2, value, if entry.1 ∈ scenario.softMetrics then .should else .must)

/-- `tier_kwargs` and `target_priorities`, by what is taken of each target. -/
def pointTargets {Kept : Type} (kept : Number × Priority → Kept) (scenario : Scenario Number)
    (attached : Dict Attr (Number × Priority)) (point : SweepPoint Number) : Dict Attr Kept :=
  (Dict.ofList ((ownTargets scenario point).map fun target => (target.1, kept target.2))).update
    (attached.entries.map fun target => (target.1, kept target.2))

def pointParams (minNumPrompts : Int) (attach : Attach Number) (index : Nat)
    (point : SweepPoint Number) : BenchmarkTaskParams Number :=
  let attached := (attach.lookup index).getD Dict.empty
  let tierKwargs := pointTargets Prod.fst scenario attached point
  let targetPriorities := pointTargets Prod.snd scenario attached point
  { isl := point.isl
    osl := point.osl
    maxConcurrency := point.concurrency
    numPrompts := getNumPrompts point.isl point.osl point.concurrency
      (if point.concurrency > 1 then minNumPrompts else 0)
    targets := orNone tierKwargs
    priority := aggregatePriority targetPriorities.values
    targetPriorities := orNone targetPriorities
    goodput := pointGoodputSlo point scenario.slo }

def superClusterMinNumPromptsBatchMultiple : Int := 2

/-- On a super cluster there is a least number of prompts if the model has a concurrency. -/
def minNumPrompts (superCluster : Bool) (modelMaxConcurrency : Option Int) : Int :=
  if superCluster then superClusterMinNumPromptsBatchMultiple * modelMaxConcurrency.getD 0 else 0

def scenarioParams (superCluster : Bool) (modelMaxConcurrency : Option Int) :
    List (BenchmarkTaskParams Number) :=
  if scenario.sweep.isEmpty then []
  else
    let attach := capabilityAttachPoints scenario (scenarioLevelGates scenario)
    scenario.sweep.mapIdx
      (pointParams scenario (minNumPrompts superCluster modelMaxConcurrency) attach)

end Params

end InferenceServer.Requirements
