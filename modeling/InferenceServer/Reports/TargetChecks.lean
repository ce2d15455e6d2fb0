import InferenceServer.Reports.AcceptanceCriteria

/-! The checks of one benchmark point: what was measured against what its tiers ask for, and the
block that carries the result to the acceptance verdict. -/
namespace InferenceServer.Reports
open Machine

inductive ReportCheckTypes
  | na
  | pass
  | fail
  deriving DecidableEq

namespace ReportCheckTypes

def value : ReportCheckTypes → Int
  | .na => 1
  | .pass => 2
  | .fail => 3

def fromResult (passed : Bool) : ReportCheckTypes := if passed then .pass else .fail

end ReportCheckTypes

inductive Metric
  | ttft
  | tputUser
  | tput
  | tpot
  | e2el
  | tputTotal
  | tputInput
  | goodput
  deriving DecidableEq

/-- The metrics in the order of `_METRIC_SPECS`. -/
def metricSpecs : List Metric :=
  [.ttft, .tputUser, .tput, .tpot, .e2el, .tputTotal, .tputInput, .goodput]

namespace Metric

/-- The name of the metric in the checks. -/
def field : Metric → String
  | .ttft => "ttft"
  | .tputUser => "tput_user"
  | .tput => "tput"
  | .tpot => "tpot"
  | .e2el => "e2el"
  | .tputTotal => "tput_total"
  | .tputInput => "tput_input"
  | .goodput => "goodput"

/-- The name of the metric in a `PerformanceTarget`. -/
def attr : Metric → String
  | .ttft => "ttft_ms"
  | .tputUser => "tput_user"
  | .tput => "tput"
  | .tpot => "tpot_ms"
  | .e2el => "e2el_ms"
  | .tputTotal => "tput_total"
  | .tputInput => "tput_input"
  | .goodput => "goodput"

def lowerIsBetter : Metric → Bool
  | .ttft => true
  | .tpot => true
  | .e2el => true
  | _ => false

def checkName (metric : Metric) : String := metric.field ++ checkSuffix

def ratioName (metric : Metric) : String := metric.field ++ "_ratio"

end Metric

structure PerformanceTarget (Number : Type) where
  ttftMs : Option Number := none
  tputUser : Option Number := none
  tput : Option Number := none
  tpotMs : Option Number := none
  e2elMs : Option Number := none
  tputTotal : Option Number := none
  tputInput : Option Number := none
  goodput : Option Number := none
  tolerance : Number

/-- `getattr(tier_target, target_attr)` -/
def PerformanceTarget.of {Number : Type} (target : PerformanceTarget Number) :
    Metric → Option Number
  | .ttft => target.ttftMs
  | .tputUser => target.tputUser
  | .tput => target.tput
  | .tpot => target.tpotMs
  | .e2el => target.e2elMs
  | .tputTotal => target.tputTotal
  | .tputInput => target.tputInput
  | .goodput => target.goodput

/-- A point of the sweep. -/
structure LLMRunConfig (Number : Type) where
  isl : Int
  osl : Int
  maxConcurrency : Int
  targets : Dict String (PerformanceTarget Number)
  requireCompleteMetrics : Bool := false
  priority : Option String := none
  targetPriorities : Option (Dict String String) := none

variable {Number : Type} [Field Number]

def asFloat : PyValue (PyFloat Number) → Option (PyFloat Number)
  | .int value => some (.finite value)
  | .float value => some value
  | _ => none

/-- Some tools report the first field, others the second. -/
def firstOf (record : PyValue (PyFloat Number)) (first second : String) :
    Option (PyFloat Number) :=
  (asFloat (record.get first)).or (asFloat (record.get second))

section Checks

variable [LinearOrder Number] (complete : Bool) (record : PyValue (PyFloat Number))

/-- The throughput of a user, derived from the time for a token where a tool reports none. -/
def measuredTputUser : Option (PyFloat Number) :=
  match asFloat (record.get "tput_user") with
  | some tputUser => some tputUser
  | none =>
    match asFloat (record.get "mean_tpot_ms") with
    | some tpot => if tpot.sign = some .eq then none else some (tpot.under 1000)
    | none => none

def measured : Metric → Option (PyFloat Number)
  | .ttft => asFloat (record.get "mean_ttft_ms")
  | .tputUser => measuredTputUser record
  | .tput => firstOf record "tps_output_throughput" "tps_decode_throughput"
  | .tpot => asFloat (record.get "mean_tpot_ms")
  | .e2el => asFloat (record.get "mean_e2el_ms")
  | .tputTotal => asFloat (record.get "tps_total_throughput")
  | .tputInput => asFloat (record.get "tps_input_throughput")
  | .goodput => asFloat (record.get "goodput_pct")

/-- An exact match meets its target. -/
def check (ratio : PyFloat Number) (tolerance : Number) (lowerIsBetter : Bool) :
    ReportCheckTypes :=
  .fromResult (if lowerIsBetter then ratio.AtMost (1 + tolerance)
    else ratio.AtLeast (1 - tolerance))

/-- A value under the checks of a tier. -/
inductive TierValue (Number : Type)
  | number (value : PyFloat Number)
  | check (result : ReportCheckTypes)
  deriving DecidableEq

/-- Only a positive number is a target. -/
def declaredTarget (target : PerformanceTarget Number) (metric : Metric) : Option Number :=
  (target.of metric).filter (0 < ·)

/-- `actual is None or not math.isfinite(actual) or actual <= 0` -/
def isIncomplete (actual : Option (PyFloat Number)) : Bool :=
  match actual with
  | none => true
  | some actual => !actual.isFinite || actual.AtMost 0

/-- The ratio and the check of a metric that has a target. -/
def grade (tolerance targetValue : Number) (actual : Option (PyFloat Number)) (lowerIsBetter : Bool)
    : PyFloat Number × ReportCheckTypes :=
  if complete && isIncomplete actual then (.finite 0, .fail)
  else
    match actual with
    | none => (.finite 0, .na)
    | some actual =>
      (actual.dividedBy targetValue, check (actual.dividedBy targetValue) tolerance lowerIsBetter)

def buildMetric (target : PerformanceTarget Number) (record : PyValue (PyFloat Number))
    (metric : Metric) : List (String × TierValue Number) :=
  match declaredTarget target metric with
  | none => [(metric.checkName, .check .na)]
  | some targetValue =>
    let graded := grade complete target.tolerance targetValue (measured record metric)
      metric.lowerIsBetter
    [(metric.field, .number (.finite targetValue)), (metric.ratioName, .number graded.1),
      (metric.checkName, .check graded.2)]

def buildTier (record : PyValue (PyFloat Number)) (target : PerformanceTarget Number) :
    List (String × TierValue Number) :=
  metricSpecs.flatMap (buildMetric complete target record)

abbrev Tiers (Number : Type) := List (String × List (String × TierValue Number))

/-- PASS, FAIL or NA of the `target` tier. -/
def verdict (targetChecks : Tiers Number) : ReportCheckTypes :=
  let tier := (targetChecks.lookup "target").getD []
  let real := tier.filter fun entry =>
    entry.1.endsWith checkSuffix && entry.2 ≠ .check .na
  if real.isEmpty then .na
  else if real.any fun entry => entry.2 = .check .fail then .fail
  else .pass

def buildTargetChecks (targets : Dict String (PerformanceTarget Number))
    (record : PyValue (PyFloat Number)) (complete : Bool) : Tiers Number × ReportCheckTypes :=
  let targetChecks := targetLevels.filterMap fun tier =>
    (targets.lookup tier).map fun target => (tier, buildTier complete record target)
  (targetChecks, verdict targetChecks)

end Checks

section Block

def gradedTitle (title : Option String) (config : LLMRunConfig Number) : String :=
  let point := "ISL " ++ toString config.isl ++ " / OSL " ++ toString config.osl ++
    ", concurrency " ++ toString config.maxConcurrency
  match title with
  | some title =>
    if title = "" then "Benchmark Targets — " ++ point else title ++ " Targets — " ++ point
  | none => "Benchmark Targets — " ++ point

def TierValue.toValue : TierValue Number → PyValue (PyFloat Number)
  | .number value => .float value
  | .check result => .int result.value

def tierValue (tier : List (String × TierValue Number)) : PyValue (PyFloat Number) :=
  .mapping (tier.map fun entry => (entry.1, entry.2.toValue))

def tiersValue (tiers : Tiers Number) : PyValue (PyFloat Number) :=
  .mapping (tiers.map fun tier => (tier.1, tierValue tier.2))

/-- The name in the checks for the name in a target. -/
def fieldOf (attr : String) : String :=
  ((metricSpecs.find? (·.attr = attr)).map Metric.field).getD attr

def translatedPriorities (priorities : Dict String String) :
    Dict String (PyValue (PyFloat Number)) :=
  .ofList (priorities.entries.map fun entry => (fieldOf entry.1, .str entry.2))

abbrev Fields (Number : Type) := Dict String (PyValue (PyFloat Number))

def withPriority (config : LLMRunConfig Number) (data : Fields Number) : Fields Number :=
  match config.priority with
  | some priority => data.set "priority" (.str priority)
  | none => data

def withTargetPriorities (config : LLMRunConfig Number) (data : Fields Number) : Fields Number :=
  match config.targetPriorities with
  | some priorities =>
    if priorities.entries.isEmpty then data
    else data.set "target_priorities" (.mapping (translatedPriorities priorities).entries)
  | none => data

variable [LinearOrder Number]

/-- A benchmark block with the checks of its point; other blocks pass through untouched. -/
def applyTargetChecks (block : Block (PyFloat Number)) (config : LLMRunConfig Number) :
    Block (PyFloat Number) :=
  match block.data with
  | .mapping entries =>
    if block.kind ≠ kindBenchmarks then block
    else
      let data := withTargetPriorities config (withPriority config (Dict.ofList entries))
      if config.targets.entries.isEmpty then
        let data := (data.set "status" (.str "na")).set "target_check"
          (.int ReportCheckTypes.na.value)
        { block with data := .mapping data.entries }
      else
        let (targetChecks, verdict) :=
          buildTargetChecks config.targets block.data config.requireCompleteMetrics
        let data := if verdict = .na then data.set "status" (.str "na") else data
        let data := (data.set "target_check" (.int verdict.value)).set "target_checks"
          (tiersValue targetChecks)
        { block with
          data := .mapping data.entries
          title := some (gradedTitle block.title config) }
  | _ => block

end Block

end InferenceServer.Reports
