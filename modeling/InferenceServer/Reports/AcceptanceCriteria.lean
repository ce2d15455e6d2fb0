import InferenceServer.Machine.Dict
import InferenceServer.Machine.PythonValue
import Mathlib.Data.List.Infix
import Mathlib.Data.List.Sort

/-! The acceptance verdict of a report: every category grades its own blocks, files
what blocks and what is waived under keys made of block titles, and the verdict
accepts when no category kept a blocker. -/
namespace InferenceServer.Reports
open Machine

variable {Double : Type} (modelStatus : Option String)

/-- `{"key", "name", "position"}` under the targets of a block. -/
structure Stage (Double : Type) where
  key : PyValue Double
  name : Option String := none
  position : Option Int := none

/-- One section of a report. -/
structure Block (Double : Type) where
  kind : String
  data : PyValue Double
  title : Option String := none
  taskType : Option String := none
  stage : Option (Stage Double) := none

structure ReportSchema (Double : Type) where
  sections : List (Block Double)

structure KnownIssue where
  workflowType : String
  reason : String := ""
  taskName : Option String := none

inductive TestStatus
  | pass
  | fail
  | error
  | skip
  | na
  | partialRun
  deriving DecidableEq

namespace TestStatus

def value : TestStatus → String
  | .pass => "pass"
  | .fail => "fail"
  | .error => "error"
  | .skip => "skip"
  | .na => "na"
  | .partialRun => "partial"

def isBlocking : TestStatus → Bool
  | .fail => true
  | .error => true
  | _ => false

def ofLabel : String → Option TestStatus
  | "pass" => some .pass
  | "fail" => some .fail
  | "error" => some .error
  | "skip" => some .skip
  | "na" => some .na
  | "partial" => some .partialRun
  | _ => none

def fromValue [Python Double] : PyValue Double → Option TestStatus
  | .str label => ofLabel (Python.lower Double (Python.strip Double label))
  | _ => none

/-- The status of a block from before blocks had one. -/
def fromLegacy (success : PyValue Double) (skipped : Bool) : TestStatus :=
  if skipped then .skip else if success.isTrue then .pass else .fail

end TestStatus

inductive ModelStatusTypes
  | experimental
  | functional
  | complete
  | topPerf

namespace ModelStatusTypes

def requiredTargetTiers : ModelStatusTypes → List String
  | .experimental => []
  | .functional => ["functional"]
  | .complete => ["functional", "complete"]
  | .topPerf => ["functional", "complete", "target"]

def evalsEnforced (status : ModelStatusTypes) : Bool := !status.requiredTargetTiers.isEmpty

def resolve : Option String → Option ModelStatusTypes
  | some "EXPERIMENTAL" => some .experimental
  | some "FUNCTIONAL" => some .functional
  | some "COMPLETE" => some .complete
  | some "TOP_PERF" => some .topPerf
  | _ => none

end ModelStatusTypes

def kindBenchmarks : String := "benchmarks"
def kindEvals : String := "evals"
def kindSpecTests : String := "spec_tests"
def kindAgenticTracesTargets : String := "agentic_traces_targets"

def targetLevels : List String := ["functional", "complete", "target"]
def checkSuffix : String := "_check"
def failCheckInt : Int := 3
def partialBlockerPrefix : String := "partial:"
def priorityShould : String := "should"
def infraTaskTypes : List String := ["health", "infra", "unit", "stability", "integration"]

def enforcedBenchmarkTiers : List String :=
  match ModelStatusTypes.resolve modelStatus with
  | none => targetLevels
  | some status => status.requiredTargetTiers

def evalsEnforced : Bool :=
  match ModelStatusTypes.resolve modelStatus with
  | none => true
  | some status => status.evalsEnforced

def shouldPrioritySuffix : String := "(informational: requirement priority=should)"

/-- A missing or an empty text gives way to the other. -/
def named (text : Option String) (other : String) : String :=
  match text with
  | some text => if text = "" then other else text
  | none => other

def informationalSuffix : String :=
  "(informational: model status=" ++ named modelStatus "unknown" ++ ")"

/-- The categories, by the names under which their results are found. -/
inductive Category
  | benchmarks
  | evals
  | specTests
  | agenticTargets
  deriving DecidableEq

structure CategoryResult where
  name : Category
  status : TestStatus
  total : Nat
  failed : Nat
  na : Nat := 0
  skipped : Nat := 0
  blockers : Dict String String := .empty
  waived : Dict String String := .empty
  waivedMust : Dict String String := .empty
  ungradedMust : Dict String String := .empty

def CategoryResult.passed (result : CategoryResult) : Int :=
  result.total - result.failed - result.na - result.skipped - result.waived.length

section Fields

variable [Python Double] (block : Block Double) (checkValue : PyValue Double)

def blockPriority : String :=
  Python.lower Double
    (Python.strip Double ((block.data.get "priority").orElse (.str "must")).text)

def blockKey : String :=
  match block.title with
  | some title => if title = "" then block.kind else block.kind ++ ":" ++ title
  | none => block.kind

/-- The title of a block in a message. -/
def heading : String := named block.title block.kind

def explicitStatus : Option TestStatus :=
  TestStatus.fromValue (block.data.get "status")

def blockTestStatus : TestStatus :=
  match TestStatus.fromValue (block.data.get "status") with
  | some resolved => resolved
  | none => .fromLegacy (block.data.get "success") (block.data.get "skipped").truthy

/-- A field of the data or of the first mapping in it that has the field. -/
def resolveNested (data : PyValue Double) (key : String) : PyValue Double :=
  match data.entries? with
  | none => .none
  | some entries =>
    match entries.lookup key with
    | some value => value
    | none => (entries.findSome? fun entry => (entry.2.entries?.getD []).lookup key).getD .none

def passesCheck : Bool :=
  match checkValue with
  | .none => false
  | .bool passed => passed
  | value =>
    match value.whole? with
    | some whole => whole ≠ failCheckInt
    | none => Python.upper Double (Python.strip Double value.text) ∉ ["FAIL", "FAILED", "NA"]

def checkState : TestStatus :=
  match checkValue with
  | .none => .na
  | .bool passed => if passed then .pass else .fail
  | value =>
    match value.whole? with
    | none =>
      let text := Python.upper Double (Python.strip Double value.text)
      if text ∈ ["FAIL", "FAILED"] then .fail
      else if text ∈ ["NA", "N/A"] then .na
      else .pass
    | some whole => if whole = failCheckInt then .fail else if whole = 1 then .na else .pass

/-- The metric that a check is about. -/
def metricOf (checkName : String) : String :=
  (checkName.dropEnd checkSuffix.length).toString

def hasTarget (level : PyValue Double) (checkName : String) : Bool :=
  let value := level.get (metricOf checkName)
  value.isNumber && value.sign = some .gt

def requestFailure : Option String :=
  let completed := resolveNested block.data "num_requests"
  let failed := resolveNested block.data "error_request_count"
  if completed.isNumber && (completed.sign = some .lt || completed.sign = some .eq) then
    some "Benchmark completed zero requests; at least one is required."
  else if failed.isNumber && failed.sign = some .gt then
    some (toString (failed.whole?.getD 0) ++
      " request(s) failed at this point; zero are required.")
  else none

def formatMetricValue (value : PyValue Double) : String :=
  if value.isNumber then Python.fixed value else value.text

/-- A threshold or a ratio that a message shows. -/
def isShown : PyValue Double → Bool
  | .none => false
  | .str text => text ≠ "Undefined"
  | _ => true

def formatBenchmarkFailure (levelName checkName metric : String) (levelChecks : PyValue Double) :
    String :=
  let threshold := levelChecks.get metric
  let ratio := levelChecks.get (metric ++ "_ratio")
  let actual := if threshold.isNumeric && ratio.isNumeric then
    ["actual " ++ metric ++ "=" ++ formatMetricValue (Python.times threshold ratio)] else []
  let limit := if isShown threshold then
    ["threshold " ++ metric ++ "=" ++ formatMetricValue threshold] else []
  let share := if isShown ratio then ["ratio=" ++ formatMetricValue ratio] else []
  "; ".intercalate ([levelName ++ " " ++ checkName ++ " failed"] ++ actual ++ limit ++ share) ++ "."

end Fields

/-- What one block adds to the counts and dictionaries of its category. -/
structure Graded where
  blockers : List (String × String) := []
  waived : List (String × String) := []
  waivedMust : List (String × String) := []
  ungradedMust : List (String × String) := []
  failed : Nat := 0
  na : Nat := 0
  skipped : Nat := 0
  partialRuns : Nat := 0

/-- The counts and dictionaries of a category once its loop is over. -/
def tally (name : Category) (status : TestStatus) (grades : List Graded) : CategoryResult where
  name
  status
  total := grades.length
  failed := (grades.map fun grade => grade.failed + grade.partialRuns).sum
  na := (grades.map Graded.na).sum
  skipped := (grades.map Graded.skipped).sum
  blockers := .ofList (grades.flatMap Graded.blockers)
  waived := .ofList (grades.flatMap Graded.waived)
  waivedMust := .ofList (grades.flatMap Graded.waivedMust)
  ungradedMust := .ofList (grades.flatMap Graded.ungradedMust)

section Benchmarks

variable [Python Double] (block : Block Double) (schema : ReportSchema Double)

/-- A `*_check` field of a tier, with the tier it is in. -/
structure TargetCheck (Double : Type) where
  level : String
  levelChecks : PyValue Double
  name : String
  value : PyValue Double

variable (check : TargetCheck Double) (enforcedTiers : List String)

def TargetCheck.metric : String := metricOf check.name

/-- The checks of all tiers, tier by tier. -/
def targetChecks (levels : List (String × PyValue Double)) : List (TargetCheck Double) :=
  targetLevels.flatMap fun level =>
    match levels.lookup level with
    | some (.mapping checks) =>
      (checks.filter fun check => check.1.endsWith checkSuffix).map fun check =>
        ⟨level, .mapping checks, check.1, check.2⟩
    | _ => []

def TargetCheck.missingMeasurement : Bool :=
  hasTarget check.levelChecks check.name && checkState check.value = .na

def TargetCheck.fails : Bool :=
  check.missingMeasurement || !passesCheck check.value

def TargetCheck.failure : String :=
  if check.missingMeasurement then
    check.level ++ " " ++ check.metric ++ ": configured target has no measurement."
  else formatBenchmarkFailure check.level check.name check.metric check.levelChecks

def metricPriority (metric : String) : String :=
  let priorities := block.data.get "target_priorities"
  Python.lower Double (Python.strip Double (((priorities.entries?.getD []).lookup metric).getD
    (.str "")).text)

/-- A tier that the model status does not enforce, or a metric that only should be met. -/
def TargetCheck.isInformational (block : Block Double) : Bool :=
  check.level ∉ enforcedTiers || metricPriority block check.metric = priorityShould

def TargetCheck.entry (block : Block Double) (blockKey : String) : String × String :=
  (blockKey ++ "." ++ check.level ++ "." ++ check.name,
    if check.level ∈ enforcedTiers ∧ metricPriority block check.metric = priorityShould then
      check.failure ++ " " ++ shouldPrioritySuffix
    else check.failure)

/-- What an ungraded block asks of its tiers: its own blockers and what is informational. -/
def gradeTargets (block : Block Double) (blockKey : String) :
    List (String × String) × List (String × String) :=
  match (resolveNested block.data "target_checks").entries? with
  | none => ([(blockKey ++ ".target_checks", "Missing target_checks in benchmark block.")], [])
  | some levels =>
    let checks := targetChecks levels
    if checks.isEmpty then
      ([(blockKey ++ ".target_checks", "No *_check fields found across any tier.")], [])
    else
      let failing := checks.filter TargetCheck.fails
      ((failing.filter fun check => !check.isInformational enforcedTiers block).map fun check =>
          check.entry enforcedTiers block blockKey,
        (failing.filter fun check => check.isInformational enforcedTiers block).map fun check =>
          check.entry enforcedTiers block blockKey)

/-- A block without a result may still have a target for one of its checks. -/
def hasAnyTarget : Bool :=
  match (resolveNested block.data "target_checks").entries? with
  | none => false
  | some levels => levels.any fun level => (level.2.entries?.getD []).any fun check =>
      check.1.endsWith checkSuffix && hasTarget level.2 check.1

/-- The status that decides a benchmark; with a target to meet, `na` does not. -/
def benchmarkStatus : Option TestStatus :=
  if explicitStatus block = some .na && hasAnyTarget block then none else explicitStatus block

def gradeBenchmark (modelStatus : Option String) (block : Block Double) (blockKey : String) :
    Graded :=
  if explicitStatus block = some .skip then { skipped := 1 }
  else match requestFailure block with
  | some failure =>
    if blockPriority block = priorityShould then
      { waived := [(blockKey, failure ++ " " ++ shouldPrioritySuffix)] }
    else { blockers := [(blockKey ++ ".requests", failure)], failed := 1 }
  | none =>
    match benchmarkStatus block with
    | some status =>
      let report := heading block ++ " reported status=" ++ status.value
      if status.isBlocking then
        if blockPriority block = priorityShould then
          { waived := [(blockKey, report ++ " " ++ shouldPrioritySuffix)] }
        else { blockers := [(blockKey, report)], failed := 1 }
      else if status = .na then { na := 1 }
      else {}
    | none =>
      let (blockBlockers, blockInformational) :=
        gradeTargets (enforcedBenchmarkTiers modelStatus) block blockKey
      -- A point that only should be met never blocks.
      let (blockBlockers, blockInformational) :=
        if blockPriority block = priorityShould then ([], blockInformational ++ blockBlockers)
        else (blockBlockers, blockInformational)
      {
        blockers := blockBlockers
        failed := if blockBlockers.isEmpty then 0 else 1
        waived := if blockInformational.isEmpty then [] else
          [(blockKey, toString blockInformational.length ++
            " tier check(s) failed but are informational-only " ++
            informationalSuffix modelStatus ++ ": " ++
            "; ".intercalate (blockInformational.map Prod.snd))]
      }

def dimensionFields : List String :=
  ["requested_concurrency", "requested_input_sequence_length",
    "requested_output_sequence_length", "concurrency", "input_sequence_length",
    "output_sequence_length"]

def dimensions (data : PyValue Double) : String :=
  ",".intercalate ((dimensionFields.filter fun field => !(resolveNested data field).isNone).map
    fun field => field ++ "=" ++ (resolveNested data field).text)

/-- The key of a block among the blocks that are graded with it: blocks that share one are
told apart by their places. -/
def pointKey (blocks : List (Block Double)) (index : Nat) (block : Block Double) : String :=
  if (blocks.map blockKey).count (blockKey block) > 1 then
    let dimensions := dimensions block.data
    blockKey block ++ "[point=" ++ toString index ++
      (if dimensions = "" then "" else "," ++ dimensions) ++ "]"
  else blockKey block

def benchmarkBlocks : List (Block Double) :=
  schema.sections.filter fun block => block.kind = kindBenchmarks

def benchmarkGrades (modelStatus : Option String) : List Graded :=
  let blocks := benchmarkBlocks schema
  (blocks.zipIdx 1).map fun point =>
    gradeBenchmark modelStatus point.1 (pointKey blocks point.2 point.1)

def checkBenchmarks (modelStatus : Option String) : CategoryResult :=
  let grades := benchmarkGrades schema modelStatus
  let failed := (grades.map Graded.failed).sum
  let skipped := (grades.map Graded.skipped).sum
  let na := (grades.map Graded.na).sum
  let status :=
    if grades.isEmpty then TestStatus.na
    else if failed ≠ 0 then .fail
    else if failed + skipped + na = grades.length ∧ (skipped ≠ 0 ∨ na ≠ 0) then .na
    else .pass
  tally .benchmarks status grades

end Benchmarks

section Waivers

variable [Python Double]

/-- The reason of the first known issue of the workflow that names the task or no task. -/
def findWaiver (knownIssues : List KnownIssue) (workflowName : String)
    (taskName : PyValue Double) : Option String :=
  (knownIssues.find? fun issue =>
    Python.upper Double (lastPart issue.workflowType) = Python.upper Double workflowName &&
      issue.taskName.all taskName.isText).map fun issue =>
    named (some issue.reason) ("known issue (" ++ workflowName ++ ")")
where
  /-- `WorkflowType.EVALS` is `EVALS`. -/
  lastPart (name : String) : String :=
    String.ofList (name.toList.reverse.takeWhile (· ≠ '.')).reverse

end Waivers

section Evals

variable [Python Double] (block : Block Double) (schema : ReportSchema Double)
  (knownIssues : List KnownIssue)

/-- The attempts that a message shows. -/
def attempts (block : Block Double) : String :=
  match (block.data.entries?.getD []).lookup "attempts" with
  | some value => value.text
  | none => "?"

/-- The reason that a message shows. -/
def reasonOr (other : String) : String :=
  ((block.data.get "reason").orElse (.str other)).text

/-- An entry that is also kept for the strict verdict unless it only should pass. -/
def must (entry : String × String) : List (String × String) :=
  if blockPriority block = priorityShould then [] else [entry]

/-- The failure of a block that reports no status, and whether its check has no result. -/
def evalMessage : Option String × Bool :=
  if (block.data.get "success").isFalse then
    (some (heading block ++ " reported success=False (attempts=" ++ attempts block ++ ")"), false)
  else
    let checkValue := resolveNested block.data "accuracy_check"
    if checkValue.isNone then (some "Missing accuracy_check on eval block.", false)
    else match checkState checkValue with
    | .fail => (some "Accuracy check failed.", false)
    | .na => (none, true)
    | _ => (none, false)

def gradeEval (modelStatus : Option String) (block : Block Double) : Graded :=
  let blockKey := blockKey block
  if (block.data.get "incomplete").isTrue then
    { blockers := [(blockKey, heading block ++ " is incomplete: " ++
        reasonOr block "inference errors in its samples")]
      failed := 1 }
  else match explicitStatus block with
  | some explicit =>
    let report := heading block ++ " reported status=" ++ explicit.value
    if explicit.isBlocking then
      let message := report ++ " (attempts=" ++ attempts block ++ ")"
      if !evalsEnforced modelStatus then
        let entry := (blockKey, message ++ " " ++ informationalSuffix modelStatus)
        { waived := [entry], waivedMust := must block entry }
      else if blockPriority block = priorityShould then
        { waived := [(blockKey, message ++ " " ++ shouldPrioritySuffix)] }
      else { blockers := [(blockKey, message)], failed := 1 }
    else match explicit with
    | .partialRun =>
      { blockers := [(partialBlockerPrefix ++ blockKey, heading block ++
          " graded a subset of the samples (" ++ partialReason ++
          "); only the merged full-set report can pass")]
        partialRuns := 1 }
    | .skip =>
      { skipped := 1
        ungradedMust := must block (blockKey, report ++ " (" ++ reasonOr block "not run" ++ ")") }
    | .na =>
      { na := 1
        ungradedMust := must block (blockKey, report ++ " (" ++
          reasonOr block "no score to grade against" ++ ")") }
    | _ => {}
  | none =>
    match evalMessage block with
    | (none, true) =>
      { na := 1
        ungradedMust := must block (blockKey, heading block ++
          " accuracy_check NA (no published or GPU reference score)") }
    | (none, false) => {}
    | (some message, _) =>
      match findWaiver knownIssues "EVALS" (block.data.get "task_name") with
      | some reason =>
        let entry := (blockKey, message ++ " (waived: " ++ reason ++ ")")
        { waived := [entry], waivedMust := must block entry }
      | none =>
        if !evalsEnforced modelStatus then
          let entry := (blockKey, message ++ " " ++ informationalSuffix modelStatus)
          { waived := [entry], waivedMust := must block entry }
        else if blockPriority block = priorityShould then
          { waived := [(blockKey, message ++ " " ++ shouldPrioritySuffix)] }
        else { blockers := [(blockKey, message)], failed := 1 }
where
  partialReason : String :=
    match (block.data.entries?.getD []).lookup "reason" with
    | some value => value.text
    | none => "partial run"

def evalBlocks : List (Block Double) :=
  schema.sections.filter fun block => block.kind = kindEvals

def evalGrades (modelStatus : Option String) : List Graded :=
  (evalBlocks schema).map (gradeEval knownIssues modelStatus)

def checkEvals (modelStatus : Option String) : CategoryResult :=
  let grades := evalGrades schema knownIssues modelStatus
  let failed := (grades.map Graded.failed).sum
  let na := (grades.map Graded.na).sum
  let skipped := (grades.map Graded.skipped).sum
  let status :=
    if grades.isEmpty then TestStatus.na
    else if failed ≠ 0 then .fail
    else if (grades.map Graded.partialRuns).sum ≠ 0 then .partialRun
    else if na = grades.length ∨ (skipped ≠ 0 ∧ failed + na + skipped = grades.length) then .na
    else .pass
  tally .evals status grades

end Evals

section SpecTests

variable [Python Double] (knownIssues : List KnownIssue) (schema : ReportSchema Double)
  (block : Block Double)

/-- A row that reports a failure. -/
def rowFails (row : PyValue Double) : Bool :=
  let status := ((row.entries?.getD []).lookup "status").getD (.str "")
  "FAIL".toList <:+: (Python.upper Double status.text).toList

def isMalformed (row : PyValue Double) : Bool :=
  row.entries?.isNone || !(row.get "test_case").truthy

/-- The test cases that fail, when the block reports its cases. -/
def specFailingCases : Option (List String) :=
  match block.data.get "parameter_conformance_summary" with
  | .list rows =>
    if rows.isEmpty || rows.any isMalformed then none
    else some ((rows.filter rowFails).map fun row => (row.get "test_case").text)
  | _ => none

/-- The parametrizations of a case that fail, when the block reports them. -/
def specFailingParametrizations (case_ : String) : Option (List String) :=
  match block.data.get "detailed_test_results" with
  | .list rows =>
    let failing := rows.filter fun row => (row.get "test_case").text = case_ && rowFails row
    if rows.isEmpty || rows.any isMalformed || failing.isEmpty ||
        failing.any fun row => !(row.get "parametrization").truthy then none
    else some (failing.map fun row => (row.get "parametrization").text)
  | _ => none

/-- The reasons why a failing case is known, its own or those of all its parametrizations. -/
def caseReasons (case_ : String) : Option (List String) :=
  match findWaiver knownIssues "SPEC_TESTS" (.str case_ : PyValue Double) with
  | some reason => some [case_ ++ ": " ++ reason]
  | none =>
    match specFailingParametrizations block case_ with
    | none => none
    | some params => params.mapM fun param =>
      (findWaiver knownIssues "SPEC_TESTS" (.str param : PyValue Double)).map fun reason =>
        param ++ ": " ++ reason

def specWaiver : Option String :=
  if (block.data.get "non_blocking").isTrue then
    some ((block.data.get "non_blocking_reason").orElse (.str "non-blocking test")).text
  else match findWaiver knownIssues "SPEC_TESTS" (.none : PyValue Double) with
  | some whole => some whole
  | none =>
    match specFailingCases block with
    | none => none
    | some [] => none
    | some failing => (failing.mapM (caseReasons knownIssues block)).map fun reasons =>
      "; ".intercalate reasons.flatten

def gradeSpec : Graded :=
  let testStatus := blockTestStatus block
  let key := "spec." ++ blockKey block
  if testStatus.isBlocking then
    let message := heading block ++ " reported status=" ++ testStatus.value ++ " (attempts=" ++
      attempts block ++ ")"
    match if testStatus = .fail then specWaiver knownIssues block else none with
    | some reason => { waived := [(key, message ++ " (waived: " ++ reason ++ ")")] }
    | none => { blockers := [(key, message)], failed := 1 }
  else match testStatus with
  | .skip => { skipped := 1 }
  | .na => { na := 1 }
  | _ => {}

def specBlocks : List (Block Double) :=
  schema.sections.filter fun block =>
    block.kind = kindSpecTests && block.taskType.getD "" ∉ infraTaskTypes &&
      block.data.entries?.isSome

def specGrades (knownIssues : List KnownIssue) : List Graded :=
  (specBlocks schema).map (gradeSpec knownIssues)

def checkSpecTests (knownIssues : List KnownIssue) : CategoryResult :=
  let grades := specGrades schema knownIssues
  let status :=
    if grades.isEmpty then TestStatus.na
    else if (grades.map Graded.failed).sum ≠ 0 then .fail
    else .pass
  tally .specTests status grades

end SpecTests

section AgenticTargets

variable [Python Double] (block : Block Double) (schema : ReportSchema Double)

/-- The tag of a block, if it names a stage. -/
def blockStage : Option (Stage Double) :=
  block.stage.filter fun stage => stage.key.truthy

/-- What a targets block adds: the measured points of its sweep and what blocks. -/
structure GradedSweep where
  total : Nat
  failed : Nat
  anyMissing : Bool
  blockers : List (String × String)

/-- A point with targets is passed or missed. -/
def isMissed (point : PyValue Double) : Bool := !(point.get "passed").truthy

/-- The blocker of a missed point. -/
def pointBlocker (blockKey : String) (point : PyValue Double) : Option (String × String) := do
  let concurrency := (point.get "concurrency").text
  let met := (point.get "met").orElse (.int 0)
  let graded := (point.get "graded").orElse (.int 0)
  let key := blockKey ++ ".c" ++ concurrency
  if !graded.truthy then
    return (key, "Agentic targets at concurrency " ++ concurrency ++
      ": the run produced none of the declared metrics.")
  let verdicts ← ((point.get "verdicts").orElse (.list [])).items?
  let offenders := (verdicts.filter fun verdict =>
    verdict.entries?.isSome && (verdict.get "passed").isFalse &&
      !(verdict.get "soft").truthy).map fun verdict => (verdict.get "field").text
  let suffix := if offenders.isEmpty then "" else
    " (" ++ ", ".intercalate (offenders.take 3) ++ ", ...)"
  return (key, "Agentic targets missed at concurrency " ++ concurrency ++ ": " ++ met.text ++
    "/" ++ graded.text ++ " targets met" ++ suffix ++ ".")

def agenticKey : String :=
  match blockStage block with
  | some stage => blockKey block ++ "[" ++ stage.key.text ++ "]"
  | none => blockKey block

/-- It fails if a list of the block is something that has no items. -/
def gradeAgentic : Option GradedSweep := do
  let points ← ((block.data.get "points").orElse (.list [])).items?
  let missing ← ((block.data.get "missing_concurrencies").orElse (.list [])).items?
  let graded := points.filter fun point =>
    point.entries?.isSome && !(point.get "passed").isNone
  let missed := graded.filter isMissed
  let blockers ← missed.mapM (pointBlocker (agenticKey block))
  let unmeasured := if missing.isEmpty then [] else
    [(agenticKey block ++ ".missing", "Requirements document expects agentic sweep points " ++
      ", ".intercalate (missing.map fun concurrency => "c" ++ concurrency.text) ++
      ", which were never measured.")]
  return {
    total := graded.length
    failed := missed.length
    anyMissing := !missing.isEmpty
    blockers := blockers ++ unmeasured
  }

def agenticBlocks : List (Block Double) :=
  schema.sections.filter fun block =>
    block.kind = kindAgenticTracesTargets && block.data.entries?.isSome

def agenticGrades : Option (List GradedSweep) :=
  (agenticBlocks schema).mapM gradeAgentic

def checkAgenticTargets : Option CategoryResult := do
  let grades ← agenticGrades schema
  let failed := (grades.map GradedSweep.failed).sum
  return {
    name := .agenticTargets
    status := if grades.isEmpty then .na
      else if failed ≠ 0 ∨ grades.any GradedSweep.anyMissing then .fail else .pass
    total := (grades.map GradedSweep.total).sum
    failed
    blockers := .ofList (grades.flatMap GradedSweep.blockers)
  }

end AgenticTargets

section Verdicts

variable [Python Double] (schema : ReportSchema Double) (overallBlockers : Dict String String)

structure Acceptance where
  accepted : Bool
  blockers : Dict String String
  categories : List CategoryResult

/-- No verdict if the grading fails. -/
def acceptanceCriteriaCheck (knownIssues : List KnownIssue) (modelStatus : Option String) :
    Option Acceptance := do
  let agentic ← checkAgenticTargets schema
  let categories := [checkBenchmarks schema modelStatus, checkEvals schema knownIssues modelStatus,
    checkSpecTests schema knownIssues, agentic]
  let blockers := categories.foldl
    (fun blockers category => blockers.update category.blockers.entries) Dict.empty
  return { accepted := blockers.entries.isEmpty, blockers, categories }

structure Qualification where
  strictPass : Bool
  waivedMustEvals : Dict String String
  ungradedMustEvals : Dict String String

def strictQualification (accepted : Bool) (categories : List CategoryResult) : Qualification :=
  let evals := categories.filter fun category => category.name = .evals
  let waivedMust := Dict.ofList (evals.flatMap fun category => category.waivedMust.entries)
  let ungradedMust := Dict.ofList (evals.flatMap fun category => category.ungradedMust.entries)
  {
    strictPass := accepted && waivedMust.entries.isEmpty && ungradedMust.entries.isEmpty
    waivedMustEvals := waivedMust
    ungradedMustEvals := ungradedMust
  }

structure StageResult where
  key : String
  name : String
  position : Int
  accepted : Bool
  blockers : Dict String String
  categories : List CategoryResult

/-- The first tag of every stage, under the text of its key. -/
def stagesOf : Dict String (Stage Double) :=
  (schema.sections.filterMap blockStage).foldl
    (fun stages stage => stages.setDefault stage.key.text stage) .empty

/-- The blocks of a stage: the key of their tag is the text itself. -/
def stageBlocks (key : String) : ReportSchema Double where
  sections := schema.sections.filter fun block =>
    (blockStage block).any fun stage => stage.key.isText key

def stageResult (knownIssues : List KnownIssue) (modelStatus : Option String)
    (stage : String × Stage Double) : Option StageResult := do
  let graded ← acceptanceCriteriaCheck (stageBlocks schema stage.1) knownIssues modelStatus
  let kept := graded.blockers.filter fun blocker => blocker.1 ∈ overallBlockers.keys
  return {
    key := stage.1
    name := named stage.2.name stage.1
    position := stage.2.position.getD 0
    accepted := kept.entries.isEmpty
    blockers := kept
    categories := graded.categories.filter fun category => category.total ≠ 0
  }

def stageResults (knownIssues : List KnownIssue) (modelStatus : Option String) :
    Option (List StageResult) :=
  ((stagesOf schema).entries.insertionSort fun first second =>
    first.2.position.getD 0 ≤ second.2.position.getD 0).mapM
      (stageResult schema overallBlockers knownIssues modelStatus)

end Verdicts

end InferenceServer.Reports
