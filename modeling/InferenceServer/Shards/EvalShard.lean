import InferenceServer.Machine.Dict
import Mathlib.Algebra.Field.Basic
import Mathlib.Algebra.GroupWithZero.Nat
import Mathlib.Data.List.Infix
import Mathlib.Data.List.Sort

/-! Sample-sharded evals: how the docs of a task are split over shards, which plans can
be split, and how the samples that the shards log are joined to the results of the
whole task. Numbers are exact. -/
namespace InferenceServer.Shards
open Machine

/-- A task of the harness: its dataset, its configured docs and its metrics. -/
structure LeafInfo where
  nDocs : Int
  docIds : Option (List Int) := none
  numFewshot : Option Int := none
  fewshotSampler : Option String := none
  aggregations : Dict String String := .empty
  repeats : Option Int := none

inductive FilterList
  | one (filter : String)
  | many (filters : List String)

/-- A metric of a group. -/
structure Aggregate where
  metric : String
  aggregation : Option String := none
  filterList : Option FilterList := none
  weightBySize : Bool := false

structure GroupInfo where
  subtasks : List String := []
  aggregateMetricList : List Aggregate := []

/-- What does not depend on the shard: the tasks, and the groups they are in. -/
structure Plan where
  leaves : Dict String LeafInfo := .empty
  groups : Dict String GroupInfo := .empty

/-- Why a plan cannot be sharded exactly. -/
inductive PlanProblem
  | fewshot (leaf : String) (shots : Int) (sampler : Option String)
  | leafMetric (leaf metric aggregation : String)
  | groupMetric (group metric aggregation : String)

/-- Why a set of records is not one complete run. -/
inductive RecordProblem
  | version (shard : Option String) (version : Option Int)
  | differs (shard : Option String) (key : String)
  | plan (shard : Option String)
  | expectedDocs (shard : Option String)
  | indices (missing duplicate : List Int)

inductive ShardError
  | docCount (count : Int)
  | plan (problems : List PlanProblem)
  | otherLeaves (task : String) (leaves : List String)
  | noDocIds (task : String)
  | outside (task : String) (ids : List Int)
  | logs (shards : List Int)
  | foreignDoc (leaf : String) (shard : Int) (doc : Option Int)
  | loggedTwice (leaf : String) (doc : Int) (filter : String)
  | noRows (leaf : String)
  | missingDocs (leaf filter : String) (docs : List Int)
  | notANumber (doc : Option Int) (metric : String)
  | groupCycle (group : String)
  | unknownSubtask (group task : String)
  | noLeafReports (group key : String)
  | records (problems : List RecordProblem)
  | configuredDocs (task : String)
  | noCompletedShard (task : String)
  | sampleLogs (leaf : String) (found : Nat)
  | resultFiles (found : Nat)
  | otherDataset (leaf : String) (original : Int)
  | notRecomputed (name : String) (keys : List String)
  | notAnInteger
  | noPlan

/-- The entries in the order of their names. -/
def sortedByName {Value : Type} (dict : Dict String Value) : List (String × Value) :=
  dict.entries.insertionSort fun first second => first.1 ≤ second.1

/-- `range(count)`. -/
def rangeTo (count : Int) : List Int := (List.range count.toNat).map Int.ofNat

/-- The sorted docs of a shard of a dataset. -/
def shardIndices (nDocs index count : Nat) : List Nat :=
  (List.range nDocs).filter fun doc => index ≤ doc ∧ (doc - index) % count = 0

/-- The docs that an unsharded run evaluates. -/
def leafDocIds (info : LeafInfo) : List Int :=
  match info.docIds with
  | some ids => ids
  | none => rangeTo info.nDocs

/-- `doc_ids[index::count]`. -/
def shardDocIds (docIds : List Int) (index count : Nat) : List Int :=
  (docIds.zipIdx.filter fun doc => index ≤ doc.2 ∧ (doc.2 - index) % count = 0).map Prod.fst

variable (plan : Plan)

/-- The plan of a task whose docs are configured. -/
def restrictPlanToDocIds (taskName : String) (docIds : List Int) : Except ShardError Plan :=
  match plan.leaves.entries with
  | [(leaf, info)] =>
    if leaf = taskName then
      let ids := docIds.dedup.insertionSort (· ≤ ·)
      let outside := ids.filter fun doc => ¬ (0 ≤ doc ∧ doc < info.nDocs)
      if ids.isEmpty then .error (.noDocIds taskName)
      else if outside.isEmpty then
        .ok { plan with leaves := plan.leaves.set taskName { info with docIds := some ids } }
      else .error (.outside taskName (outside.take 5))
    else .error (.otherLeaves taskName [leaf])
  | entries => .error (.otherLeaves taskName (entries.map Prod.fst))

def orderIndependentSamplers : List String := ["first_n"]

def leafProblems (leaf : String) (info : LeafInfo) : List PlanProblem :=
  let shots := info.numFewshot.getD 0
  (if 0 < shots ∧ info.fewshotSampler.all (· ∉ orderIndependentSamplers) then
    [.fewshot leaf shots info.fewshotSampler] else []) ++
  ((sortedByName info.aggregations).filter fun metric => metric.2 ≠ "mean").map fun metric =>
    .leafMetric leaf metric.1 metric.2

def groupProblems (group : String) (info : GroupInfo) : List PlanProblem :=
  (info.aggregateMetricList.filter fun item => item.aggregation.getD "mean" ≠ "mean").map
    fun item => .groupMetric group item.metric (item.aggregation.getD "mean")

def planProblems : List PlanProblem :=
  ((sortedByName plan.leaves).flatMap fun leaf => leafProblems leaf.1 leaf.2) ++
    (sortedByName plan.groups).flatMap fun group => groupProblems group.1 group.2

def checkPlan : Except ShardError Unit :=
  let problems := planProblems plan
  if problems.isEmpty then .ok () else .error (.plan problems)

/-- The docs of every task in one shard. -/
def shardSamples (index count : Nat) : Except ShardError (Dict String (List Int)) := do
  checkPlan plan
  return .ofList ((sortedByName plan.leaves).map fun leaf =>
    (leaf.1, shardDocIds (leafDocIds leaf.2) index count))

section Merge

variable {Number : Type}

/-- A sample as the harness logs it; a metric may be something else than a number. -/
structure Row (Number : Type) where
  docId : Option Int
  filter : Option String := none
  values : Dict String (Option Number) := .empty
  docHash : String := ""
  answers : String := ""

/-- A value of a results document. -/
inductive Cell (Number : Type)
  | number (value : Number)
  | text (text : String)
  deriving DecidableEq

abbrev Entry (Number : Type) := Dict String (Cell Number)
abbrev Results (Number : Type) := Dict String (Entry Number)

/-- The samples that the shards logged, by shard and task. -/
abbrev ShardRows (Number : Type) := Dict Int (Dict String (List (Row Number)))

/-- The logged rows of a task, by filter and doc. -/
abbrev RowsByFilter (Number : Type) := Dict String (Dict Int (Row Number))

def resultKey (metric filter : String) : String := metric ++ "," ++ filter
def stderrKey (metric filter : String) : String := metric ++ "_stderr," ++ filter

def metricValue (row : Row Number) (metric : String) : Except ShardError Number :=
  match row.values.lookup metric with
  | some (some value) => .ok value
  | _ => .error (.notANumber row.docId metric)

/-- Files a row under its filter and doc. -/
def logRow (leaf : String) (shard : Int) (expected : List Int) (byFilter : RowsByFilter Number)
    (row : Row Number) : Except ShardError (RowsByFilter Number) :=
  match row.docId with
  | none => .error (.foreignDoc leaf shard none)
  | some doc =>
    if doc ∈ expected then
      let filter := row.filter.getD "none"
      let slot := (byFilter.lookup filter).getD .empty
      if doc ∈ slot.keys then .error (.loggedTwice leaf doc filter)
      else .ok (byFilter.set filter (slot.set doc row))
    else .error (.foreignDoc leaf shard (some doc))

def rowsOf (shardRows : ShardRows Number) (index : Int) (leaf : String) : List (Row Number) :=
  (((shardRows.lookup index).getD .empty).lookup leaf).getD []

/-- Files the rows of a task, shard by shard. -/
def collectRows (docIds : List Int) (count : Nat) (shardRows : ShardRows Number) (leaf : String) :
    Except ShardError (RowsByFilter Number) :=
  (List.range count).foldlM (fun byFilter (index : Nat) =>
    (rowsOf shardRows index leaf).foldlM
      (logRow leaf index (shardDocIds docIds index count)) byFilter) .empty

variable [Field Number] (sqrt : Number → Number) (sha : String → String) (results : Results Number)

def meanAndStderr (values : List Number) : Number × Option Number :=
  let n := values.length
  let mean := values.sum / n
  if n < 2 then (mean, none)
  else
    let variance := (values.map fun value => (value - mean) ^ 2).sum / ((n : Number) - 1)
    (mean, some (sqrt (variance / n)))

/-- Writes a metric of the rows of a filter. -/
def writeMetric (filter : String) (ordered : List (Row Number)) (entry : Entry Number)
    (metric : String) : Except ShardError (Entry Number) := do
  let values ← ordered.mapM fun row => metricValue row metric
  let (mean, stderr) := meanAndStderr sqrt values
  return (entry.set (resultKey metric filter) (.number mean)).set (stderrKey metric filter)
    (stderr.elim (.text "N/A") .number)

/-- Writes the metrics of a filter, and the hash of the docs in their order. -/
def writeFilter (leaf : String) (docIds : List Int) (metrics : List String)
    (written : Entry Number × String) (rows : String × Dict Int (Row Number)) :
    Except ShardError (Entry Number × String) := do
  let missing := docIds.filter fun doc => doc ∉ rows.2.keys
  if !missing.isEmpty then throw (.missingDocs leaf rows.1 missing)
  let ordered := docIds.filterMap rows.2.lookup
  let entry ← metrics.foldlM (writeMetric sqrt rows.1 ordered) written.1
  return (entry, sha (String.join (ordered.map Row.docHash)))

/-- The results of a task from the rows of all shards. -/
def mergeLeaf (count : Nat) (shardRows : ShardRows Number) (leaf : String) (info : LeafInfo) :
    Except ShardError (Entry Number × String) := do
  let docIds := leafDocIds info
  let metrics := (sortedByName info.aggregations).map Prod.fst
  let byFilter ← collectRows docIds count shardRows leaf
  if byFilter.entries.isEmpty then throw (.noRows leaf)
  (sortedByName byFilter).foldlM (writeFilter sqrt sha leaf docIds metrics) (.empty, "")

/-- The tasks below a group, in order and once for every path. A path has at most as many
groups as there are. -/
def leavesOf (plan : Plan) : Nat → List String → String → Except ShardError (List String)
  | 0, _, group => .error (.groupCycle group)
  | depth + 1, stack, group =>
    if group ∈ stack then .error (.groupCycle group)
    else do
      let below ← (((plan.groups.lookup group).map GroupInfo.subtasks).getD []).mapM fun task =>
        if task ∈ plan.groups.keys then leavesOf plan depth (stack ++ [group]) task
        else if task ∈ plan.leaves.keys then .ok [task]
        else .error (.unknownSubtask group task)
      return below.flatten

def Aggregate.filters (item : Aggregate) : List String :=
  match item.filterList with
  | some (.one filter) => if filter = "" then ["none"] else [filter]
  | some (.many filters) => if filters.isEmpty then ["none"] else filters
  | none => ["none"]

def cellOf (task key : String) : Option (Cell Number) :=
  ((results.lookup task).getD .empty).lookup key

def cellNumber : Cell Number → Option Number
  | .number value => some value
  | .text _ => none

def reportedNumber (task key : String) : Except ShardError Number :=
  match (cellOf results task key).bind cellNumber with
  | some value => .ok value
  | none => .error (.notANumber none key)

/-- Writes a cell of an entry that may be there already. -/
def writeCell (name key : String) (cell : Cell Number) : Results Number :=
  results.set name (((results.lookup name).getD .empty).set key cell)

/-- Writes a metric of a group over the tasks below it that report it. -/
def mergeAggregate (nSamples : Dict String Nat) (group : String) (taskList : List String)
    (item : Aggregate) (results : Results Number) (filter : String) :
    Except ShardError (Results Number) := do
  let key := resultKey item.metric filter
  let present := taskList.filter fun task => (cellOf results task key).isSome
  if present.isEmpty then throw (.noLeafReports group key)
  let metrics ← present.mapM fun task => reportedNumber results task key
  let sizes := present.map fun task => (nSamples.lookup task).getD 0
  let weights := if item.weightBySize then sizes else List.replicate sizes.length 1
  let mean := (List.zipWith (fun metric (weight : Nat) => metric * (weight : Number)) metrics
    weights).sum / (weights.sum : Number)
  let results := writeCell results group key (.number mean)
  let stderrs := present.map fun task =>
    ((cellOf results task (stderrKey item.metric filter)).getD (.text "N/A"))
  let stderr : Cell Number :=
    match stderrs.mapM cellNumber with
    | none => .text "N/A"
    | some stderrs =>
      if sizes.sum ≤ sizes.length then .text "N/A"
      else
        let pooled := (List.zipWith (fun (n : Nat) stderr => ((n : Number) - 1) * stderr ^ 2 * n)
          sizes stderrs).sum / ((sizes.sum : Number) - sizes.length)
        .number (sqrt (pooled / sizes.sum))
  return writeCell results group (stderrKey item.metric filter) stderr

def mergeGroup (plan : Plan) (nSamples : Dict String Nat) (results : Results Number)
    (group : String × GroupInfo) : Except ShardError (Results Number) := do
  if group.2.aggregateMetricList.isEmpty then return results
  let taskList ← leavesOf plan (plan.groups.length + 1) [] group.1
  group.2.aggregateMetricList.foldlM (fun results item =>
    item.filters.foldlM (mergeAggregate sqrt nSamples group.1 taskList item) results) results

structure Merged (Number : Type) where
  results : Results Number
  nSamples : Dict String Nat
  docHashes : Dict String String

/-- Joins the rows of all shards to the results of the whole task. -/
def mergeShardSamples (plan : Plan) (count : Int) (shardRows : ShardRows Number) :
    Except ShardError (Merged Number) := do
  if shardRows.keys.insertionSort (· ≤ ·) ≠ rangeTo count then throw (.logs shardRows.keys)
  let leaves ← (sortedByName plan.leaves).mapM fun leaf => do
    let entry ← mergeLeaf sqrt sha count.toNat shardRows leaf.1 leaf.2
    return (leaf.1, entry)
  let nSamples := Dict.ofList
    ((sortedByName plan.leaves).map fun leaf => (leaf.1, (leafDocIds leaf.2).length))
  let results ← (sortedByName plan.groups).foldlM (mergeGroup sqrt plan nSamples)
    (.ofList (leaves.map fun leaf => (leaf.1, leaf.2.1)))
  return { results, nSamples, docHashes := .ofList (leaves.map fun leaf => (leaf.1, leaf.2.2)) }

end Merge

end InferenceServer.Shards
