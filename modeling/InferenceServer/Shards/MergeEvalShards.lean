import InferenceServer.Shards.EvalShard

/-! The runs of the shards of a task are checked to be one complete run of one plan,
joined, and written to the results document of the whole task. -/
namespace InferenceServer.Shards
open Machine

/-- What a shard writes next to its results. -/
structure ShardRecord where
  version : Option Int := none
  taskName : Option String := none
  shard : Option String := none
  shardIndex : Option Int := none
  shardCount : Option Int := none
  plan : Option Plan := none
  planSha : Option String := none
  leafIndicesSha : Dict String String := .empty
  leafSampleCounts : Dict String Nat := .empty
  expectedDocIdsSha : Option (Dict String String) := none
  expectedDocCounts : Dict String Nat := .empty
  provenance : Option (Dict String String) := none
  runId : Option String := none

/-- A plan with its keys sorted. -/
abbrev SortedPlan :=
  List (String × LeafInfo × List (String × String)) × List (String × GroupInfo)

def Plan.sorted (plan : Plan) : SortedPlan :=
  ((sortedByName plan.leaves).map fun leaf =>
      (leaf.1, { leaf.2 with aggregations := .empty }, sortedByName leaf.2.aggregations),
    sortedByName plan.groups)

def shardRecordVersion : Int := 2

def identityKeys : List String :=
  ["hf_model_repo", "ttis_ref", "package_manifest_sha256", "docker_image", "eval_command_sha",
    "device", "model_status"]

/-- The sorted ids, each once. -/
def sortedIds (ids : List Int) : List Int := ids.dedup.insertionSort (· ≤ ·)

section Records

variable (sha : String → String) (dumps : Option SortedPlan → String)

def indicesSha (indices : List Int) : String :=
  sha ("[" ++ ", ".intercalate (indices.map toString) ++ "]")

def planSha (plan : Option Plan) : String := sha (dumps (plan.map Plan.sorted))

def plannedSets (plan : Option Plan) : Dict String String :=
  .ofList ((plan.elim [] fun plan => sortedByName plan.leaves).map fun leaf =>
    (leaf.1, indicesSha sha (leafDocIds leaf.2)))

def shardRecord (taskName : String) (plan : Plan) (index count : Nat)
    (provenance : Dict String String) (runId : Option String) : Except ShardError ShardRecord := do
  let samples ← shardSamples plan index count
  return {
    version := shardRecordVersion
    taskName
    shard := toString index ++ "/" ++ toString count
    shardIndex := some (index : Int)
    shardCount := some (count : Int)
    plan
    planSha := planSha sha dumps plan
    leafIndicesSha := .ofList (samples.entries.map fun leaf => (leaf.1, indicesSha sha leaf.2))
    leafSampleCounts := .ofList (samples.entries.map fun leaf => (leaf.1, leaf.2.length))
    expectedDocIdsSha := some (plannedSets sha plan)
    expectedDocCounts := .ofList ((sortedByName plan.leaves).map fun leaf =>
      (leaf.1, (leafDocIds leaf.2).length))
    provenance
    runId }

/-- `(record.get("provenance") or \x7b\x7d).get(key)` -/
def ShardRecord.identity (record : ShardRecord) (key : String) : Option String :=
  (record.provenance.getD .empty).lookup key

def sameSets : Option (Dict String String) → Option (Dict String String) → Bool
  | none, none => true
  | some first, some second => first.same second
  | _, _ => false

def problemUnless (holds : Bool) (problem : RecordProblem) : List RecordProblem :=
  if holds then [] else [problem]

def recordProblems (first record : ShardRecord) : List RecordProblem :=
  problemUnless (record.version = some shardRecordVersion)
    (.version record.shard record.version) ++
  problemUnless (record.taskName = first.taskName) (.differs record.shard "task_name") ++
  problemUnless (record.shardCount = first.shardCount) (.differs record.shard "shard_count") ++
  problemUnless (record.planSha = first.planSha) (.differs record.shard "plan_sha") ++
  problemUnless (sameSets record.expectedDocIdsSha first.expectedDocIdsSha)
    (.differs record.shard "expected_doc_ids_sha") ++
  identityKeys.flatMap (fun key =>
    problemUnless (record.identity key = first.identity key) (.differs record.shard key)) ++
  problemUnless (some (planSha sha dumps record.plan) = record.planSha) (.plan record.shard) ++
  problemUnless (sameSets (some (plannedSets sha record.plan)) record.expectedDocIdsSha)
    (.expectedDocs record.shard)

/-- The shards that are missing, and those that are there twice. -/
def indexProblems (count : Option Int) (indices : List Int) : List RecordProblem :=
  match count with
  | none => []
  | some count =>
    if indices = rangeTo count then []
    else [.indices ((rangeTo count).filter (· ∉ indices))
      (sortedIds (indices.filter fun index => 1 < indices.count index))]

/-- An index or a count that is taken for an integer. -/
def required : Option Int → Except ShardError Int
  | none => .error .notAnInteger
  | some value => .ok value

/-- Checks that the records are one complete set, and returns their plan. -/
def checkShardSet (records : List ShardRecord) : Except ShardError Plan := do
  match records with
  | [] => throw (.records [])
  | first :: _ =>
    let indices ← records.mapM fun record => required record.shardIndex
    let problems := records.flatMap (recordProblems sha dumps first) ++
      indexProblems first.shardCount (indices.insertionSort (· ≤ ·))
    if !problems.isEmpty then throw (.records problems)
    match first.plan with
    | none => throw .noPlan
    | some plan =>
      checkPlan plan
      return plan

/-- Checks that the shards are of the docs that are configured for the task. -/
def checkConfiguredDocIds (plan : Plan) (taskName : String) (docIds : Option (List Int)) :
    Except ShardError Unit :=
  let planned : Dict String (List Int) :=
    .ofList (plan.leaves.entries.filterMap fun leaf => leaf.2.docIds.map fun ids => (leaf.1, ids))
  let expected : Dict String (List Int) :=
    docIds.elim .empty fun ids => .ofList [(taskName, sortedIds ids)]
  if planned.same expected then .ok () else .error (.configuredDocs taskName)

end Records

variable {Number : Type} (recomputed section_ : Results Number)

/-- A results file of the harness; the docs of the dataset as it saw them. -/
structure ResultsDocument (Number : Type) where
  text : String := ""
  results : Results Number := .empty
  groups : Results Number := .empty
  originals : Dict String (Option Int) := .empty

/-- A directory with the record of a shard, the results files and the logs of a task. -/
structure Attempt (Number : Type) where
  path : String := ""
  recordText : String := ""
  record : ShardRecord
  resultsFiles : List (ResultsDocument Number)
  samplesFiles : String → List (List (Row Number))

/-- The attempts that have written results. -/
def findShardRuns (attempts : List (Attempt Number)) : List (Attempt Number) :=
  attempts.filter fun attempt => !attempt.resultsFiles.isEmpty

def resultsFile (attempt : Attempt Number) : Except ShardError (ResultsDocument Number) :=
  match attempt.resultsFiles with
  | [file] => .ok file
  | files => .error (.resultFiles files.length)

def samplesRows (attempt : Attempt Number) (leaf : String) : Except ShardError (List (Row Number)) :=
  match attempt.samplesFiles leaf with
  | [rows] => .ok rows
  | files => .error (.sampleLogs leaf files.length)

structure Source where
  shard : Option String
  runId : Option String
  attemptDir : String
  resultsSha256 : String
  recordSha256 : String

structure MergeInfo where
  taskName : String
  shardCount : Option Int
  planSha : Option String
  expectedDocCounts : Dict String Nat
  provenance : Option (Dict String String)
  docHashes : Dict String String
  sources : List Source
  inferenceErrorSamples : Nat
  samplesLogged : Nat

structure MergedDocument (Number : Type) where
  results : Results Number
  groups : Results Number
  nSamples : Dict String (Int × Nat)
  evalShardMerge : MergeInfo

/-- What is read of the run of a shard. -/
structure RunFiles (Number : Type) where
  index : Int
  rows : Dict String (List (Row Number))
  document : ResultsDocument Number
  source : Source

/-- Checks that the harness saw as many docs as the plan says. -/
def checkOriginals (plan : Plan) (document : ResultsDocument Number) : Except ShardError Unit :=
  let other := plan.leaves.entries.findSome? fun leaf =>
    match (document.originals.lookup leaf.1).join with
    | some original => if original = leaf.2.nDocs then none else some (leaf.1, original)
    | none => none
  match other with
  | some (leaf, original) => .error (.otherDataset leaf original)
  | none => .ok ()

def readRun (sha : String → String) (plan : Plan) (run : Attempt Number) :
    Except ShardError (RunFiles Number) := do
  let index ← required run.record.shardIndex
  let rows ← plan.leaves.entries.mapM fun leaf => do return (leaf.1, ← samplesRows run leaf.1)
  let document ← resultsFile run
  checkOriginals plan document
  return {
    index
    rows := .ofList rows
    document
    source := {
      shard := run.record.shard
      runId := run.record.runId
      attemptDir := run.path
      resultsSha256 := sha document.text
      recordSha256 := sha run.recordText } }

/-- The keys of the metrics of an entry. -/
def reportedKeys (entry : Entry Number) : List String := entry.keys.filter (',' ∈ ·.toList)

/-- Replaces an entry that has metrics by what the merge computes for its name. -/
def replaceEntry (named : String × Entry Number) : Except ShardError (Results Number) :=
  let reported := reportedKeys named.2
  if reported.isEmpty then .ok section_
  else
    let metrics := (recomputed.lookup named.1).getD .empty
    let missing := (reported.filter (· ∉ metrics.keys)).insertionSort (· ≤ ·)
    if missing.isEmpty then
      .ok (section_.set named.1
        (metrics.set "alias" ((named.2.lookup "alias").getD (.text named.1))))
    else .error (.notRecomputed named.1 missing)

def replaceSection : Except ShardError (Results Number) :=
  section_.entries.foldlM (replaceEntry recomputed) section_

def inferenceErrorMarker : String := "__INFERENCE_ERROR__"

variable [Field Number] (sqrt : Number → Number) (sha : String → String)
  (dumps : Option SortedPlan → String)

/-- Checks the runs of the shards and merges them to the results of the whole task. -/
def merge (attempts : List (Attempt Number)) (task : String) (docIds : Option (List Int)) :
    Except ShardError (MergedDocument Number) := do
  let runs := findShardRuns attempts
  match runs with
  | [] => throw (.noCompletedShard task)
  | first :: _ =>
    let plan ← checkShardSet sha dumps (runs.map Attempt.record)
    checkConfiguredDocIds plan task docIds
    let ordered := runs.insertionSort fun run other =>
      run.record.shardIndex.getD 0 ≤ other.record.shardIndex.getD 0
    let read ← ordered.mapM (readRun sha plan)
    let shardRows : ShardRows Number := .ofList (read.map fun run => (run.index, run.rows))
    let count ← required first.record.shardCount
    let merged ← mergeShardSamples sqrt sha plan count shardRows
    let logged := shardRows.values.flatMap fun rows => rows.values.flatten
    let template := (read.head?.map RunFiles.document).getD {}
    let results ← replaceSection merged.results template.results
    let groups ← replaceSection merged.results template.groups
    return {
      results
      groups
      nSamples := .ofList (merged.nSamples.entries.map fun leaf =>
        (leaf.1, ((plan.leaves.lookup leaf.1).elim 0 LeafInfo.nDocs, leaf.2)))
      evalShardMerge := {
        taskName := task
        shardCount := first.record.shardCount
        planSha := first.record.planSha
        expectedDocCounts := .ofList (plan.leaves.entries.map fun leaf =>
          (leaf.1, (leafDocIds leaf.2).length))
        provenance := first.record.provenance
        docHashes := merged.docHashes
        sources := read.map RunFiles.source
        inferenceErrorSamples := (logged.filter fun row =>
          inferenceErrorMarker.toList <:+: row.answers.toList).length
        samplesLogged := logged.length } }

end InferenceServer.Shards
