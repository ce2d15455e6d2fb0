import InferenceServer.Shards.CompleteRuns
import InferenceServer.Shards.MergedGroups
import Mathlib.Tactic.IntervalCases

/-! A task that is run in shards has the results of the task that is run as a whole, and
what is merged is one complete run. -/
namespace InferenceServer.Shards
open Machine

section Whole

variable {Number : Type} [Field Number] {plan : Plan} {leaf group metric filter : String}
  {info : LeafInfo}

/-- The metrics and filters that a task or a group has. -/
def Choice.Named (choice : Choice Number plan) (metric filter : String) : Prop :=
  (∃ leaf info, plan.leaves.lookup leaf = some info ∧ metric ∈ info.aggregations.keys ∧
    filter ∈ choice.filters leaf) ∨
  ∃ group info, plan.groups.lookup group = some info ∧
    ∃ write ∈ info.writes, write.1.metric = metric ∧ write.2 = filter

/-- A task has the metric and the filter. -/
def Choice.reports (choice : Choice Number plan) (metric filter leaf : String) : Bool :=
  metric ∈ ((plan.leaves.lookup leaf).map fun info => info.aggregations.keys).getD [] ∧
    filter ∈ choice.filters leaf

/-- The values of a metric over all docs of a task. -/
def Choice.values (choice : Choice Number plan) (metric filter leaf : String) : List Number :=
  (((plan.leaves.lookup leaf).map leafDocIds).getD []).map fun doc =>
    (choice.row leaf filter doc).number metric

/-- A plan that the shards can be of: every task has docs, each once, and every aggregate of
a group is of a metric and filter that a task below the group has. -/
structure Shardable (choice : Choice Number plan) : Prop where
  accepted : checkPlan plan = .ok ()
  docs : ∀ leaf info, plan.leaves.lookup leaf = some info →
    leafDocIds info ≠ [] ∧ (leafDocIds info).Nodup
  nested : Nested plan
  reported : ∀ group info, plan.groups.lookup group = some info → ∀ tasks,
    Flattens plan info.subtasks tasks → ∀ write ∈ info.writes,
      ∃ task ∈ tasks, choice.reports write.1.metric write.2 task

/-- The results of a task: the mean and the standard error of every metric and filter. -/
def LeafResults (sqrt : Number → Number) (choice : Choice Number plan) (results : Results Number) :
    Prop :=
  ∀ leaf metric filter, choice.reports metric filter leaf →
    cellOf results leaf (resultKey metric filter) =
      some (.number (mean (choice.values metric filter leaf))) ∧
    cellOf results leaf (stderrKey metric filter) =
      some (stderrCell sqrt (choice.values metric filter leaf))

/-- The results of every task of the plan. -/
def wholeLeaves (sqrt : Number → Number) (sha : String → String) (choice : Choice Number plan) :
    List (String × Entry Number × String) :=
  (sortedByName plan.leaves).map fun leaf =>
    (leaf.1, wholeLeaf sqrt sha (leafDocIds leaf.2) ((sortedByName leaf.2.aggregations).map Prod.fst)
      (choice.filters leaf.1) (choice.row leaf.1))

def leafResults (sqrt : Number → Number) (sha : String → String) (choice : Choice Number plan) :
    Results Number :=
  .ofList ((wholeLeaves sqrt sha choice).map fun leaf => (leaf.1, leaf.2.1))

variable {sqrt : Number → Number} {sha : String → String} {choice : Choice Number plan}

omit [Field Number] in
theorem reports_iff (held : plan.leaves.lookup leaf = some info) :
    choice.reports metric filter leaf ↔
      metric ∈ info.aggregations.keys ∧ filter ∈ choice.filters leaf := by
  rw [Choice.reports, held, decide_eq_true_eq]
  rfl

theorem lookup_leafResults (held : plan.leaves.lookup leaf = some info) :
    (leafResults sqrt sha choice).lookup leaf =
      some (wholeLeaf sqrt sha (leafDocIds info) ((sortedByName info.aggregations).map Prod.fst)
        (choice.filters leaf) (choice.row leaf)).1 := by
  refine Dict.lookup_update_of_mem ?_ ?_
  · rw [wholeLeaves, List.map_map, List.map_map]
    exact nodup_sortedByName plan.leaves
  · rw [wholeLeaves, List.map_map]
    exact List.mem_map.mpr ⟨(leaf, info), mem_sortedByName.mpr held, rfl⟩

theorem mem_metrics {info : LeafInfo} :
    metric ∈ (sortedByName info.aggregations).map Prod.fst ↔ metric ∈ info.aggregations.keys := by
  rw [map_fst_sortedByName]
  exact List.mem_insertionSort _

omit [Field Number] in
theorem named_of_leaf (held : plan.leaves.lookup leaf = some info) :
    ∀ metric ∈ (sortedByName info.aggregations).map Prod.fst, ∀ filter ∈ choice.filters leaf,
      choice.Named metric filter :=
  fun _ measured _ filtered => .inl ⟨leaf, info, held, mem_metrics.mp measured, filtered⟩

theorem values_eq (held : plan.leaves.lookup leaf = some info) : choice.values metric filter leaf =
      ((leafDocIds info).map (choice.row leaf filter)).map (Row.number · metric) := by
  rw [Choice.values, held, List.map_map]
  rfl

omit [Field Number] in
/-- A task that reports a metric is a task of the plan. -/
theorem exists_info_of_reports (reported : choice.reports metric filter leaf) :
    ∃ info, plan.leaves.lookup leaf = some info := by
  rw [Choice.reports, decide_eq_true_eq] at reported
  cases held : plan.leaves.lookup leaf with
  | none =>
    rw [held] at reported
    cases reported.1
  | some info => exact ⟨info, rfl⟩

theorem leafResults_cells (separate : Separate choice.Named) :
    LeafResults sqrt choice (leafResults sqrt sha choice) := by
  intro leaf metric filter reported
  obtain ⟨info, held⟩ := exists_info_of_reports reported
  obtain ⟨measured, filtered⟩ := (reports_iff held).mp reported
  have named := @named_of_leaf _ plan leaf info choice held
  unfold cellOf
  rw [lookup_leafResults held, Option.getD_some, values_eq held]
  exact ⟨wholeLeaf_result sqrt sha separate named (mem_metrics.mpr measured) filtered,
    wholeLeaf_stderr sqrt sha separate named (mem_metrics.mpr measured) filtered⟩

theorem leafResults_reporting (separate : Separate choice.Named)
    (named : choice.Named metric filter) :
    Reporting (leafResults sqrt sha choice) choice.reports
      (fun metric filter leaf => mean (choice.values metric filter leaf)) metric filter
      plan.leaves.keys where
  present leaf member := by
    obtain ⟨info, held⟩ := Dict.mem_keys_iff_lookup.mp member
    unfold cellOf
    rw [lookup_leafResults held, Option.getD_some, Bool.eq_iff_iff, reports_iff held, ← mem_metrics]
    exact wholeLeaf_reports sqrt sha separate (named_of_leaf held) named
  number leaf _ reported := (leafResults_cells separate leaf metric filter reported).1

def wholeSamples (plan : Plan) : Dict String Nat :=
  .ofList ((sortedByName plan.leaves).map fun leaf => (leaf.1, (leafDocIds leaf.2).length))

/-- The merge of the rows of all shards is a merge of the groups over the whole tasks. -/
theorem mergeShardSamples_eq (shardable : Shardable choice) {count : Nat} (positive : 0 < count)
    {shardRows : ShardRows Number} (logs : Logs choice count shardRows) :
    mergeShardSamples sqrt sha plan count shardRows =
      (sortedByName plan.groups).foldlM (mergeGroup sqrt plan (wholeSamples plan))
        (leafResults sqrt sha choice) >>= fun results =>
      .ok { results, nSamples := wholeSamples plan,
            docHashes := .ofList ((wholeLeaves sqrt sha choice).map fun leaf =>
              (leaf.1, leaf.2.2)) } := by
  have keys : shardRows.keys.insertionSort (· ≤ ·) = rangeTo count := by
    refine List.Perm.eq_of_pairwise' (r := (· ≤ ·)) (List.pairwise_insertionSort _ _) ?_
      ((List.perm_insertionSort _ _).trans logs.shards)
    rw [rangeTo, Int.toNat_natCast, List.pairwise_map]
    exact List.pairwise_lt_range.imp fun before => Int.ofNat_le.mpr (Nat.le_of_lt before)
  have leaves : ((sortedByName plan.leaves).mapM fun leaf => do
      let entry ← mergeLeaf sqrt sha (count : Int).toNat shardRows leaf.1 leaf.2
      return (leaf.1, entry)) = .ok (wholeLeaves sqrt sha choice) := by
    refine mapM_ok fun leaf member => ?_
    have held := mem_sortedByName.mp (show (leaf.1, leaf.2) ∈ _ from member)
    obtain ⟨any, docs⟩ := shardable.docs leaf.1 leaf.2 held
    rw [Int.toNat_natCast, logs.mergeLeaf sqrt sha positive held docs any]
    rfl
  unfold mergeShardSamples
  simp only [keys, ne_eq, not_true_eq_false, ↓reduceIte]
  rw [leaves]
  rfl

/-- The docs of the shards of every task are apart and are together all docs of the task. -/
def Partitions (plan : Plan) (count : Nat) : Prop :=
  ∀ leaf info, plan.leaves.lookup leaf = some info → ∃ docs : Nat → List Int,
    (∀ index, ∃ samples, shardSamples plan index count = .ok samples ∧
      samples.lookup leaf = some (docs index) ∧ (docs index).Nodup) ∧
    (∀ index < count, ∀ other < count, index ≠ other → (docs index).Disjoint (docs other)) ∧
    ∀ doc, doc ∈ leafDocIds info ↔ ∃ index < count, doc ∈ docs index

omit [Field Number] in
theorem Shardable.partitions (shardable : Shardable choice) {count : Nat} (positive : 0 < count) :
    Partitions plan count := by
  intro leaf info held
  have distinct := (shardable.docs leaf info held).2
  refine ⟨fun index => shardDocIds (leafDocIds info) index count, fun index => ?_, ?_, ?_⟩
  · have made := (@shardSamples_eq_ok_iff plan index count _).mpr ⟨shardable.accepted, rfl⟩
    exact ⟨_, made, lookup_shardSamples made held, nodup_shardDocIds distinct⟩
  · exact fun index here other there different => disjoint_shardDocIds distinct here there different
  · exact fun doc => mem_docIds_iff positive

/-- What a merge of the whole task is: the mean and the standard error of every task over all
its docs, and the mean of every group over the tasks below it. -/
structure WholeResults (sqrt : Number → Number) (choice : Choice Number plan)
    (merged : Merged Number) : Prop where
  leaves : LeafResults sqrt choice merged.results
  sizes : ∀ leaf info, plan.leaves.lookup leaf = some info →
    merged.nSamples.lookup leaf = some (leafDocIds info).length
  groups : ∀ group info, plan.groups.lookup group = some info →
    Averages plan merged.nSamples choice.reports
      (fun metric filter leaf => mean (choice.values metric filter leaf)) merged.results group info

theorem Shardable.merged (shardable : Shardable choice) (separate : Separate choice.Named) :
    ∃ merged, (∀ count shardRows, 0 < count → Logs choice count shardRows →
        mergeShardSamples sqrt sha plan count shardRows = .ok merged) ∧
      WholeResults sqrt choice merged := by
  obtain ⟨results, ran, frame, averages⟩ := mergeGroups_ok sqrt (wholeSamples plan) separate
    shardable.nested
    (fun group info held write member => .inr ⟨group, info, held, write, member, rfl, rfl⟩)
    shardable.reported
    fun metric filter named => @leafResults_reporting _ _ plan metric filter sqrt sha choice separate
      named
  refine ⟨⟨results, wholeSamples plan, .ofList ((wholeLeaves sqrt sha choice).map fun leaf =>
    (leaf.1, leaf.2.2))⟩, fun count shardRows positive logs => ?_,
    fun leaf metric filter reported => ?_, fun leaf info held => ?_, averages⟩
  · rw [mergeShardSamples_eq shardable positive logs, ran]
    rfl
  · obtain ⟨info, held⟩ := exists_info_of_reports reported
    have same := frame leaf fun member => shardable.nested.apart leaf member
      (Dict.mem_keys_iff_lookup.mpr ⟨info, held⟩)
    rw [cellOf_congr same, cellOf_congr same]
    exact leafResults_cells separate leaf metric filter reported
  · refine Dict.lookup_update_of_mem ?_ ?_
    · rw [List.map_map]
      exact nodup_sortedByName plan.leaves
    · exact List.mem_map.mpr ⟨(leaf, info), mem_sortedByName.mpr held, rfl⟩

end Whole

/-- A sharded run has the results of a run of the whole task, the same for every number of
shards; and what is merged is one complete run of one plan, with every reported metric
computed from its rows. -/
theorem sharded_equals_whole {Number : Type} [Field Number] (sqrt : Number → Number)
    (sha : String → String) (dumps : Option SortedPlan → String) :
    (∀ (plan : Plan) (choice : Choice Number plan), Shardable choice →
      (∀ count, 0 < count → Partitions plan count) ∧
      (Separate choice.Named → ∃ merged,
        (∀ count shardRows, 0 < count → Logs choice count shardRows →
          mergeShardSamples sqrt sha plan count shardRows = .ok merged) ∧
        WholeResults sqrt choice merged)) ∧
    (Function.Injective sha → Function.Injective dumps →
      ∀ (attempts : List (Attempt Number)) task docIds document,
        merge sqrt sha dumps attempts task docIds = .ok document →
        ∃ plan count shardRows merged, checkPlan plan = .ok () ∧
          checkConfiguredDocIds plan task docIds = .ok () ∧
          OneRun sha (findShardRuns attempts) plan count shardRows ∧
          mergeShardSamples sqrt sha plan count shardRows = .ok merged ∧
          Recomputed merged.results document.results ∧
          Recomputed merged.results document.groups) := by
  refine ⟨fun plan choice shardable => ⟨fun count positive => shardable.partitions positive,
    fun separate => shardable.merged separate⟩, ?_⟩
  intro collisionFree readable attempts task docIds document done
  exact merge_eq_ok collisionFree readable done

/-- A task of two docs, and a group of it. -/
def twoDocPlan (metrics : List (String × String)) (groups : List (String × GroupInfo)) : Plan where
  leaves := .ofList [("task", { nDocs := 2, aggregations := .ofList metrics })]
  groups := .ofList groups

def twoDocRow (doc : Int) : Row ℚ where
  docId := some doc
  values := .ofList [("acc", some (2 * doc)), ("acc_stderr", some 5)]

def twoDocRows : ShardRows ℚ :=
  .ofList [(0, .ofList [("task", [twoDocRow 0])]), (1, .ofList [("task", [twoDocRow 1])])]

theorem lookup_twoDocPlan {metrics : List (String × String)} {groups : List (String × GroupInfo)}
    {leaf : String} {info : LeafInfo}
    (held : (twoDocPlan metrics groups).leaves.lookup leaf = some info) :
    leaf = "task" ∧ info = { nDocs := 2, aggregations := .ofList metrics } := by
  have member := Dict.mem_of_mem_ofList (Dict.mem_entries_iff.mpr held)
  rw [List.mem_singleton] at member
  exact Prod.mk.inj member

def twoDocChoice (metrics : List (String × String)) (groups : List (String × GroupInfo))
    (known : ∀ metric ∈ metrics, metric.1 = "acc" ∨ metric.1 = "acc_stderr") :
    Choice ℚ (twoDocPlan metrics groups) where
  filters _ := ["none"]
  row _ _ doc := twoDocRow doc
  filtered _ _ _ := List.cons_ne_nil _ _
  distinct _ _ _ := List.nodup_singleton _
  keyed _ _ _ filter member doc _ := by
    rw [List.mem_singleton.mp member]
    rfl
  measured leaf info held _ _ doc _ metric member := by
    obtain ⟨_, rfl⟩ := lookup_twoDocPlan held
    obtain ⟨entry, inside, rfl⟩ := Dict.mem_keys_ofList.mp member
    rcases known entry inside with same | same
    · rw [same]
      exact ⟨2 * doc, rfl⟩
    · rw [same]
      exact ⟨5, rfl⟩

section Examples

variable {metrics : List (String × String)} {groups : List (String × GroupInfo)}
  {known : ∀ metric ∈ metrics, metric.1 = "acc" ∨ metric.1 = "acc_stderr"}

section

variable (accepted : checkPlan (twoDocPlan metrics groups) = .ok ())
include accepted

theorem twoDocLogs :
    Logs (twoDocChoice metrics groups known) 2 twoDocRows where
  shards := by decide
  rows index inside := by
    refine ⟨_, shardSamples_eq_ok_iff.mpr ⟨accepted, rfl⟩, fun leaf member => ?_⟩
    obtain ⟨info, held⟩ := Dict.mem_keys_iff_lookup.mp member
    obtain ⟨rfl, rfl⟩ := lookup_twoDocPlan held
    interval_cases index
    · exact List.Perm.of_eq rfl
    · exact List.Perm.of_eq rfl

theorem twoDocShardable (nested : Nested (twoDocPlan metrics groups))
    (reported : ∀ group info, (twoDocPlan metrics groups).groups.lookup group = some info →
      ∀ tasks, Flattens (twoDocPlan metrics groups) info.subtasks tasks → ∀ write ∈ info.writes,
        ∃ task ∈ tasks, (twoDocChoice metrics groups known).reports write.1.metric write.2 task) :
    Shardable (twoDocChoice metrics groups known) where
  accepted := accepted
  docs leaf info held := by
    obtain ⟨rfl, rfl⟩ := lookup_twoDocPlan held
    exact show ([0, 1] : List Int) ≠ [] ∧ [0, 1].Nodup from ⟨by decide, by decide⟩
  nested := nested
  reported := reported

end

/-- The group of the examples. -/
def allTasks : String × GroupInfo :=
  ("all", { subtasks := ["task"], aggregateMetricList := [{ metric := "acc" }] })

theorem twoDocNested (known : ∀ group ∈ groups, group = allTasks) :
    Nested (twoDocPlan metrics groups) := by
  have below : ∀ group info, (twoDocPlan metrics groups).groups.lookup group = some info →
      group = "all" ∧ info = allTasks.2 := by
    intro group info held
    have member := Dict.mem_of_mem_ofList (Dict.mem_entries_iff.mpr held)
    exact Prod.mk.inj (known _ member)
  have flat : ∀ inner outer, ¬ Within (twoDocPlan metrics groups) inner outer := by
    rintro inner outer ⟨info, held, member, inside⟩
    obtain ⟨_, rfl⟩ := below outer info held
    obtain ⟨other, found⟩ := Dict.mem_keys_iff_lookup.mp inside
    rw [(below inner other found).1] at member
    exact absurd member (by decide)
  refine ⟨fun group cycle => ?_, fun group info held task member => .inr ?_, fun group member => ?_⟩
  · cases cycle with
    | single step => exact flat _ _ step
    | tail _ step => exact flat _ _ step
  · obtain ⟨_, rfl⟩ := below group info held
    exact member
  · obtain ⟨info, held⟩ := Dict.mem_keys_iff_lookup.mp member
    rw [(below group info held).1]
    exact show "all" ∉ ["task"] by decide

theorem twoDocNamed {metric filter : String}
    (named : (twoDocChoice [("acc", "mean")] [allTasks] (by decide)).Named metric filter) :
    metric = "acc" ∧ filter = "none" := by
  rcases named with ⟨leaf, info, held, measured, filtered⟩ | ⟨group, info, held, write, member, rfl, rfl⟩
  · obtain ⟨_, rfl⟩ := lookup_twoDocPlan held
    obtain ⟨entry, inside, rfl⟩ := Dict.mem_keys_ofList.mp measured
    rw [List.mem_singleton.mp inside]
    exact ⟨rfl, List.mem_singleton.mp filtered⟩
  · have inside := Dict.mem_of_mem_ofList (Dict.mem_entries_iff.mpr held)
    obtain ⟨_, rfl⟩ := Prod.mk.inj (List.mem_singleton.mp inside)
    rw [List.mem_singleton.mp member]
    exact ⟨rfl, rfl⟩

theorem sharded_equals_whole_two_docs : ∃ merged,
    mergeShardSamples id id (twoDocPlan [("acc", "mean")] [allTasks]) 2 twoDocRows = .ok merged ∧
      cellOf merged.results "task" (resultKey "acc" "none") = some (.number 1) ∧
      cellOf merged.results "task" (stderrKey "acc" "none") = some (.number 1) := by
  have accepted : checkPlan (twoDocPlan [("acc", "mean")] [allTasks]) = .ok () := rfl
  have shardable := @twoDocShardable _ [allTasks] (by decide) accepted
    (twoDocNested fun _ => List.mem_singleton.mp) fun group info held tasks flattens write member => by
      obtain ⟨_, rfl⟩ := Prod.mk.inj (List.mem_singleton.mp
        (Dict.mem_of_mem_ofList (Dict.mem_entries_iff.mpr held)))
      have single : Flattens (twoDocPlan [("acc", "mean")] [allTasks]) ["task"] ["task"] :=
        .leaf (by decide) (by decide) .nil
      rw [flattens.unique single, List.mem_singleton.mp member]
      exact ⟨"task", List.mem_singleton_self _, rfl⟩
  have separate : Separate (twoDocChoice [("acc", "mean")] [allTasks] (by decide)).Named :=
    ⟨fun here there _ => by
        rw [(twoDocNamed here).1, (twoDocNamed here).2, (twoDocNamed there).1, (twoDocNamed there).2]
        exact ⟨rfl, rfl⟩,
      fun here there _ => by
        rw [(twoDocNamed here).1, (twoDocNamed here).2, (twoDocNamed there).1, (twoDocNamed there).2]
        exact ⟨rfl, rfl⟩,
      fun here there => by
        rw [(twoDocNamed here).1, (twoDocNamed here).2, (twoDocNamed there).1, (twoDocNamed there).2]
        decide⟩
  obtain ⟨merged, ran, whole⟩ :=
    ((sharded_equals_whole id id fun _ => "").1 _ _ shardable).2 separate
  have task : (twoDocChoice [("acc", "mean")] [allTasks] (by decide)).reports "acc" "none" "task" := by
    decide
  obtain ⟨average, error⟩ := whole.leaves "task" "acc" "none" task
  refine ⟨merged, ran 2 _ (by decide) (twoDocLogs accepted), average.trans ?_, error.trans ?_⟩
  · decide +kernel
  · decide +kernel

/-- The mean of a metric is under the key of the standard error of another. -/
theorem stderr_key_overwritten : ∃ choice : Choice ℚ
      (twoDocPlan [("acc", "mean"), ("acc_stderr", "mean")] []),
    Shardable choice ∧ Logs choice 2 twoDocRows ∧
    ∃ merged, mergeShardSamples id id (twoDocPlan [("acc", "mean"), ("acc_stderr", "mean")] []) 2
        twoDocRows = .ok merged ∧
      cellOf merged.results "task" (stderrKey "acc" "none") = some (.number 5) ∧
      stderrCell id (choice.values "acc" "none" "task") = .number 1 := by
  have accepted : checkPlan (twoDocPlan [("acc", "mean"), ("acc_stderr", "mean")] []) = .ok () := rfl
  have shardable := @twoDocShardable _ [] (by decide) accepted (twoDocNested nofun) nofun
  have logs := @twoDocLogs _ [] (by decide) accepted
  refine ⟨_, shardable, logs, _, mergeShardSamples_eq shardable (by decide) logs, ?_, ?_⟩
  · decide +kernel
  · decide +kernel

end Examples

end InferenceServer.Shards
