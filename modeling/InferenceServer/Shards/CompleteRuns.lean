import InferenceServer.Machine.Json
import InferenceServer.Shards.MergeEvalShards
import InferenceServer.Shards.MergedLeaves

/-! A merge is refused unless the runs are one complete run of one plan: every shard once,
one identity, and one row for every doc of every filter that a task has. -/
namespace InferenceServer.Shards
open Machine

variable {Number : Type} {sha : String → String} {dumps : Option SortedPlan → String}
  {first record : ShardRecord} {records : List ShardRecord} {plan : Plan} {leaf : String}
  {info : LeafInfo}

/-- The record is of the run of another record. -/
structure SameRun (sha : String → String) (dumps : Option SortedPlan → String)
    (first record : ShardRecord) : Prop where
  shardCount : record.shardCount = first.shardCount
  planSha : record.planSha = first.planSha
  identity : ∀ key ∈ identityKeys, record.identity key = first.identity key
  plan : some (Shards.planSha sha dumps record.plan) = record.planSha
  expectedDocs : sameSets (some (plannedSets sha record.plan)) record.expectedDocIdsSha

theorem problemUnless_eq_nil_iff {holds : Bool} {problem : RecordProblem} :
    problemUnless holds problem = [] ↔ holds = true := by
  cases holds with
  | false => exact iff_of_false (List.cons_ne_nil _ _) nofun
  | true => exact iff_of_true rfl rfl

theorem sameRun_of_no_problem (none_ : recordProblems sha dumps first record = []) :
    SameRun sha dumps first record := by
  simp only [recordProblems, List.append_eq_nil_iff, List.flatMap_eq_nil_iff,
    problemUnless_eq_nil_iff, decide_eq_true_eq] at none_
  obtain ⟨⟨⟨⟨⟨⟨⟨-, -⟩, counts⟩, plans⟩, -⟩, identity⟩, own⟩, docs⟩ := none_
  exact ⟨counts, plans, identity, own, docs⟩

theorem indices_of_no_problem {count : Int} {indices : List Int}
    (none_ : indexProblems (some count) indices = []) : indices = rangeTo count := by
  by_contra other
  rw [indexProblems, if_neg other] at none_
  cases none_

theorem required_eq_ok {value : Option Int} {held : Int} :
    required value = .ok held ↔ value = some held := by
  cases value with
  | none => exact iff_of_false nofun nofun
  | some own =>
    constructor
    · intro same
      cases same
      rfl
    · intro same
      cases same
      rfl

/-- The records have one plan, and their indices are those of all shards. -/
theorem checkShardSet_eq_ok (done : checkShardSet sha dumps records = .ok plan) :
    ∃ first rest, records = first :: rest ∧ first.plan = some plan ∧ checkPlan plan = .ok () ∧
      (∀ record ∈ records, SameRun sha dumps first record) ∧
      ∃ indices, List.Forall₂ (fun record index => record.shardIndex = some index) records indices ∧
        indexProblems first.shardCount (indices.insertionSort (· ≤ ·)) = [] := by
  unfold checkShardSet at done
  cases records with
  | nil => cases done
  | cons first rest =>
    obtain ⟨indices, found, done⟩ := Json.bind_eq_ok.mp done
    have indexed := (mapM_eq_ok_iff.mp found).imp fun record index => required_eq_ok.mp
    generalize problems :
      (first :: rest).flatMap (recordProblems sha dumps first) ++
        indexProblems first.shardCount (indices.insertionSort (· ≤ ·)) = all at done
    cases all with
    | cons problem others => cases done
    | nil =>
      obtain ⟨records_, counted⟩ := List.append_eq_nil_iff.mp problems
      have same : ∀ record ∈ first :: rest, SameRun sha dumps first record := fun record member =>
        sameRun_of_no_problem (List.flatMap_eq_nil_iff.mp records_ record member)
      cases held : first.plan with
      | none =>
        rw [held] at done
        cases done
      | some own =>
        rw [held] at done
        obtain ⟨accepted, checked, done⟩ := Json.bind_eq_ok.mp done
        cases done
        exact ⟨first, rest, rfl, held, checked, same, indices, indexed, counted⟩

/-- Records of one run have plans of one text, so the same plans up to the order of keys. -/
theorem SameRun.plan_sorted (collisionFree : Function.Injective sha)
    (readable : Function.Injective dumps) (same : SameRun sha dumps first record)
    (own : SameRun sha dumps first first) :
    record.plan.map Plan.sorted = first.plan.map Plan.sorted := by
  have hashes : Shards.planSha sha dumps record.plan = Shards.planSha sha dumps first.plan :=
    Option.some.inj (same.plan.trans (same.planSha.trans own.plan.symm))
  exact readable (collisionFree hashes)

theorem map_shardIndex {indices : List Int}
    (indexed : List.Forall₂ (fun record index => record.shardIndex = some index) records indices) :
    records.map ShardRecord.shardIndex = indices.map some := by
  induction indexed with
  | nil => rfl
  | cons here _ ih => rw [List.map_cons, List.map_cons, here, ih]

section Written

variable {task : String} {count index : Nat} {provenance : Dict String String}
  {runId : Option String}

/-- What the records of the shards of a plan have in common, and the index. -/
structure Written (sha : String → String) (dumps : Option SortedPlan → String) (task : String)
    (plan : Plan) (count : Nat) (provenance : Dict String String) (index : Nat)
    (record : ShardRecord) : Prop where
  version : record.version = some shardRecordVersion
  taskName : record.taskName = some task
  shardIndex : record.shardIndex = some (index : Int)
  shardCount : record.shardCount = some (count : Int)
  planSha : record.planSha = some (Shards.planSha sha dumps (some plan))
  expectedDocIdsSha : record.expectedDocIdsSha = some (plannedSets sha (some plan))
  provenance : record.provenance = some provenance
  plan : record.plan = some plan

theorem written_of_shardRecord
    (wrote : shardRecord sha dumps task plan index count provenance runId = .ok record) :
    checkPlan plan = .ok () ∧ Written sha dumps task plan count provenance index record := by
  obtain ⟨samples, sampled, same⟩ := Json.bind_eq_ok.mp wrote
  obtain ⟨_, checked, _⟩ := Json.bind_eq_ok.mp sampled
  cases same
  exact ⟨checked, rfl, rfl, rfl, rfl, rfl, rfl, rfl, rfl⟩

theorem sameSets_self (sets : Option (Dict String String)) : sameSets sets sets = true := by
  cases sets with
  | none => rfl
  | some sets => exact decide_eq_true ⟨rfl, fun _ member => Dict.mem_entries_iff.mp member⟩

theorem recordProblems_of_written {other : Nat}
    (start : Written sha dumps task plan count provenance other first)
    (written : Written sha dumps task plan count provenance index record) :
    recordProblems sha dumps first record = [] := by
  have identity : ∀ key, record.identity key = first.identity key := fun key => by
    rw [ShardRecord.identity, ShardRecord.identity, written.provenance, start.provenance]
  simp [recordProblems, problemUnless_eq_nil_iff, List.flatMap_eq_nil_iff, identity,
    written.version, written.taskName, start.taskName, written.shardCount, start.shardCount,
    written.planSha, start.planSha, written.expectedDocIdsSha, start.expectedDocIdsSha,
    written.plan, sameSets_self]

/-- The records that the shards of a plan write are a complete set, in any order. -/
theorem checkShardSet_shardRecords {runIds : Nat → Option String} {written : List ShardRecord}
    (positive : 0 < count)
    (wrote : (List.range count).mapM (fun index =>
      shardRecord sha dumps task plan index count provenance (runIds index)) = .ok written)
    (found : records.Perm written) : checkShardSet sha dumps records = .ok plan := by
  have each := (mapM_eq_ok_iff.mp wrote).imp fun _ _ => written_of_shardRecord
  have own : ∀ record ∈ records, ∃ index, checkPlan plan = .ok () ∧
      Written sha dumps task plan count provenance index record := by
    intro record member
    obtain ⟨index, -, holds⟩ := exists_mem_of_forall₂ each.flip (found.mem_iff.mp member)
    exact ⟨index, holds⟩
  have indexed : records.mapM (fun record => required record.shardIndex) =
      .ok (records.map fun record => record.shardIndex.getD 0) := by
    refine mapM_eq_ok_iff.mpr (List.forall₂_map_right_iff.mpr (List.forall₂_same.mpr ?_))
    intro record member
    obtain ⟨index, -, holds⟩ := own record member
    rw [holds.shardIndex]
    rfl
  have complete : (records.map fun record => record.shardIndex.getD 0).insertionSort (· ≤ ·) =
      rangeTo count := by
    refine List.Perm.eq_of_pairwise' (List.pairwise_insertionSort _ _) ?_ ?_
    · rw [rangeTo, List.pairwise_map]
      exact List.pairwise_le_range.imp Int.ofNat_le.mpr
    · refine ((List.perm_insertionSort _ _).trans (found.map _)).trans (.of_eq ?_)
      refine List.forall₂_eq_eq_eq ▸ List.forall₂_map_left_iff.mpr (List.forall₂_map_right_iff.mpr ?_)
      refine (each.imp fun index record holds => ?_).flip
      show record.shardIndex.getD 0 = (index : Int)
      rw [holds.2.shardIndex, Option.getD_some]
  cases records with
  | nil =>
    have none_ := congrArg List.length complete
    rw [rangeTo, List.length_map, List.length_range] at none_
    exact absurd none_.symm (Nat.ne_of_gt positive)
  | cons first rest =>
    obtain ⟨index, accepted, start⟩ := own first List.mem_cons_self
    have none_ : (first :: rest).flatMap (recordProblems sha dumps first) = [] := by
      refine List.flatMap_eq_nil_iff.mpr fun record member => ?_
      obtain ⟨_, -, holds⟩ := own record member
      exact recordProblems_of_written start holds
    have counted : indexProblems first.shardCount
        (((first :: rest).map fun record => record.shardIndex.getD 0).insertionSort (· ≤ ·)) = [] := by
      rw [complete, start.shardCount]
      exact if_pos rfl
    refine Json.bind_eq_ok.mpr ⟨_, indexed, ?_⟩
    dsimp only
    rw [none_, counted, start.plan]
    exact Json.bind_eq_ok.mpr ⟨(), accepted, rfl⟩

end Written

/-- One leaf of three documents. -/
def smallPlan : Plan := { leaves := .ofList [("leaf", { nDocs := 3 })] }

theorem checkShardSet_smallPlan :
    ∃ written, (List.range 2).mapM (fun index =>
        shardRecord id (fun _ => "plan") "task" smallPlan index 2 .empty none) = .ok written ∧
      checkShardSet id (fun _ => "plan") written.reverse = .ok smallPlan :=
  have wrote : (List.range 2).mapM (fun index =>
      shardRecord id (fun _ => "plan") "task" smallPlan index 2 .empty none) = .ok _ := rfl
  ⟨_, wrote, checkShardSet_shardRecords (by decide) wrote (List.reverse_perm _)⟩
section Rows

variable [Field Number] {sqrt : Number → Number} {shardRows : ShardRows Number} {count : Nat}
  {docIds : List Int} {merged : Merged Number}
variable {next recomputed entries : Results Number} {run : Attempt Number}

/-- Every shard logged rows of its own docs, and every filter that has a row has one for
every doc. -/
structure Covered (docIds : List Int) (count : Nat) (shardRows : ShardRows Number)
    (leaf : String) : Prop where
  owned : Owned docIds count shardRows leaf
  any : allRows shardRows count leaf ≠ []
  once : ∀ filter, (∃ row ∈ allRows shardRows count leaf, row.filterName = filter) →
    ∀ doc ∈ docIds, ((allRows shardRows count leaf).map Row.key).count (filter, some doc) = 1

/-- A filter is written if it has a row for every doc. -/
theorem writeFilter_complete {written next : Entry Number × String} {metrics : List String}
    {rows : String × Dict Int (Row Number)}
    (done : writeFilter sqrt sha leaf docIds metrics written rows = .ok next) :
    ∀ doc ∈ docIds, doc ∈ rows.2.keys := by
  unfold writeFilter at done
  generalize missing : (docIds.filter fun doc => doc ∉ rows.2.keys) = absent at done
  cases absent with
  | cons doc others => cases done
  | nil =>
    intro doc member
    have kept := List.filter_eq_nil_iff.mp missing doc member
    rwa [decide_eq_true_eq, not_not] at kept

theorem mergeLeaf_covered {entry : Entry Number × String}
    (done : mergeLeaf sqrt sha count shardRows leaf info = .ok entry) :
    Covered (leafDocIds info) count shardRows leaf := by
  unfold mergeLeaf at done
  obtain ⟨byFilter, collected, done⟩ := Json.bind_eq_ok.mp done
  obtain ⟨filed, owned⟩ := collectRows_filed collected
  have complete : ∀ named ∈ sortedByName byFilter, ∀ doc ∈ leafDocIds info, doc ∈ named.2.keys := by
    intro named member
    cases empty : byFilter.entries.isEmpty with
    | true =>
      rw [empty] at done
      cases done
    | false =>
      rw [empty] at done
      obtain ⟨written, next, ran⟩ := exists_step_of_foldlM done named member
      exact writeFilter_complete ran
  refine ⟨owned, fun none_ => ?_, ?_⟩
  · cases empty : byFilter.entries with
    | nil =>
      rw [empty] at done
      cases done
    | cons entry rest =>
      have held : entry.1 ∈ byFilter.keys :=
        Dict.mem_keys.mpr ⟨entry, empty ▸ List.mem_cons_self, rfl⟩
      obtain ⟨row, member, _⟩ := (filed.filters _).mp held
      rw [none_] at member
      cases member
  · intro filter logged doc member
    obtain ⟨slot, found⟩ := Dict.mem_keys_iff_lookup.mp ((filed.filters filter).mpr logged)
    have held := complete (filter, slot) (mem_sortedByName.mpr found) doc member
    obtain ⟨row, stored⟩ := Dict.mem_keys_iff_lookup.mp held
    have here : (slotOf byFilter filter).lookup doc = some row := by
      rw [slotOf, found]
      exact stored
    obtain ⟨inside, docId, named⟩ := (filed.rows filter doc row).mp here
    refine List.count_eq_one_of_mem filed.distinct ?_
    exact List.mem_map.mpr ⟨row, inside, Prod.ext named docId⟩

/-- The rows are those of as many shards as the merge is of, and every task is merged. -/
theorem mergeShardSamples_covered {count : Int}
    (done : mergeShardSamples sqrt sha plan count shardRows = .ok merged) :
    shardRows.keys.insertionSort (· ≤ ·) = rangeTo count ∧
      ∀ leaf info, plan.leaves.lookup leaf = some info →
        Covered (leafDocIds info) count.toNat shardRows leaf := by
  unfold mergeShardSamples at done
  by_cases keys : shardRows.keys.insertionSort (· ≤ ·) = rangeTo count
  · refine ⟨keys, fun leaf info held => ?_⟩
    simp only [keys, ne_eq, not_true_eq_false, ↓reduceIte] at done
    obtain ⟨leaves, made, _⟩ := Json.bind_eq_ok.mp done
    obtain ⟨_, _, here⟩ :=
      exists_mem_of_forall₂ (mapM_eq_ok_iff.mp made) (mem_sortedByName.mpr held)
    obtain ⟨entry, ran, _⟩ := Json.bind_eq_ok.mp here
    exact mergeLeaf_covered ran
  · simp only [keys, ne_eq, not_false_eq_true, ↓reduceIte] at done
    cases done

/-- What a run logged of a task. -/
def Attempt.rows (run : Attempt Number) (leaf : String) : List (Row Number) :=
  (run.samplesFiles leaf).flatten

omit [Field Number] in
theorem samplesRows_eq_ok {rows : List (Row Number)} (done : samplesRows run leaf = .ok rows) :
    rows = run.rows leaf := by
  unfold samplesRows at done
  unfold Attempt.rows
  split at done
  · rename_i file one
    cases done
    rw [one, List.flatten_singleton]
  · cases done

omit [Field Number] in
theorem readRun_eq_ok {read : RunFiles Number} (done : readRun sha plan run = .ok read) :
    run.record.shardIndex = some read.index ∧
      ∀ leaf ∈ plan.leaves.keys, read.rows.lookup leaf = some (run.rows leaf) := by
  unfold readRun at done
  obtain ⟨index, indexed, done⟩ := Json.bind_eq_ok.mp done
  obtain ⟨rows, made, done⟩ := Json.bind_eq_ok.mp done
  obtain ⟨document, _, done⟩ := Json.bind_eq_ok.mp done
  obtain ⟨_, _, done⟩ := Json.bind_eq_ok.mp done
  cases done
  have all : rows = plan.leaves.entries.map fun leaf => (leaf.1, run.rows leaf.1) := by
    refine eq_map_of_mapM (fun leaf filed made => ?_) made
    obtain ⟨found, ran, made⟩ := Json.bind_eq_ok.mp made
    cases made
    rw [samplesRows_eq_ok ran]
  refine ⟨required_eq_ok.mp indexed, fun leaf held => ?_⟩
  obtain ⟨entry, member, rfl⟩ := Dict.mem_keys.mp held
  refine Dict.lookup_update_of_mem ?_ (all ▸ List.mem_map.mpr ⟨entry, member, rfl⟩)
  rw [all, List.map_map]
  exact plan.leaves.distinct

/-- The entries with metrics have the values that the merge computes, and no others. -/
def Recomputed (recomputed entries : Results Number) : Prop :=
  ∀ name entry, entries.lookup name = some entry → ∀ key ∈ reportedKeys entry,
    ∃ cell, cellOf recomputed name key = some cell ∧ entry.lookup key = some cell

omit [Field Number] in
theorem replaceEntry_eq_ok {named : String × Entry Number}
    (done : replaceEntry recomputed entries named = .ok next) :
    (reportedKeys named.2 = [] ∧ next = entries) ∨
      ∃ entry, next = entries.set named.1 entry ∧ ∀ key ∈ reportedKeys entry,
        ∃ cell, cellOf recomputed named.1 key = some cell ∧ entry.lookup key = some cell := by
  unfold replaceEntry at done
  by_cases none_ : reportedKeys named.2 = []
  · rw [none_] at done
    cases done
    exact .inl ⟨none_, rfl⟩
  · rw [if_neg (List.isEmpty_iff.not.mpr none_)] at done
    dsimp only at done
    split at done
    · cases done
      refine .inr ⟨_, rfl, fun key member => ?_⟩
      obtain ⟨held, comma⟩ := List.mem_filter.mp member
      have other : key ≠ "alias" := by
        rintro rfl
        exact absurd comma (by decide)
      rcases Dict.mem_keys_set.mp held with inside | same
      · obtain ⟨cell, found⟩ := Dict.mem_keys_iff_lookup.mp inside
        exact ⟨cell, found, by rw [Dict.lookup_set, if_neg other, found]⟩
      · exact absurd same other
    · cases done

omit [Field Number] in
theorem replaceSection_eq_ok (done : replaceSection recomputed entries = .ok next) :
    Recomputed recomputed next := by
  have whole := @foldlM_invariant _ _ _ (replaceEntry recomputed)
    (fun (done : List (String × Entry Number)) state => (∀ item ∈ done, item ∈ entries.entries) →
      ∀ name entry, state.lookup name = some entry →
        (entries.lookup name = some entry ∧ name ∉ done.map Prod.fst) ∨
          ∀ key ∈ reportedKeys entry,
            ∃ cell, cellOf recomputed name key = some cell ∧ entry.lookup key = some cell)
    entries.entries entries next (fun _ _ _ found => .inl ⟨found, List.not_mem_nil⟩)
    (fun done item state next now moved inside name entry found => ?_) done
  · intro name entry found
    rcases whole (fun _ member => member) name entry found with ⟨held, outside⟩ | computed
    · exact absurd (Dict.mem_keys_iff_lookup.mpr ⟨entry, held⟩) outside
    · exact computed
  · have earlier := now fun other member => inside other (List.mem_append_left _ member)
    have present := inside item (List.mem_append_right _ List.mem_cons_self)
    rw [List.map_append, List.map_singleton, List.mem_append, List.mem_singleton, not_or]
    rcases replaceEntry_eq_ok moved with ⟨none_, rfl⟩ | ⟨made, rfl, computed⟩
    · rcases earlier name entry found with ⟨held, outside⟩ | computed
      · by_cases same : name = item.1
        · subst same
          have equal := Option.some.inj (held.symm.trans (Dict.mem_entries_iff.mp present))
          rw [equal, none_]
          exact .inr nofun
        · exact .inl ⟨held, outside, same⟩
      · exact .inr computed
    · rw [Dict.lookup_set] at found
      by_cases same : name = item.1
      · subst same
        rw [if_pos rfl] at found
        cases found
        exact .inr computed
      · rw [if_neg same] at found
        exact (earlier name entry found).imp_left fun both => ⟨both.1, both.2, same⟩

/-- The runs are one run of a plan: every shard once, one plan, one set of docs and one
identity, with the rows of every doc. -/
structure OneRun (sha : String → String) (runs : List (Attempt Number)) (plan : Plan) (count : Nat)
    (shardRows : ShardRows Number) : Prop where
  shards : (runs.map fun run => run.record.shardIndex).Perm ((rangeTo count).map some)
  counts : ∀ run ∈ runs, run.record.shardCount = some (count : Int)
  plans : ∀ run ∈ runs, run.record.plan.map Plan.sorted = some plan.sorted
  docSets : ∀ run ∈ runs, sameSets (some (plannedSets sha (some plan))) run.record.expectedDocIdsSha
  identity : ∀ run ∈ runs, ∀ other ∈ runs, ∀ key ∈ identityKeys,
    run.record.identity key = other.record.identity key
  rows : ∀ run ∈ runs, ∀ index, run.record.shardIndex = some index → ∀ leaf ∈ plan.leaves.keys,
    rowsOf shardRows index leaf = run.rows leaf
  covered : ∀ leaf info, plan.leaves.lookup leaf = some info →
    Covered (leafDocIds info) count shardRows leaf

omit [Field Number] in
/-- The expected docs depend on the plan up to the order of its keys. -/
theorem plannedSets_sorted (plan : Option Plan) : plannedSets sha plan =
    .ofList (((plan.map Plan.sorted).elim [] Prod.fst).map fun leaf =>
      (leaf.1, indicesSha sha (leafDocIds leaf.2.1))) := by
  cases plan with
  | none => rfl
  | some plan =>
    unfold plannedSets Plan.sorted
    rw [Option.map_some, Option.elim_some, Option.elim_some, List.map_map]
    rfl

/-- The rows of the runs, by the index of their shard. -/
def rowsByShard (read : List (RunFiles Number)) : ShardRows Number :=
  .ofList (read.map fun run => (run.index, run.rows))

omit [Field Number] in
theorem rowsOf_rowsByShard {runs : List (Attempt Number)} {read : List (RunFiles Number)}
    (done : runs.mapM (readRun sha plan) = .ok read)
    (distinct : (runs.map fun run => run.record.shardIndex).Nodup) (member : run ∈ runs)
    {index : Int} (indexed : run.record.shardIndex = some index) (held : leaf ∈ plan.leaves.keys) :
    rowsOf (rowsByShard read) index leaf = run.rows leaf := by
  have all := mapM_eq_ok_iff.mp done
  obtain ⟨file, inside, ran⟩ := exists_mem_of_forall₂ all member
  obtain ⟨own, rows⟩ := readRun_eq_ok ran
  obtain rfl := Option.some.inj (indexed.symm.trans own)
  have indices : (read.map RunFiles.index).map some = runs.map fun run => run.record.shardIndex := by
    clear member inside distinct done
    induction all with
    | nil => rfl
    | cons here _ ih => rw [List.map_cons, List.map_cons, List.map_cons, ih, (readRun_eq_ok here).1]
  have once : (read.map RunFiles.index).Nodup := by
    rw [← indices] at distinct
    exact distinct.of_map some
  have found : (rowsByShard read).lookup file.index = some file.rows := by
    refine Dict.lookup_update_of_mem ?_ (List.mem_map.mpr ⟨file, inside, rfl⟩)
    rw [List.map_map]
    exact once
  rw [rowsOf, found, Option.getD_some, rows leaf held, Option.getD_some]

variable {attempts : List (Attempt Number)} {task : String} {taskIds : Option (List Int)}
  {document : MergedDocument Number}

/-- A merge that returns has merged one complete run. -/
theorem merge_eq_ok (collisionFree : Function.Injective sha) (readable : Function.Injective dumps)
    (done : merge sqrt sha dumps attempts task taskIds = .ok document) :
    ∃ plan count shardRows merged, checkPlan plan = .ok () ∧
      checkConfiguredDocIds plan task taskIds = .ok () ∧
      OneRun sha (findShardRuns attempts) plan count shardRows ∧
      mergeShardSamples sqrt sha plan count shardRows = .ok merged ∧
      Recomputed merged.results document.results ∧ Recomputed merged.results document.groups := by
  unfold merge at done
  cases here : findShardRuns attempts with
  | nil =>
    rw [here] at done
    cases done
  | cons first rest =>
    rw [here] at done
    obtain ⟨plan, checked, done⟩ := Json.bind_eq_ok.mp done
    obtain ⟨_, configured, done⟩ := Json.bind_eq_ok.mp done
    obtain ⟨read, files, done⟩ := Json.bind_eq_ok.mp done
    obtain ⟨count, counted, done⟩ := Json.bind_eq_ok.mp done
    obtain ⟨merged, joined, done⟩ := Json.bind_eq_ok.mp done
    obtain ⟨results, results_, done⟩ := Json.bind_eq_ok.mp done
    obtain ⟨groups, groups_, done⟩ := Json.bind_eq_ok.mp done
    cases done
    obtain ⟨firstRecord, others, split, planned, accepted, same, indices, indexed, complete⟩ :=
      checkShardSet_eq_ok checked
    obtain ⟨rfl, -⟩ := List.cons.inj split
    have records : ∀ run ∈ first :: rest, SameRun sha dumps first.record run.record :=
      fun run member => same _ (List.mem_map_of_mem member)
    rw [required_eq_ok.mp counted] at complete
    have sorted := indices_of_no_problem complete
    -- the first run is one of the shards, so there is a shard
    obtain ⟨steps, rfl⟩ : ∃ steps : Nat, count = steps := by
      refine Int.eq_ofNat_of_zero_le (Int.not_lt.mp fun negative => ?_)
      have long := congrArg List.length sorted
      rw [List.length_insertionSort, ← indexed.length_eq, rangeTo,
        Int.toNat_of_nonpos (Int.le_of_lt negative)] at long
      cases long
    have shards : ((first :: rest).map fun run => run.record.shardIndex).Perm
        ((rangeTo steps).map some) := by
      have all := map_shardIndex indexed
      rw [List.map_map] at all
      rw [show ((first :: rest).map fun run => run.record.shardIndex) = indices.map some from all,
        ← sorted]
      exact ((List.perm_insertionSort (· ≤ ·) indices).symm).map some
    have ordered := List.perm_insertionSort (fun run other : Attempt Number =>
      run.record.shardIndex.getD 0 ≤ other.record.shardIndex.getD 0) (first :: rest)
    have plans : ∀ run ∈ first :: rest, run.record.plan.map Plan.sorted = some plan.sorted := by
      intro run member
      rw [(records run member).plan_sorted collisionFree readable
        (records first List.mem_cons_self), planned]
      rfl
    refine ⟨plan, steps, rowsByShard read, merged, accepted, configured, ?_, joined,
      replaceSection_eq_ok results_, replaceSection_eq_ok groups_⟩
    refine ⟨shards, fun run member => ?_, plans, fun run member => ?_, ?_, ?_, ?_⟩
    · rw [(records run member).shardCount]
      exact required_eq_ok.mp counted
    · have own := (records run member).expectedDocs
      rw [plannedSets_sorted, plans run member] at own
      rw [plannedSets_sorted]
      exact own
    · intro run member other also key identity
      exact ((records run member).identity key identity).trans
        ((records other also).identity key identity).symm
    · intro run member index indexed leaf held
      refine rowsOf_rowsByShard files ?_ (ordered.mem_iff.mpr member) indexed held
      rw [((ordered.map _).trans shards).nodup_iff]
      refine List.Nodup.map (Option.some_injective _) (List.Nodup.map Int.ofNat_injective ?_)
      exact List.nodup_range
    · exact (mergeShardSamples_covered joined).2

end Rows

end InferenceServer.Shards
