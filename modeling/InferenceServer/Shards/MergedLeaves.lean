import InferenceServer.Shards.LoggedRows
import Mathlib.Data.String.Basic

/-! The results of a task from the rows of all shards. They depend on the rows of the
docs of the task and not on the shards that logged them. -/
namespace InferenceServer.Shards
open Machine

theorem map_fst_sortedByName {Value : Type} (dict : Dict String Value) :
    (sortedByName dict).map Prod.fst = dict.keys.insertionSort (· ≤ ·) :=
  List.map_insertionSort _ _ _ _ fun _ _ _ _ => Iff.rfl

theorem mem_sortedByName {Value : Type} {dict : Dict String Value} {name : String}
    {value : Value} : (name, value) ∈ sortedByName dict ↔ dict.lookup name = some value := by
  rw [sortedByName, List.mem_insertionSort]
  exact Dict.mem_entries_iff

theorem nodup_sortedByName {Value : Type} (dict : Dict String Value) :
    ((sortedByName dict).map Prod.fst).Nodup := by
  rw [map_fst_sortedByName]
  exact (List.perm_insertionSort _ _).nodup_iff.mpr dict.distinct

theorem insertionSort_eq_of_perm {first second : List String} (same : first.Perm second) :
    first.insertionSort (· ≤ ·) = second.insertionSort (· ≤ ·) := by
  refine List.Perm.eq_of_pairwise' (r := (· ≤ ·)) ?_ ?_ ?_
  · exact List.pairwise_insertionSort _ _
  · exact List.pairwise_insertionSort _ _
  · exact (List.perm_insertionSort _ _).trans (same.trans (List.perm_insertionSort _ _).symm)

variable {Number : Type} [Field Number] (sqrt : Number → Number) (sha : String → String)
  (values : List Number)

def mean : Number := values.sum / values.length

/-- The standard error of the mean of two or more values. -/
def standardError : Option Number :=
  if values.length < 2 then none
  else some (sqrt (((values.map fun value => (value - mean values) ^ 2).sum /
    ((values.length : Number) - 1)) / values.length))

theorem meanAndStderr_eq :
    meanAndStderr sqrt values = (mean values, standardError sqrt values) := by
  unfold meanAndStderr standardError mean
  split <;> simp_all

/-- The value of a metric that the row has. -/
def Row.number (row : Row Number) (metric : String) : Number :=
  ((row.values.lookup metric).bind id).getD 0

def Row.Measures (row : Row Number) (metric : String) : Prop :=
  ∃ value, row.values.lookup metric = some (some value)

theorem metricValue_of_measures {row : Row Number} {metric : String}
    (measures : row.Measures metric) : metricValue row metric = .ok (row.number metric) := by
  obtain ⟨value, found⟩ := measures
  unfold metricValue Row.number
  rw [found]
  rfl

def stderrCell : Cell Number :=
  (standardError sqrt values).elim (.text "N/A") .number

/-- What is written of a metric of a filter. -/
def metricCells (filter : String) (rows : List (Row Number)) (metric : String) :
    List (String × Cell Number) :=
  [(resultKey metric filter, .number (mean (rows.map (Row.number · metric)))),
    (stderrKey metric filter, stderrCell sqrt (rows.map (Row.number · metric)))]

def filterCells (metrics : List String) (filter : String) (rows : List (Row Number)) :
    List (String × Cell Number) :=
  metrics.flatMap (metricCells sqrt filter rows)

variable {rows : List (Row Number)} {metrics filters : List String} {filter leaf metric : String}
  {entry : Entry Number} {docIds : List Int} {row : String → Int → Row Number}

theorem writeMetric_ok (measured : ∀ row ∈ rows, row.Measures metric) :
    writeMetric sqrt filter rows entry metric =
      .ok (entry.update (metricCells sqrt filter rows metric)) := by
  unfold writeMetric
  rw [mapM_ok fun row member => metricValue_of_measures (measured row member)]
  simp only [bind, Except.bind, meanAndStderr_eq]
  rfl

omit [Field Number] in
/-- Updates in turn are one update. -/
theorem foldl_update {Item : Type} (cells : Item → List (String × Cell Number))
    (items : List Item) (entry : Entry Number) :
    items.foldl (fun entry item => entry.update (cells item)) entry =
      entry.update (items.flatMap cells) := by
  induction items generalizing entry with
  | nil => rfl
  | cons item rest ih =>
    rw [List.foldl_cons, ih, List.flatMap_cons]
    exact List.foldl_append.symm

omit [Field Number] in
theorem foldl_filters (cells : String → List (String × Cell Number)) (hash : String → String)
    (filters : List String) (written : Entry Number × String) :
    filters.foldl (fun written filter => (written.1.update (cells filter), hash filter)) written =
      (written.1.update (filters.flatMap cells),
        filters.foldl (fun _ filter => hash filter) written.2) := by
  induction filters generalizing written with
  | nil => rfl
  | cons filter rest ih =>
    rw [List.foldl_cons, ih, List.flatMap_cons, List.foldl_cons]
    exact Prod.ext List.foldl_append.symm rfl

theorem writeFilter_ok {written : Entry Number × String} {slot : Dict Int (Row Number)}
    {row : Int → Row Number} (complete : ∀ doc ∈ docIds, slot.lookup doc = some (row doc))
    (measured : ∀ doc ∈ docIds, ∀ metric ∈ metrics, (row doc).Measures metric) :
    writeFilter sqrt sha leaf docIds metrics written (filter, slot) =
      .ok (written.1.update (filterCells sqrt metrics filter (docIds.map row)),
        sha (String.join ((docIds.map row).map Row.docHash))) := by
  have none_ : (docIds.filter fun doc => doc ∉ slot.keys) = [] := by
    refine List.filter_eq_nil_iff.mpr fun doc member => ?_
    rw [decide_eq_true_eq, not_not]
    exact Dict.mem_keys_iff_lookup.mpr ⟨_, complete doc member⟩
  have ordered : docIds.filterMap slot.lookup = docIds.map row := by
    rw [← List.filterMap_eq_map]
    exact List.filterMap_congr complete
  have all : metrics.foldlM (writeMetric sqrt filter (docIds.map row)) written.1 =
      .ok (metrics.foldl (fun entry metric =>
        entry.update (metricCells sqrt filter (docIds.map row) metric)) written.1) := by
    refine foldlM_eq_ok fun metric member state => writeMetric_ok sqrt fun row_ held => ?_
    obtain ⟨doc, inside, rfl⟩ := List.mem_map.mp held
    exact measured doc inside metric member
  unfold writeFilter
  simp only [none_, ordered]
  rw [all, foldl_update]
  rfl

/-- The results of a task of which every filter has a row for every doc. -/
def wholeLeaf (docIds : List Int) (metrics filters : List String)
    (row : String → Int → Row Number) : Entry Number × String :=
  let sorted := filters.insertionSort (· ≤ ·)
  (.ofList (sorted.flatMap fun filter => filterCells sqrt metrics filter (docIds.map (row filter))),
    sorted.foldl (fun _ filter =>
      sha (String.join ((docIds.map (row filter)).map Row.docHash))) "")

/-- No two of the named metrics and filters have one key in the results. -/
structure Separate (Named : String → String → Prop) : Prop where
  result : ∀ {metric filter other another}, Named metric filter → Named other another →
    resultKey metric filter = resultKey other another → metric = other ∧ filter = another
  stderr : ∀ {metric filter other another}, Named metric filter → Named other another →
    stderrKey metric filter = stderrKey other another → metric = other ∧ filter = another
  apart : ∀ {metric filter other another}, Named metric filter → Named other another →
    resultKey metric filter ≠ stderrKey other another

section Lookups

variable {Named : String → String → Prop} (separate : Separate Named)
  (named : ∀ metric ∈ metrics, ∀ filter ∈ filters, Named metric filter)

theorem mem_wholeCells {key : String} {cell : Cell Number} :
    (key, cell) ∈ ((filters.insertionSort (· ≤ ·)).flatMap fun filter =>
      filterCells sqrt metrics filter (docIds.map (row filter))) ↔
    ∃ filter ∈ filters, ∃ metric ∈ metrics,
      (key = resultKey metric filter ∧
        cell = .number (mean ((docIds.map (row filter)).map (Row.number · metric)))) ∨
      (key = stderrKey metric filter ∧
        cell = stderrCell sqrt ((docIds.map (row filter)).map (Row.number · metric))) := by
  simp [filterCells, metricCells]

include separate named

theorem wholeLeaf_result (measured : metric ∈ metrics) (filtered : filter ∈ filters) :
    (wholeLeaf sqrt sha docIds metrics filters row).1.lookup (resultKey metric filter) =
      some (.number (mean ((docIds.map (row filter)).map (Row.number · metric)))) := by
  refine Dict.lookup_update_of_agree ?_ fun other there => ?_
  · exact (mem_wholeCells sqrt).mpr ⟨filter, filtered, metric, measured, .inl ⟨rfl, rfl⟩⟩
  · have here := named metric measured filter filtered
    obtain ⟨another, inside, metric_, also, ⟨same, rfl⟩ | ⟨same, _⟩⟩ :=
      (mem_wholeCells sqrt).mp there
    · obtain ⟨rfl, rfl⟩ := separate.result here (named _ also _ inside) same
      rfl
    · exact absurd same (separate.apart here (named _ also _ inside))

theorem wholeLeaf_stderr (measured : metric ∈ metrics) (filtered : filter ∈ filters) :
    (wholeLeaf sqrt sha docIds metrics filters row).1.lookup (stderrKey metric filter) =
      some (stderrCell sqrt ((docIds.map (row filter)).map (Row.number · metric))) := by
  refine Dict.lookup_update_of_agree ?_ fun other there => ?_
  · exact (mem_wholeCells sqrt).mpr ⟨filter, filtered, metric, measured, .inr ⟨rfl, rfl⟩⟩
  · have here := named metric measured filter filtered
    obtain ⟨another, inside, metric_, also, ⟨same, _⟩ | ⟨same, rfl⟩⟩ :=
      (mem_wholeCells sqrt).mp there
    · exact absurd same.symm (separate.apart (named _ also _ inside) here)
    · obtain ⟨rfl, rfl⟩ := separate.stderr here (named _ also _ inside) same
      rfl

/-- A task reports a metric and a filter if it has both. -/
theorem wholeLeaf_reports (here : Named metric filter) :
    ((wholeLeaf sqrt sha docIds metrics filters row).1.lookup (resultKey metric filter)).isSome ↔
      metric ∈ metrics ∧ filter ∈ filters := by
  constructor
  · intro found
    obtain ⟨cell, held⟩ := Option.isSome_iff_exists.mp found
    obtain ⟨entry, member, same⟩ := Dict.mem_keys_ofList.mp (Dict.mem_keys_iff_lookup.mpr ⟨cell, held⟩)
    obtain ⟨another, inside, metric_, also, ⟨key, _⟩ | ⟨key, _⟩⟩ :=
      (mem_wholeCells sqrt).mp member
    · obtain ⟨rfl, rfl⟩ := separate.result here (named _ also _ inside) (same.symm.trans key)
      exact ⟨also, inside⟩
    · exact absurd (same.symm.trans key) (separate.apart here (named _ also _ inside))
  · rintro ⟨measured, filtered⟩
    rw [wholeLeaf_result sqrt sha separate named measured filtered]
    rfl

end Lookups

/-- The filters and docs of the rows are those of the task, each pair once. -/
structure Complete (docIds : List Int) (filters : List String) (row : String → Int → Row Number)
    (logged : List (Row Number)) : Prop where
  mem : ∀ found, found ∈ logged ↔ ∃ filter ∈ filters, ∃ doc ∈ docIds, row filter doc = found
  distinct : (logged.map Row.key).Nodup

/-- The rows are of the filters and docs that they are taken for. -/
def Keyed (docIds : List Int) (filters : List String) (row : String → Int → Row Number) : Prop :=
  ∀ filter ∈ filters, ∀ doc ∈ docIds, (row filter doc).key = (filter, some doc)

variable {count : Nat} {shardRows : ShardRows Number} {info : LeafInfo}

theorem mergeLeaf_ok (keyed : Keyed (leafDocIds info) filters row)
    (measured : ∀ filter ∈ filters, ∀ doc ∈ leafDocIds info, ∀ metric ∈ info.aggregations.keys,
      (row filter doc).Measures metric)
    (docs : leafDocIds info ≠ []) (some_ : filters ≠ []) (once : filters.Nodup)
    (owned : Owned (leafDocIds info) count shardRows leaf)
    (complete : Complete (leafDocIds info) filters row (allRows shardRows count leaf)) :
    mergeLeaf sqrt sha count shardRows leaf info = .ok (wholeLeaf sqrt sha (leafDocIds info)
        ((sortedByName info.aggregations).map Prod.fst) filters row) := by
  obtain ⟨byFilter, collected, filed⟩ := collectRows_ok owned complete.distinct
  have names : ∀ filter, filter ∈ byFilter.keys ↔ filter ∈ filters := by
    intro filter
    rw [filed.filters]
    constructor
    · rintro ⟨found, member, named⟩
      obtain ⟨other, inside, doc, held, rfl⟩ := (complete.mem found).mp member
      have key : (row other doc).filterName = other := congrArg Prod.fst (keyed other inside doc held)
      rwa [← named, key]
    · intro inside
      obtain ⟨doc, held⟩ := List.exists_mem_of_ne_nil _ docs
      exact ⟨_, (complete.mem _).mpr ⟨filter, inside, doc, held, rfl⟩,
        congrArg Prod.fst (keyed filter inside doc held)⟩
  have sorted : (sortedByName byFilter).map Prod.fst = filters.insertionSort (· ≤ ·) := by
    rw [map_fst_sortedByName]
    exact insertionSort_eq_of_perm ((List.perm_ext_iff_of_nodup byFilter.distinct once).mpr names)
  have each : ∀ named ∈ sortedByName byFilter, ∀ written : Entry Number × String,
      writeFilter sqrt sha leaf (leafDocIds info) ((sortedByName info.aggregations).map Prod.fst)
        written named =
      .ok (written.1.update (filterCells sqrt ((sortedByName info.aggregations).map Prod.fst)
          named.1 ((leafDocIds info).map (row named.1))),
        sha (String.join (((leafDocIds info).map (row named.1)).map Row.docHash))) := by
    rintro ⟨filter, slot⟩ member written
    have slotted := mem_sortedByName.mp member
    have inside := (names filter).mp (Dict.mem_keys_iff_lookup.mpr ⟨slot, slotted⟩)
    refine writeFilter_ok sqrt sha (fun doc held => ?_) fun doc held metric also => ?_
    · have here := (filed.rows filter doc (row filter doc)).mpr
        ⟨(complete.mem _).mpr ⟨filter, inside, doc, held, rfl⟩,
          congrArg Prod.snd (keyed filter inside doc held),
          congrArg Prod.fst (keyed filter inside doc held)⟩
      rwa [slotOf, slotted] at here
    · refine measured filter inside doc held metric ?_
      rw [map_fst_sortedByName] at also
      exact (List.mem_insertionSort _).mp also
  have any : byFilter.entries.isEmpty = false := by
    obtain ⟨filter, inside⟩ := List.exists_mem_of_ne_nil _ some_
    obtain ⟨entry, member, _⟩ := Dict.mem_keys.mp ((names filter).mpr inside)
    exact List.isEmpty_eq_false_iff.mpr (List.ne_nil_of_mem member)
  unfold mergeLeaf
  simp only [collected, bind, Except.bind, any]
  refine (foldlM_eq_ok each).trans (congrArg Except.ok ?_)
  rw [wholeLeaf, ← sorted]
  refine Eq.trans ?_ (foldl_filters
    (fun filter => filterCells sqrt ((sortedByName info.aggregations).map Prod.fst) filter
      ((leafDocIds info).map (row filter)))
    (fun filter => sha (String.join (((leafDocIds info).map (row filter)).map Row.docHash)))
    ((sortedByName byFilter).map Prod.fst) (.empty, ""))
  rw [List.foldl_map]

end InferenceServer.Shards
