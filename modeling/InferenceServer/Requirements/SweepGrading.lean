import InferenceServer.Requirements.GateAttachment

/-! The agentic sweep of a document: the concurrencies that are replayed, the point that is
expected at each, and the bars of its goodput. Each is collected by a loop of its own over the
workloads. -/
namespace InferenceServer.Requirements
open Machine

variable {Number : Type} (doc : RequirementsDoc Number)

def softMetricsKey : String := "softMetrics"
def stageKey : String := "stage"

/-- The rows that are replayed, in the order of the loops; a row without a positive concurrency is
skipped. -/
def agenticRows : List (AgenticWorkload Number × AgenticSweepPoint Number) :=
  (doc.agenticWorkloads.flatMap fun workload =>
    workload.sweep.map fun point => (workload, point)).filter fun row => 0 < row.2.concurrency

def rowConcurrency (row : AgenticWorkload Number × AgenticSweepPoint Number) : Int :=
  row.2.concurrency

def stageTags : Dict String Stage :=
  Dict.ofList (doc.stages.map fun stage => (stage.key, stage))

/-- What rides on each point of a workload for its grader. -/
def softEntries (workload : AgenticWorkload Number) : List (String × Cell Number) :=
  let soft :=
    if workload.softMetrics.isEmpty then []
    else [(softMetricsKey, .texts (workload.softMetrics.dedup.mergeSort (· ≤ ·)))]
  let stage :=
    if doc.stages.length > 1 then workload.stage.bind (stageTags doc).lookup else none
  soft ++ stage.elim [] fun stage => [(stageKey, .stage stage.key stage.name stage.position)]

def concurrencyOnly (_ : AgenticWorkload Number × AgenticSweepPoint Number) : Option Unit := some ()

/-- `sorted(...)` of the keys that the loop has seen. -/
def agenticConcurrencies : List Int :=
  (Dict.fileFirst rowConcurrency concurrencyOnly (agenticRows doc)).keys.mergeSort (· ≤ ·)

structure RunSpec (Number : Type) where
  concurrency : Int
  goodput : String
  expectedSweep : List (Row Number)

def goodputFor (goodput : Dict Int String) (concurrency : Int) : String :=
  (goodput.lookup concurrency).getD ""

/-- Each run once for every concurrency; without any the runs are left alone. -/
def replaceAgenticRuns (runs : List (RunSpec Number)) (concurrencies : List Int)
    (goodput : Dict Int String) (expected : List (Row Number)) : List (RunSpec Number) :=
  if concurrencies.isEmpty then runs
  else runs.flatMap fun run => concurrencies.map fun concurrency =>
    { concurrency
      goodput := if goodputFor goodput concurrency ≠ "" then goodputFor goodput concurrency
        else run.goodput
      expectedSweep := expected }

section Expected

variable [LinearOrder Number] [Zero Number] [Sub Number] [Mul Number] [IntCast Number]

/-- A point as the document states it, with what it does not state but makes of it. -/
def expectedPoint (doc : RequirementsDoc Number) (workload : AgenticWorkload Number)
    (point : AgenticSweepPoint Number) : Row Number :=
  let expected := point.reference.update (softEntries doc workload)
  match inputThroughputTps point.reference none with
  | some derived => expected.set "inputThroughputTps" (.number derived)
  | none => expected

def agenticExpectedSweep (doc : RequirementsDoc Number) : List (Row Number) :=
  let points := Dict.fileFirst rowConcurrency
    (fun row => some (expectedPoint doc row.1 row.2)) (agenticRows doc)
  (points.keys.mergeSort (· ≤ ·)).filterMap points.lookup

end Expected

section Goodput

-- how a number is formatted by `:g`
variable (general : Number → String)

/-- `--goodput` in the words of AIPerf. -/
def renderGoodput (slo : Slo Number) : Option String :=
  let parts := [("time_to_first_token", slo.ttftMs), ("inter_token_latency", slo.tpotMs),
    ("request_latency", slo.e2elMs)].filterMap fun bar =>
      bar.2.map fun value => bar.1 ++ ":" ++ general value
  let text := " ".intercalate parts
  if text = "" then none else some text

def aiperfSloConstraints (slo : Option (Slo Number)) : Option String :=
  slo.bind (renderGoodput general)

/-- The bars of a row; a row without its own has none. -/
def rowConstraints (row : AgenticWorkload Number × AgenticSweepPoint Number) : Option String :=
  aiperfSloConstraints general
    (if row.2.slo.isSome then effectiveSlo row.2.slo row.1.slo else none)

def agenticGoodputByConcurrency (doc : RequirementsDoc Number) : Dict Int String :=
  Dict.fileFirst rowConcurrency (rowConstraints general) (agenticRows doc)

end Goodput

end InferenceServer.Requirements

/-! When the passes over a document choose the same owner for a gate, for an expected point and
for its bars. -/
namespace InferenceServer.Requirements
open Machine

variable {Number : Type}

section Owners

variable {doc : RequirementsDoc Number} {workload : AgenticWorkload Number} {concurrency : Int}

def Defines (workload : AgenticWorkload Number) (concurrency : Int) : Prop :=
  ∃ point ∈ workload.sweep, point.concurrency = concurrency

/-- The first workload of the document that defines a concurrency. -/
def FirstDefines (doc : RequirementsDoc Number) (concurrency : Int)
    (workload : AgenticWorkload Number) : Prop :=
  Defines workload concurrency ∧ ∃ before after,
    doc.agenticWorkloads = before ++ workload :: after ∧
      ∀ earlier ∈ before, ¬ Defines earlier concurrency

instance (workload : AgenticWorkload Number) (concurrency : Int) :
    Decidable (Defines workload concurrency) :=
  inferInstanceAs (Decidable (∃ point ∈ workload.sweep, _))

theorem exists_firstDefines (member : workload ∈ doc.agenticWorkloads)
    (defines : Defines workload concurrency) : ∃ owner, FirstDefines doc concurrency owner := by
  have some_ : (doc.agenticWorkloads.find? (Defines · concurrency)).isSome :=
    List.find?_isSome.mpr ⟨workload, member, decide_eq_true defines⟩
  obtain ⟨owner, found⟩ := Option.isSome_iff_exists.mp some_
  obtain ⟨has, before, after, split, none_⟩ := List.find?_eq_some_iff_append.mp found
  refine ⟨owner, of_decide_eq_true has, before, after, split, fun earlier there => ?_⟩
  simpa using none_ earlier there

/-- The rows of one workload that are replayed. -/
def rowsOf (workload : AgenticWorkload Number) :
    List (AgenticWorkload Number × AgenticSweepPoint Number) :=
  (workload.sweep.map fun point => (workload, point)).filter fun row => 0 < row.2.concurrency

theorem agenticRows_eq (doc : RequirementsDoc Number) :
    agenticRows doc = doc.agenticWorkloads.flatMap rowsOf := List.filter_flatMap

theorem mem_rowsOf {row : AgenticWorkload Number × AgenticSweepPoint Number} :
    row ∈ rowsOf workload ↔ row.1 = workload ∧ row.2 ∈ workload.sweep ∧ 0 < row.2.concurrency := by
  rw [rowsOf, List.mem_filter, decide_eq_true_eq]
  constructor
  · rintro ⟨member, positive⟩
    obtain ⟨point, there, rfl⟩ := List.mem_map.mp member
    exact ⟨rfl, there, positive⟩
  · rintro ⟨rfl, there, positive⟩
    exact ⟨List.mem_map.mpr ⟨row.2, there, rfl⟩, positive⟩

/-- What a loop looks at in a row. -/
def atConcurrency {Value : Type} (concurrency : Int)
    (value : AgenticWorkload Number × AgenticSweepPoint Number → Option Value)
    (row : AgenticWorkload Number × AgenticSweepPoint Number) : Option Value :=
  if rowConcurrency row = concurrency then value row else none

theorem isSome_rows {Value : Type}
    (value : AgenticWorkload Number × AgenticSweepPoint Number → Option Value)
    {point : AgenticSweepPoint Number} (positive : 0 < concurrency)
    (inside : point ∈ workload.sweep) (same : point.concurrency = concurrency)
    (some_ : (value (workload, point)).isSome) :
    ((rowsOf workload).findSome? (atConcurrency concurrency value)).isSome := by
  have member : (workload, point) ∈ rowsOf workload := mem_rowsOf.mpr ⟨rfl, inside, same ▸ positive⟩
  have here : atConcurrency concurrency value (workload, point) = value (workload, point) :=
    if_pos same
  exact List.findSome?_isSome_iff.mpr ⟨_, member, here ▸ some_⟩

theorem exists_row {Value : Type}
    {value : AgenticWorkload Number × AgenticSweepPoint Number → Option Value} {found : Value}
    (held : (rowsOf workload).findSome? (atConcurrency concurrency value) = some found) :
    ∃ point ∈ workload.sweep, point.concurrency = concurrency ∧
      value (workload, point) = some found := by
  obtain ⟨row, member, here⟩ := List.exists_of_findSome?_eq_some held
  obtain ⟨rfl, inside, -⟩ := mem_rowsOf.mp member
  unfold atConcurrency at here
  split at here
  · rename_i same
    exact ⟨row.2, inside, same, here⟩
  · cases here

/-- What a loop files under a concurrency is found in the first workload that defines it, if
there is anything. -/
theorem lookup_owned {Value : Type}
    (value : AgenticWorkload Number × AgenticSweepPoint Number → Option Value)
    (first : FirstDefines doc concurrency workload) : ∃ rest,
      (Dict.fileFirst rowConcurrency value (agenticRows doc)).lookup concurrency =
        ((rowsOf workload).findSome? (atConcurrency concurrency value)).or rest := by
  obtain ⟨-, before, after, split, none_⟩ := first
  refine ⟨(after.flatMap rowsOf).findSome? (atConcurrency concurrency value), ?_⟩
  have nothing : (before.flatMap rowsOf).findSome? (atConcurrency concurrency value) = none := by
    refine List.findSome?_eq_none_iff.mpr fun row member => if_neg fun same => ?_
    obtain ⟨earlier, there, inside⟩ := List.mem_flatMap.mp member
    exact none_ earlier there ⟨row.2, (mem_rowsOf.mp inside).2.1, same⟩
  have filed : (Dict.fileFirst rowConcurrency value (agenticRows doc)).lookup concurrency =
      (agenticRows doc).findSome? (atConcurrency concurrency value) :=
    Dict.lookup_fileFirst rowConcurrency value _ concurrency
  rw [filed, agenticRows_eq, split, List.flatMap_append, List.flatMap_cons, List.findSome?_append,
    List.findSome?_append, nothing, Option.none_or]

theorem mem_agenticConcurrencies : concurrency ∈ agenticConcurrencies doc ↔
    0 < concurrency ∧ ∃ workload ∈ doc.agenticWorkloads, Defines workload concurrency := by
  rw [agenticConcurrencies, List.mem_mergeSort, Dict.mem_keys_iff_lookup]
  constructor
  · rintro ⟨found, held⟩
    rw [Dict.lookup_fileFirst, agenticRows_eq] at held
    obtain ⟨row, member, here⟩ := List.exists_of_findSome?_eq_some held
    obtain ⟨workload, there, inside⟩ := List.mem_flatMap.mp member
    obtain ⟨-, point, positive⟩ := mem_rowsOf.mp inside
    split at here
    · rename_i same
      exact ⟨same ▸ positive, workload, there, row.2, point, same⟩
    · cases here
  · rintro ⟨positive, workload, there, point, inside, same⟩
    obtain ⟨owner, first⟩ := exists_firstDefines there ⟨point, inside, same⟩
    obtain ⟨⟨own, has, is⟩, -⟩ := id first
    obtain ⟨rest, filed⟩ := lookup_owned concurrencyOnly first
    have some_ := isSome_rows concurrencyOnly positive has is rfl
    obtain ⟨found, here⟩ := Option.isSome_iff_exists.mp some_
    rw [here, Option.some_or] at filed
    exact ⟨found, filed⟩

end Owners

section Bars

variable {doc : RequirementsDoc Number} {general : Number → String}

/-- Some row of the workload states bars for the concurrency. -/
def StatesBars (general : Number → String) (workload : AgenticWorkload Number)
    (concurrency : Int) : Prop :=
  ∃ point ∈ workload.sweep, point.concurrency = concurrency ∧
    (rowConstraints general (workload, point)).isSome

/-- Where any workload states bars for a concurrency, the first that defines it does. -/
def FirstStatesBars (general : Number → String) (doc : RequirementsDoc Number) : Prop :=
  ∀ concurrency, 0 < concurrency →
    (∃ workload ∈ doc.agenticWorkloads, StatesBars general workload concurrency) →
    ∃ workload, FirstDefines doc concurrency workload ∧ StatesBars general workload concurrency

theorem bars_owned {workload : AgenticWorkload Number} {concurrency : Int} {bars : String}
    (positive : 0 < concurrency) (first : FirstDefines doc concurrency workload)
    (states : StatesBars general workload concurrency)
    (held : (agenticGoodputByConcurrency general doc).lookup concurrency = some bars) :
    ∃ point ∈ workload.sweep, point.concurrency = concurrency ∧
      rowConstraints general (workload, point) = some bars := by
  obtain ⟨own, has, same, some_⟩ := states
  obtain ⟨rest, filed⟩ := lookup_owned (rowConstraints general) first
  obtain ⟨found, there⟩ := Option.isSome_iff_exists.mp
    (isSome_rows (rowConstraints general) positive has same some_)
  rw [there, Option.some_or] at filed
  obtain ⟨point, inside, equal, value⟩ := exists_row there
  have filed : (agenticGoodputByConcurrency general doc).lookup concurrency = some found := filed
  cases filed.symm.trans held
  exact ⟨point, inside, equal, value⟩

/-- A concurrency has bars where some workload states them. -/
theorem isSome_goodput {concurrency : Int} (positive : 0 < concurrency) :
    ((agenticGoodputByConcurrency general doc).lookup concurrency).isSome ↔
      ∃ workload ∈ doc.agenticWorkloads, StatesBars general workload concurrency := by
  rw [agenticGoodputByConcurrency, Dict.lookup_fileFirst, agenticRows_eq,
    List.findSome?_isSome_iff]
  constructor
  · rintro ⟨row, there, value⟩
    obtain ⟨workload, member, inside⟩ := List.mem_flatMap.mp there
    obtain ⟨rfl, sweep, -⟩ := mem_rowsOf.mp inside
    split at value
    · rename_i equal
      exact ⟨row.1, member, row.2, sweep, equal, value⟩
    · cases value
  · rintro ⟨workload, member, point, inside, same, some_⟩
    refine ⟨(workload, point), ?_, ?_⟩
    · exact List.mem_flatMap.mpr ⟨workload, member, mem_rowsOf.mpr ⟨rfl, inside, same ▸ positive⟩⟩
    · have found : rowConcurrency (workload, point) = concurrency := same
      rwa [if_pos found]

theorem rowConstraints_ne {row : AgenticWorkload Number × AgenticSweepPoint Number} {bars : String}
    (states : rowConstraints general row = some bars) : bars ≠ "" := by
  obtain ⟨slo, -, rendered⟩ := Option.bind_eq_some_iff.mp states
  unfold renderGoodput at rendered
  dsimp only at rendered
  split at rendered
  · cases rendered
  · rename_i some_
    exact Option.some.inj rendered ▸ some_

end Bars

section Expected

variable {doc : RequirementsDoc Number}
  [LinearOrder Number] [Zero Number] [Sub Number] [Mul Number] [IntCast Number]

theorem getElem?_filterMap_of_some {Item Value : Type} {value : Item → Option Value}
    {items : List Item} (all : ∀ item ∈ items, (value item).isSome) (index : Nat) :
    (items.filterMap value)[index]? = items[index]?.bind value := by
  induction items generalizing index with
  | nil => rfl
  | cons item rest ih =>
    obtain ⟨found, is⟩ := Option.isSome_iff_exists.mp (all item List.mem_cons_self)
    rw [List.filterMap_cons_some is]
    cases index with
    | zero => exact is.symm
    | succ index => exact ih (fun other member => all other (List.mem_cons_of_mem _ member)) index

/-- The expected points stand in the order of the concurrencies. -/
theorem getElem?_expectedSweep (doc : RequirementsDoc Number) (index : Nat) :
    (agenticExpectedSweep doc)[index]? = (agenticConcurrencies doc)[index]?.bind
      (Dict.fileFirst rowConcurrency (fun row => some (expectedPoint doc row.1 row.2))
        (agenticRows doc)).lookup := by
  have same : ∀ row : AgenticWorkload Number × AgenticSweepPoint Number,
      (some (expectedPoint doc row.1 row.2)).isSome = (concurrencyOnly row).isSome := fun _ => rfl
  have keys : (Dict.fileFirst rowConcurrency (fun row => some (expectedPoint doc row.1 row.2))
      (agenticRows doc)).keys =
        (Dict.fileFirst rowConcurrency concurrencyOnly (agenticRows doc)).keys :=
    Dict.keys_fileFirst_congr rowConcurrency same _
  unfold agenticExpectedSweep agenticConcurrencies
  dsimp only
  rw [← keys]
  refine getElem?_filterMap_of_some (fun key member => ?_) index
  exact Option.isSome_iff_exists.mpr (Dict.mem_keys_iff_lookup.mp (List.mem_mergeSort.mp member))

theorem expected_owned {workload : AgenticWorkload Number} {concurrency : Int} {index : Nat}
    (here : (agenticConcurrencies doc)[index]? = some concurrency)
    (first : FirstDefines doc concurrency workload) :
    ∃ point ∈ workload.sweep, point.concurrency = concurrency ∧
      (agenticExpectedSweep doc)[index]? = some (expectedPoint doc workload point) := by
  have positive := (mem_agenticConcurrencies.mp (List.mem_of_getElem? here)).1
  obtain ⟨⟨own, has, same⟩, -⟩ := id first
  obtain ⟨rest, filed⟩ := lookup_owned (fun row => some (expectedPoint doc row.1 row.2)) first
  obtain ⟨found, there⟩ := Option.isSome_iff_exists.mp
    (isSome_rows (fun row => some (expectedPoint doc row.1 row.2)) positive has same rfl)
  rw [there, Option.some_or] at filed
  obtain ⟨point, inside, equal, value⟩ := exists_row there
  refine ⟨point, inside, equal, ?_⟩
  rw [getElem?_expectedSweep, here, Option.bind_some, filed, ← value]

end Expected

section Points

variable [LinearOrder Number] [Zero Number] [Sub Number] [Mul Number] [IntCast Number]
  {scenario : Scenario Number}

/-- Each gate of the scenario holds at the one point of its metric, and every other target of a
point is what the point states for itself. -/
def PointsGraded (scenario : Scenario Number) (params : List (BenchmarkTaskParams Number)) : Prop :=
  ∃ place : Attr → Nat,
    (∀ attr gate, (attr, gate) ∈ statedGates scenario →
      Capability scenario attr gate (place attr) ∧
      ∃ point, params[place attr]? = some point ∧
        Targets point attr (some (gate.value, gate.priority))) ∧
    ∀ (index : Nat) (point : SweepPoint Number) (attr : Attr),
      scenario.sweep[index]? = some point →
      (∀ gate, (attr, gate) ∈ statedGates scenario → index ≠ place attr) →
      ∃ graded, params[index]? = some graded ∧
        Targets graded attr ((ownTargets scenario point).lookup attr)

theorem agree_of_pointsGraded {params : List (BenchmarkTaskParams Number)}
    (graded : PointsGraded scenario params) :
    (scenario.sweep = [] → statedGates scenario = []) ∧ GatesAgree scenario := by
  obtain ⟨place, gates, -⟩ := graded
  constructor
  · intro none_
    rw [List.eq_nil_iff_forall_not_mem]
    rintro ⟨attr, gate⟩ stated
    have bound := (gates attr gate stated).1.1
    rw [none_] at bound
    exact absurd bound (Nat.not_lt_zero _)
  · intro attr first second left right
    obtain ⟨-, point, here, value, priority⟩ := gates attr first left
    obtain ⟨-, other, there, otherValue, otherPriority⟩ := gates attr second right
    cases here.symm.trans there
    exact ⟨Option.some.inj (value.symm.trans otherValue),
      Option.some.inj (priority.symm.trans otherPriority)⟩

theorem pointsGraded_of_attached (superCluster : Bool) (modelMaxConcurrency : Option Int)
    (attached : GatesAttached scenario
      (capabilityAttachPoints scenario (scenarioLevelGates scenario))) :
    PointsGraded scenario (scenarioParams scenario superCluster modelMaxConcurrency) := by
  have places : ∀ attr, ∃ place, ∀ gate, (attr, gate) ∈ statedGates scenario →
      Capability scenario attr gate place ∧
      attachedAt (capabilityAttachPoints scenario (scenarioLevelGates scenario)) place attr =
        some (gate.value, gate.priority) ∧
      ∀ other, other ≠ place →
        attachedAt (capabilityAttachPoints scenario (scenarioLevelGates scenario)) other attr =
          none := by
    intro attr
    by_cases some_ : ∃ gate, (attr, gate) ∈ statedGates scenario
    · obtain ⟨gate, stated⟩ := some_
      obtain ⟨place, -, here, only⟩ := attached attr gate stated
      refine ⟨place, fun other also => ?_⟩
      obtain ⟨index, capable, there, alone⟩ := attached attr other also
      have same : index = place := by
        by_contra different
        rw [only index different] at there
        cases there
      exact same ▸ ⟨capable, there, alone⟩
    · exact ⟨0, fun gate stated => absurd ⟨gate, stated⟩ some_⟩
  choose place here using places
  refine ⟨place, fun attr gate stated => ?_, fun index point attr there elsewhere => ?_⟩
  · obtain ⟨capable, held, -⟩ := here attr gate stated
    obtain ⟨graded, found, -, -, -, targets⟩ := scenarioParams_targets superCluster
      modelMaxConcurrency (List.getElem?_eq_getElem capable.1)
    refine ⟨capable, graded, found, ?_⟩
    have at_ := targets attr
    rwa [held, Option.some_or] at at_
  · obtain ⟨graded, found, -, -, -, targets⟩ := scenarioParams_targets superCluster
      modelMaxConcurrency there
    refine ⟨graded, found, ?_⟩
    have nothing : attachedAt (capabilityAttachPoints scenario (scenarioLevelGates scenario)) index
        attr = none := by
      rw [attachedAt_points]
      cases held : (scenarioLevelGates scenario).lookup attr with
      | none => rfl
      | some gate =>
        have stated : (attr, gate) ∈ statedGates scenario :=
          Dict.mem_of_mem_ofList (Dict.mem_entries_iff.mpr held)
        have alone := (here attr gate stated).2.2 index (elsewhere gate stated)
        rwa [attachedAt_points, held] at alone
    have at_ := targets attr
    rwa [nothing, Option.none_or] at at_

theorem pointsGraded_iff (superCluster : Bool) (modelMaxConcurrency : Option Int) :
    PointsGraded scenario (scenarioParams scenario superCluster modelMaxConcurrency) ↔
      (scenario.sweep = [] → statedGates scenario = []) ∧ GatesAgree scenario :=
  ⟨agree_of_pointsGraded, fun agree =>
    pointsGraded_of_attached superCluster modelMaxConcurrency (gatesAttached_iff.mpr agree)⟩

end Points

section Runs

variable {doc : RequirementsDoc Number} {general : Number → String}
  [LinearOrder Number] [Zero Number] [Sub Number] [Mul Number] [IntCast Number]

def replayedRuns (general : Number → String) (doc : RequirementsDoc Number)
    (runs : List (RunSpec Number)) : List (RunSpec Number) :=
  replaceAgenticRuns runs (agenticConcurrencies doc) (agenticGoodputByConcurrency general doc)
    (agenticExpectedSweep doc)

/-- Each replayed concurrency has an owner, the first workload that defines it. What its runs are
expected to reach is a point of the owner's, and their bars are the owner's or, where no workload
states any, those of the run that is replayed. -/
def RunsOwned (general : Number → String) (doc : RequirementsDoc Number)
    (runs : List (RunSpec Number)) : Prop :=
  ∀ (index : Nat) (concurrency : Int), (agenticConcurrencies doc)[index]? = some concurrency →
    ∃ workload, FirstDefines doc concurrency workload ∧
      ∀ run ∈ replayedRuns general doc runs, run.concurrency = concurrency →
        (∃ point ∈ workload.sweep, point.concurrency = concurrency ∧
          run.expectedSweep[index]? = some (expectedPoint doc workload point)) ∧
        ((∃ point ∈ workload.sweep, point.concurrency = concurrency ∧
            rowConstraints general (workload, point) = some run.goodput) ∨
          (∀ other ∈ doc.agenticWorkloads, ¬ StatesBars general other concurrency) ∧
            ∃ base ∈ runs, run.goodput = base.goodput)

theorem mem_replayedRuns {runs : List (RunSpec Number)} {run : RunSpec Number}
    (some_ : agenticConcurrencies doc ≠ []) :
    run ∈ replayedRuns general doc runs ↔ ∃ base ∈ runs,
      ∃ concurrency ∈ agenticConcurrencies doc,
        (⟨concurrency,
          if goodputFor (agenticGoodputByConcurrency general doc) concurrency ≠ "" then
            goodputFor (agenticGoodputByConcurrency general doc) concurrency
          else base.goodput, agenticExpectedSweep doc⟩ : RunSpec Number) = run := by
  have more : (agenticConcurrencies doc).isEmpty = false := by
    cases all : agenticConcurrencies doc with
    | nil => exact absurd all some_
    | cons => rfl
  unfold replayedRuns replaceAgenticRuns
  rw [more, if_neg Bool.false_ne_true, List.mem_flatMap]
  simp

theorem runsOwned_iff (base : RunSpec Number) (more : List (RunSpec Number)) :
    RunsOwned general doc (base :: more) ↔ FirstStatesBars general doc := by
  constructor
  · rintro owned concurrency positive ⟨workload, member, states⟩
    obtain ⟨point, inside, same, -⟩ := id states
    have among : concurrency ∈ agenticConcurrencies doc :=
      mem_agenticConcurrencies.mpr ⟨positive, workload, member, point, inside, same⟩
    obtain ⟨index, here⟩ := List.mem_iff_getElem?.mp among
    obtain ⟨owner, first, graded⟩ := owned index concurrency here
    obtain ⟨text, held⟩ := Option.isSome_iff_exists.mp
      ((isSome_goodput positive).mpr ⟨workload, member, states⟩)
    obtain ⟨-, bars⟩ := graded _ ((mem_replayedRuns (List.ne_nil_of_mem among)).mpr
      ⟨base, List.mem_cons_self, concurrency, among, rfl⟩) rfl
    rcases bars with ⟨own, has, is, stated⟩ | ⟨none_, -⟩
    · exact ⟨owner, first, own, has, is, Option.isSome_iff_exists.mpr ⟨_, stated⟩⟩
    · exact absurd states (none_ workload member)
  · intro first index concurrency here
    have among := List.mem_of_getElem? here
    obtain ⟨positive, workload, member, defines⟩ := mem_agenticConcurrencies.mp among
    by_cases bars : ∃ workload ∈ doc.agenticWorkloads, StatesBars general workload concurrency
    · obtain ⟨owner, is, states⟩ := first concurrency positive bars
      refine ⟨owner, is, fun run inside same => ?_⟩
      obtain ⟨from_, -, at_, -, rfl⟩ := (mem_replayedRuns (List.ne_nil_of_mem among)).mp inside
      obtain rfl : at_ = concurrency := same
      refine ⟨expected_owned here is, .inl ?_⟩
      obtain ⟨text, held⟩ := Option.isSome_iff_exists.mp ((isSome_goodput positive).mpr bars)
      obtain ⟨point, own, equal, stated⟩ := bars_owned positive is states held
      have text_ : goodputFor (agenticGoodputByConcurrency general doc) at_ = text := by
        rw [goodputFor, held, Option.getD_some]
      rw [text_, if_pos (rowConstraints_ne stated)]
      exact ⟨point, own, equal, stated⟩
    · obtain ⟨owner, is⟩ := exists_firstDefines member defines
      refine ⟨owner, is, fun run inside same => ?_⟩
      obtain ⟨from_, there, at_, -, rfl⟩ := (mem_replayedRuns (List.ne_nil_of_mem among)).mp inside
      obtain rfl : at_ = concurrency := same
      refine ⟨expected_owned here is, .inr ⟨?_, from_, there, ?_⟩⟩
      · exact fun other also states => bars ⟨other, also, states⟩
      · have none_ : (agenticGoodputByConcurrency general doc).lookup at_ = none :=
          Option.not_isSome_iff_eq_none.mp fun some_ => bars ((isSome_goodput positive).mp some_)
        have text : goodputFor (agenticGoodputByConcurrency general doc) at_ = "" := by
          rw [goodputFor, none_, Option.getD_none]
        rw [text, if_neg (not_not.mpr rfl)]

/-- The points of every scenario and the runs of the agentic sweep are graded by one owner each. -/
def SweepGraded (general : Number → String) (doc : RequirementsDoc Number)
    (runs : List (RunSpec Number)) (superCluster : Bool) (modelMaxConcurrency : Option Int) :
    Prop :=
  (∀ scenario ∈ doc.scenarios,
    PointsGraded scenario (scenarioParams scenario superCluster modelMaxConcurrency)) ∧
  RunsOwned general doc runs

theorem sweepGraded_iff (general : Number → String) (doc : RequirementsDoc Number)
    (base : RunSpec Number) (more : List (RunSpec Number)) (superCluster : Bool)
    (modelMaxConcurrency : Option Int) :
    SweepGraded general doc (base :: more) superCluster modelMaxConcurrency ↔
      (∀ scenario ∈ doc.scenarios,
        (scenario.sweep = [] → statedGates scenario = []) ∧ GatesAgree scenario) ∧
      FirstStatesBars general doc := by
  unfold SweepGraded
  rw [runsOwned_iff]
  refine and_congr ?_ Iff.rfl
  constructor
  · exact fun graded scenario member => (pointsGraded_iff _ _).mp (graded scenario member)
  · exact fun agree scenario member => (pointsGraded_iff _ _).mpr (agree scenario member)

end Runs

section Shared

/-- Two workloads at one concurrency, of which only the second states bars. -/
def sharedConcurrency : RequirementsDoc Int :=
  let bare : AgenticSweepPoint Int := { concurrency := 8 }
  let barred : AgenticSweepPoint Int :=
    { concurrency := 8, slo := some { ttftMs := some 100 } }
  { agenticWorkloads := [{ id := "A", sweep := [bare] }, { id := "B", sweep := [barred] }] }

theorem shared_concurrency_takes_other_bars :
    ¬ SweepGraded Int.repr sharedConcurrency [⟨1, "", []⟩] false none := by
  rintro ⟨-, owned⟩
  obtain ⟨owner, ⟨-, before, after, split, none_⟩, point, inside, -, states⟩ :=
    (runsOwned_iff _ _).mp owned 8 (by decide) ⟨_, List.mem_cons_of_mem _ List.mem_cons_self,
      _, List.mem_cons_self, rfl, rfl⟩
  cases before with
  | nil =>
    obtain rfl := (List.cons.inj split).1
    cases List.mem_singleton.mp inside
    cases states
  | cons earlier before =>
    obtain rfl := (List.cons.inj split).1
    exact none_ _ List.mem_cons_self ⟨_, List.mem_cons_self, rfl⟩

end Shared

end InferenceServer.Requirements
