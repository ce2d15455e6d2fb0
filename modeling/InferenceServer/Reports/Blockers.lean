import InferenceServer.Reports.BlockingStates

/-! The blockers of a verdict with the blocks that raise them. The dictionaries lose
blockers whose keys are equal, but never the last one: a verdict accepts exactly if
no block is in a state that blocks and is not demoted. -/
namespace InferenceServer.Reports
open Machine

variable {Double : Type} [Python Double] {schema : ReportSchema Double}
  {knownIssues : List KnownIssue} {modelStatus : Option String} {verdict : Acceptance}

/-- A blocker and the block that raises it. -/
abbrev Raised (Double : Type) := Block Double × (String × String)

def raisedBenchmarks (schema : ReportSchema Double) (modelStatus : Option String) :
    List (Raised Double) :=
  ((benchmarkBlocks schema).zipIdx 1).flatMap fun point =>
    (gradeBenchmark modelStatus point.1
      (pointKey (benchmarkBlocks schema) point.2 point.1)).blockers.map (point.1, ·)

def raisedEvals (schema : ReportSchema Double) (knownIssues : List KnownIssue)
    (modelStatus : Option String) : List (Raised Double) :=
  (evalBlocks schema).flatMap fun block =>
    (gradeEval knownIssues modelStatus block).blockers.map (block, ·)

def raisedSpecTests (schema : ReportSchema Double) (knownIssues : List KnownIssue) :
    List (Raised Double) :=
  (specBlocks schema).flatMap fun block => (gradeSpec knownIssues block).blockers.map (block, ·)

def raisedAgentic (schema : ReportSchema Double) : List (Raised Double) :=
  (agenticBlocks schema).flatMap fun block =>
    ((gradeAgentic block).elim [] GradedSweep.blockers).map (block, ·)

/-- The blockers that the blocks of a report raise when they are graded together. -/
def raised (schema : ReportSchema Double) (knownIssues : List KnownIssue)
    (modelStatus : Option String) : List (Raised Double) :=
  raisedBenchmarks schema modelStatus ++ raisedEvals schema knownIssues modelStatus ++
    raisedSpecTests schema knownIssues ++ raisedAgentic schema

theorem benchmark_blockers : (checkBenchmarks schema modelStatus).blockers =
    .ofList ((raisedBenchmarks schema modelStatus).map Prod.snd) := by
  show Dict.ofList ((benchmarkGrades schema modelStatus).flatMap Graded.blockers) = _
  rw [benchmarkGrades, raisedBenchmarks, List.flatMap_map, List.map_flatMap]
  simp [Function.comp_def, List.map_id']

theorem eval_blockers : (checkEvals schema knownIssues modelStatus).blockers =
    .ofList ((raisedEvals schema knownIssues modelStatus).map Prod.snd) := by
  show Dict.ofList ((evalGrades schema knownIssues modelStatus).flatMap Graded.blockers) = _
  rw [evalGrades, raisedEvals, List.flatMap_map, List.map_flatMap]
  simp [Function.comp_def, List.map_id']

theorem spec_blockers : (checkSpecTests schema knownIssues).blockers =
    .ofList ((raisedSpecTests schema knownIssues).map Prod.snd) := by
  show Dict.ofList ((specGrades schema knownIssues).flatMap Graded.blockers) = _
  rw [specGrades, raisedSpecTests, List.flatMap_map, List.map_flatMap]
  simp [Function.comp_def, List.map_id']

theorem agentic_blockers {result : CategoryResult}
    (graded : checkAgenticTargets schema = some result) :
    result.blockers = .ofList ((raisedAgentic schema).map Prod.snd) := by
  unfold checkAgenticTargets at graded
  obtain ⟨grades, whole, same⟩ := Option.bind_eq_some_iff.mp graded
  cases same
  show Dict.ofList (grades.flatMap GradedSweep.blockers) = _
  rw [raisedAgentic, List.map_flatMap]
  simp only [List.map_map, Function.comp_def, List.map_id']
  congr 1
  have all := mapM_eq_some_iff.mp whole
  clear whole graded
  generalize agenticBlocks schema = blocks at all ⊢
  induction all with
  | nil => rfl
  | cons here _ ih =>
    rw [List.flatMap_cons, List.flatMap_cons, here, ih]
    rfl

/-- The four categories of a verdict. -/
theorem acceptance_eq (graded : acceptanceCriteriaCheck schema knownIssues modelStatus = some verdict) :
    ∃ agentic, checkAgenticTargets schema = some agentic ∧
      verdict.categories = [checkBenchmarks schema modelStatus,
        checkEvals schema knownIssues modelStatus, checkSpecTests schema knownIssues, agentic] ∧
      verdict.blockers = (((Dict.empty.update (checkBenchmarks schema modelStatus).blockers.entries).update
        (checkEvals schema knownIssues modelStatus).blockers.entries).update
          (checkSpecTests schema knownIssues).blockers.entries).update agentic.blockers.entries ∧
      verdict.accepted = verdict.blockers.entries.isEmpty := by
  unfold acceptanceCriteriaCheck at graded
  obtain ⟨agentic, found, same⟩ := Option.bind_eq_some_iff.mp graded
  cases same
  exact ⟨agentic, found, rfl, rfl, rfl⟩

section

variable (graded : acceptanceCriteriaCheck schema knownIssues modelStatus = some verdict)
include graded

theorem mem_blockers_iff {key : String} : key ∈ verdict.blockers.keys ↔
    ∃ blocker ∈ raised schema knownIssues modelStatus, blocker.2.1 = key := by
  obtain ⟨agentic, found, _, blockers, _⟩ := acceptance_eq graded
  have file : ∀ list : List (Raised Double), (∃ entry ∈ list.map Prod.snd, entry.1 = key) ↔
      ∃ blocker ∈ list, blocker.2.1 = key :=
    fun list => by simp only [List.mem_map, exists_exists_and_eq_and]
  rw [blockers, benchmark_blockers, eval_blockers, spec_blockers, agentic_blockers found,
    Dict.mem_keys_update_ofList, Dict.mem_keys_update_ofList, Dict.mem_keys_update_ofList,
    Dict.mem_keys_update_ofList, file, file, file, file, raised]
  simp only [List.mem_append, or_and_right, exists_or]
  exact or_congr_left (or_congr_left (or_congr_left (or_iff_right List.not_mem_nil)))

theorem exists_of_mem_blockers {entry : String × String}
    (member : entry ∈ verdict.blockers.entries) :
    ∃ block, (block, entry) ∈ raised schema knownIssues modelStatus := by
  obtain ⟨agentic, found, _, blockers, _⟩ := acceptance_eq graded
  rw [blockers, benchmark_blockers, eval_blockers, spec_blockers, agentic_blockers found] at member
  have file : ∀ list : List (Raised Double), entry ∈ (Dict.ofList (list.map Prod.snd)).entries →
      ∃ block, (block, entry) ∈ list := by
    intro list held
    obtain ⟨⟨block, _⟩, there, rfl⟩ := List.mem_map.mp (Dict.mem_of_mem_ofList held)
    exact ⟨block, there⟩
  rcases Dict.mem_entries_update member with member | last
  · rcases Dict.mem_entries_update member with member | third
    · rcases Dict.mem_entries_update member with member | second
      · rcases Dict.mem_entries_update member with member | first
        · cases member
        · obtain ⟨block, there⟩ := file _ first
          exact ⟨block, by simp [raised, there]⟩
      · obtain ⟨block, there⟩ := file _ second
        exact ⟨block, by simp [raised, there]⟩
    · obtain ⟨block, there⟩ := file _ third
      exact ⟨block, by simp [raised, there]⟩
  · obtain ⟨block, there⟩ := file _ last
    exact ⟨block, by simp [raised, there]⟩

theorem accepted_iff_raised : verdict.accepted ↔ raised schema knownIssues modelStatus = [] := by
  obtain ⟨_, _, _, _, accepted⟩ := acceptance_eq graded
  rw [accepted, List.isEmpty_iff]
  constructor
  · intro empty
    refine List.eq_nil_iff_forall_not_mem.mpr fun blocker member => ?_
    have filed := (mem_blockers_iff graded).mpr ⟨blocker, member, rfl⟩
    rw [Dict.keys, empty] at filed
    cases filed
  · intro none_
    refine List.eq_nil_iff_forall_not_mem.mpr fun entry member => ?_
    obtain ⟨block, there⟩ := exists_of_mem_blockers graded member
    rw [none_] at there
    cases there

end

/-- A block is in a state that its category blocks for and nothing demotes. -/
def Blocked (schema : ReportSchema Double) (knownIssues : List KnownIssue)
    (modelStatus : Option String) : Prop :=
  (∃ block ∈ benchmarkBlocks schema, BenchmarkStands modelStatus block) ∨
    (∃ block ∈ evalBlocks schema, EvalStands knownIssues modelStatus block) ∨
    (∃ block ∈ specBlocks schema, SpecStands knownIssues block) ∨
    ∃ block ∈ agenticBlocks schema, AgenticStands block

omit [Python Double] in
/-- What a list of graded blocks raises. -/
theorem flatMap_ne_nil {Point : Type} {points : List Point}
    {entries : Point → List (String × String)} {block : Point → Block Double} {stands : Point → Prop}
    (each : ∀ point ∈ points, entries point ≠ [] ↔ stands point) :
    (points.flatMap fun point => (entries point).map (block point, ·)) ≠ [] ↔
      ∃ point ∈ points, stands point := by
  rw [ne_eq, List.flatMap_eq_nil_iff]
  push Not
  refine exists_congr fun point => and_congr_right fun member => ?_
  rw [ne_eq, List.map_eq_nil_iff]
  exact each point member

theorem raised_iff (graded : acceptanceCriteriaCheck schema knownIssues modelStatus = some verdict) :
    raised schema knownIssues modelStatus ≠ [] ↔ Blocked schema knownIssues modelStatus := by
  have benchmarks : raisedBenchmarks schema modelStatus ≠ [] ↔
      ∃ block ∈ benchmarkBlocks schema, BenchmarkStands modelStatus block := by
    refine (flatMap_ne_nil fun point _ => gradeBenchmark_fits.blocks).trans ?_
    constructor
    · rintro ⟨⟨block, index⟩, member, stands⟩
      exact ⟨block, List.fst_mem_of_mem_zipIdx member, stands⟩
    · rintro ⟨block, member, stands⟩
      rw [← List.zipIdx_map_fst 1 (benchmarkBlocks schema)] at member
      obtain ⟨point, there, rfl⟩ := List.mem_map.mp member
      exact ⟨point, there, stands⟩
  have evals : raisedEvals schema knownIssues modelStatus ≠ [] ↔
      ∃ block ∈ evalBlocks schema, EvalStands knownIssues modelStatus block :=
    flatMap_ne_nil fun _ _ => gradeEval_fits.blocks
  have specs : raisedSpecTests schema knownIssues ≠ [] ↔
      ∃ block ∈ specBlocks schema, SpecStands knownIssues block :=
    flatMap_ne_nil fun _ _ => gradeSpec_fits.blocks
  have agentic : raisedAgentic schema ≠ [] ↔ ∃ block ∈ agenticBlocks schema, AgenticStands block := by
    obtain ⟨_, found, _⟩ := acceptance_eq graded
    obtain ⟨grades, whole, _⟩ := Option.bind_eq_some_iff.mp found
    refine flatMap_ne_nil fun block member => ?_
    obtain ⟨grade, _, here⟩ := exists_mem_of_mapM whole member
    rw [here, Option.elim_some]
    exact (gradeAgentic_spec here).1
  rw [raised, ne_eq, List.append_eq_nil_iff, List.append_eq_nil_iff, List.append_eq_nil_iff,
    not_and_or, not_and_or, not_and_or, or_assoc, or_assoc]
  exact or_congr benchmarks (or_congr evals (or_congr specs agentic))

end InferenceServer.Reports
