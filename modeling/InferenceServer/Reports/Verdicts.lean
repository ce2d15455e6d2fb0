import InferenceServer.Reports.Accounts
import InferenceServer.Reports.Blockers

/-! What a verdict says of the blocks of a report: acceptance, the strict verdict over
the evals, and the counts. The counts fail for a benchmark that misses an enforced and
an informational target at once and for waived blocks that share a title. -/
namespace InferenceServer.Reports
open Machine

variable {Double : Type} [Python Double] {schema : ReportSchema Double}
  {knownIssues : List KnownIssue} {modelStatus : Option String} {block : Block Double}
  {verdict : Acceptance}

/-- An eval that reports a pass, or reports nothing and has a passing check. -/
def GradedPass (block : Block Double) : Prop :=
  (block.data.get "incomplete").isTrue = false ∧
    (explicitStatus block = some .pass ∨
      (explicitStatus block = none ∧ (block.data.get "success").isFalse = false ∧
        (resolveNested block.data "accuracy_check").isNone = false ∧
        checkState (resolveNested block.data "accuracy_check") = .pass))

theorem checkState_cases (value : PyValue Double) :
    checkState value = .pass ∨ checkState value = .fail ∨ checkState value = .na := by
  unfold checkState
  split
  · exact .inr (.inr rfl)
  · split
    · exact .inl rfl
    · exact .inr (.inl rfl)
  · split
    · dsimp only
      split
      · exact .inr (.inl rfl)
      · split
        · exact .inr (.inr rfl)
        · exact .inl rfl
    · split
      · exact .inr (.inl rfl)
      · split
        · exact .inr (.inr rfl)
        · exact .inl rfl

/-- No failure and a result: the check passes. -/
theorem evalMessage_iff : evalMessage block = (none, false) ↔
    (block.data.get "success").isFalse = false ∧
      (resolveNested block.data "accuracy_check").isNone = false ∧
      checkState (resolveNested block.data "accuracy_check") = .pass := by
  unfold evalMessage
  dsimp only
  split
  · rename_i failed
    simp [failed]
  · rename_i ran
    rw [Bool.not_eq_true] at ran
    split
    · rename_i missing
      simp [missing]
    · rename_i held
      rw [Bool.not_eq_true] at held
      rcases checkState_cases (resolveNested block.data "accuracy_check") with state | state | state
        <;> simp [ran, held, state]

theorem gradeEval_passed_iff :
    (gradeEval knownIssues modelStatus block).isIn .passed ↔ GradedPass block := by
  unfold GradedPass
  rw [← evalMessage_iff]
  unfold gradeEval
  dsimp only
  split
  · rename_i incomplete
    simp [Graded.isIn, incomplete]
  · rename_i complete
    rw [Bool.not_eq_true] at complete
    split
    · rename_i status reported
      split
      · rename_i blocking
        have failed : status ≠ .pass := by
          rintro rfl
          cases blocking
        split
        · simp [Graded.isIn, reported, failed]
        · split <;> simp [Graded.isIn, reported, failed]
      · rename_i passing
        cases status with
        | pass => simp [Graded.isIn, complete, reported]
        | fail => exact absurd rfl passing
        | error => exact absurd rfl passing
        | skip => simp [Graded.isIn, reported]
        | na => simp [Graded.isIn, reported]
        | partialRun => simp [Graded.isIn, reported]
    · rename_i unreported
      split
      · rename_i message
        simp [Graded.isIn, unreported, message]
      · rename_i message
        simp [Graded.isIn, complete, unreported, message]
      · rename_i text _ message
        have failed : evalMessage block ≠ (none, false) := by
          rw [message]
          rintro ⟨⟩
        split
        · simp [Graded.isIn, unreported, message]
        · split
          · simp [Graded.isIn, unreported, message]
          · split <;> simp [Graded.isIn, unreported, message]

/-- An eval that must pass does, blocks, or is kept for the strict verdict. -/
theorem gradeEval_must (priority : blockPriority block ≠ priorityShould) :
    (gradeEval knownIssues modelStatus block).isIn .passed ∨
      (gradeEval knownIssues modelStatus block).blockers ≠ [] ∨
      (gradeEval knownIssues modelStatus block).waivedMust ≠ [] ∨
      (gradeEval knownIssues modelStatus block).ungradedMust ≠ [] := by
  unfold gradeEval
  dsimp only
  split
  · simp
  · split
    · rename_i status _
      split
      · split
        · simp [must, priority]
        · simp
      · cases status <;> simp [must, priority, Graded.isIn]
    · split
      · simp [must, priority]
      · simp [Graded.isIn]
      · split
        · simp [must, priority]
        · split
          · simp [must, priority]
          · simp

/-- The agentic targets are counted by measured points. -/
structure CategoryResult.AccountsPoints (result : CategoryResult)
    (points : List (PyValue Double)) : Prop where
  total : result.total = points.length
  failed : result.failed = points.countP isMissed
  passed : result.passed = points.countP fun point => !isMissed point
  others : result.na = 0 ∧ result.skipped = 0 ∧ result.waived.length = 0

/-- The points of all sweeps of a report. -/
def sweepPoints (schema : ReportSchema Double) : List (PyValue Double) :=
  (agenticBlocks schema).flatMap gradedPoints

theorem agentic_accounts {result : CategoryResult}
    (graded : checkAgenticTargets schema = some result) :
    result.AccountsPoints (sweepPoints schema) := by
  unfold checkAgenticTargets at graded
  obtain ⟨grades, whole, same⟩ := Option.bind_eq_some_iff.mp graded
  cases same
  have counts : (grades.map GradedSweep.total).sum = (sweepPoints schema).length ∧
      (grades.map GradedSweep.failed).sum = (sweepPoints schema).countP isMissed := by
    have all := mapM_eq_some_iff.mp whole
    rw [sweepPoints]
    clear whole graded
    generalize agenticBlocks schema = blocks at all ⊢
    induction all with
    | nil => exact ⟨rfl, rfl⟩
    | cons here _ ih =>
      obtain ⟨_, total, failed⟩ := gradeAgentic_spec here
      rw [List.map_cons, List.sum_cons, List.map_cons, List.sum_cons, List.flatMap_cons,
        List.length_append, List.countP_append, ih.1, ih.2, total, failed,
        ← List.countP_eq_length_filter]
      exact ⟨rfl, rfl⟩
  have split := List.length_eq_countP_add_countP isMissed (l := sweepPoints schema)
  refine ⟨counts.1, counts.2, ?_, rfl, rfl, rfl⟩
  show ((grades.map GradedSweep.total).sum : Int) - (grades.map GradedSweep.failed).sum - 0 - 0 - 0 = _
  rw [counts.1, counts.2, split]
  simp only [Bool.not_eq_true, Bool.decide_eq_false] at split ⊢
  omega

/-- What a verdict promises of the blocks it grades. -/
structure Acceptance.Sound (verdict : Acceptance) (schema : ReportSchema Double)
    (knownIssues : List KnownIssue) (modelStatus : Option String) : Prop where
  accepted : verdict.accepted ↔ ¬ Blocked schema knownIssues modelStatus
  undemoted : ∀ block ∈ evalBlocks schema,
    (block.data.get "incomplete").isTrue ∨ explicitStatus block = some .partialRun →
      verdict.accepted = false ∧ (gradeEval knownIssues modelStatus block).waived = []
  strict : (strictQualification verdict.accepted verdict.categories).strictPass →
    verdict.accepted ∧
      ∀ block ∈ evalBlocks schema, blockPriority block ≠ priorityShould → GradedPass block
  decisive : ∀ block ∈ evalBlocks schema, (block.data.get "success").isFalse →
    (gradeEval knownIssues modelStatus block).isIn .passed = false
  counted : ∃ benchmarks evals specTests agentic,
    verdict.categories = [benchmarks, evals, specTests, agentic] ∧
    benchmarks.Accounts (benchmarkGrades schema modelStatus) ∧
    evals.Accounts (evalGrades schema knownIssues modelStatus) ∧
    specTests.Accounts (specGrades schema knownIssues) ∧
    agentic.AccountsPoints (sweepPoints schema)

/-- Where no eval passes against its own report, no benchmark is in two states at once, and
blocks that are waived in one category are told apart. -/
structure Consistent (schema : ReportSchema Double) (knownIssues : List KnownIssue)
    (modelStatus : Option String) : Prop where
  reports : ∀ block ∈ evalBlocks schema, (block.data.get "success").isFalse →
    explicitStatus block = some .pass → (block.data.get "incomplete").isTrue
  apart : ∀ block ∈ benchmarkBlocks schema,
    ¬ (BenchmarkStands modelStatus block ∧ BenchmarkDemoted modelStatus block)
  benchmarks : ((benchmarkBlocks schema).zipIdx 1).Pairwise fun first second =>
    BenchmarkDemoted modelStatus first.1 → BenchmarkDemoted modelStatus second.1 →
      pointKey (benchmarkBlocks schema) first.2 first.1 ≠
        pointKey (benchmarkBlocks schema) second.2 second.1
  evals : (evalBlocks schema).Pairwise fun first second =>
    EvalDemoted knownIssues modelStatus first → EvalDemoted knownIssues modelStatus second →
      blockKey first ≠ blockKey second
  specTests : (specBlocks schema).Pairwise fun first second =>
    SpecDemoted knownIssues first → SpecDemoted knownIssues second →
      "spec." ++ blockKey first ≠ "spec." ++ blockKey second

theorem benchmark_accounts_iff :
    (checkBenchmarks schema modelStatus).Accounts (benchmarkGrades schema modelStatus) ↔
      (∀ block ∈ benchmarkBlocks schema,
        ¬ (BenchmarkStands modelStatus block ∧ BenchmarkDemoted modelStatus block)) ∧
      ((benchmarkBlocks schema).zipIdx 1).Pairwise fun first second =>
        BenchmarkDemoted modelStatus first.1 → BenchmarkDemoted modelStatus second.1 →
          pointKey (benchmarkBlocks schema) first.2 first.1 ≠
            pointKey (benchmarkBlocks schema) second.2 second.1 := by
  have points := @accounts_iff _ ((benchmarkBlocks schema).zipIdx 1) _ _ _ _ .benchmarks
    (checkBenchmarks schema modelStatus).status
    fun point (_ : point ∈ (benchmarkBlocks schema).zipIdx 1) =>
      @gradeBenchmark_fits _ _ modelStatus point.1 (pointKey (benchmarkBlocks schema) point.2 point.1)
  refine points.trans (and_congr_left fun _ => ?_)
  constructor
  · intro apart block member
    rw [← List.zipIdx_map_fst 1 (benchmarkBlocks schema)] at member
    obtain ⟨point, there, rfl⟩ := List.mem_map.mp member
    exact apart point there
  · intro apart point member
    exact apart point.1 (List.fst_mem_of_mem_zipIdx member)

theorem eval_accounts_iff :
    (checkEvals schema knownIssues modelStatus).Accounts (evalGrades schema knownIssues modelStatus) ↔
      (evalBlocks schema).Pairwise fun first second =>
        EvalDemoted knownIssues modelStatus first → EvalDemoted knownIssues modelStatus second →
          blockKey first ≠ blockKey second := by
  have points := @accounts_iff _ (evalBlocks schema) _ _ _ _ .evals
    (checkEvals schema knownIssues modelStatus).status
    fun block (_ : block ∈ evalBlocks schema) => @gradeEval_fits _ _ knownIssues modelStatus block
  exact points.trans (and_iff_right fun _ _ => eval_apart)

theorem spec_accounts_iff :
    (checkSpecTests schema knownIssues).Accounts (specGrades schema knownIssues) ↔
      (specBlocks schema).Pairwise fun first second =>
        SpecDemoted knownIssues first → SpecDemoted knownIssues second →
          "spec." ++ blockKey first ≠ "spec." ++ blockKey second := by
  have points := @accounts_iff _ (specBlocks schema) _ _ _ _ .specTests
    (checkSpecTests schema knownIssues).status
    fun block (_ : block ∈ specBlocks schema) => @gradeSpec_fits _ _ knownIssues block
  exact points.trans (and_iff_right fun block _ both => both.1.2 both.2.2)

section

variable (graded : acceptanceCriteriaCheck schema knownIssues modelStatus = some verdict)
include graded

theorem accepted_iff : verdict.accepted ↔ ¬ Blocked schema knownIssues modelStatus := by
  rw [accepted_iff_raised graded, ← raised_iff graded, not_not]

theorem undemoted (member : block ∈ evalBlocks schema)
    (flagged : (block.data.get "incomplete").isTrue ∨ explicitStatus block = some .partialRun) :
    verdict.accepted = false ∧ (gradeEval knownIssues modelStatus block).waived = [] := by
  have stands : EvalStands knownIssues modelStatus block := by
    rw [evalStands_iff]
    cases complete : (block.data.get "incomplete").isTrue with
    | true => exact .inl (.inl complete)
    | false =>
      refine .inl (.inr ⟨complete, flagged.resolve_left ?_⟩)
      rw [complete]
      exact Bool.false_ne_true
  constructor
  · rw [← Bool.not_eq_true, accepted_iff graded, not_not]
    exact .inr (.inl ⟨block, member, stands⟩)
  · rcases (@gradeEval_fits _ _ knownIssues modelStatus block).waived with ⟨lowered, _⟩ | ⟨_, none_⟩
    · exact absurd ⟨stands, lowered⟩ eval_apart
    · exact none_

theorem strict_passes
    (strict : (strictQualification verdict.accepted verdict.categories).strictPass)
    (member : block ∈ evalBlocks schema) (must : blockPriority block ≠ priorityShould) :
    verdict.accepted ∧ GradedPass block := by
  obtain ⟨agentic, found, categories, _, _⟩ := acceptance_eq graded
  have last : agentic.name = .agenticTargets := by
    obtain ⟨_, _, same⟩ := Option.bind_eq_some_iff.mp found
    cases same
    rfl
  have evals : verdict.categories.filter (fun category => category.name = .evals) =
      [checkEvals schema knownIssues modelStatus] := by
    rw [categories]
    simp [checkBenchmarks, checkEvals, checkSpecTests, tally, last]
  simp only [strictQualification, evals, List.flatMap_singleton, Bool.and_eq_true,
    List.isEmpty_iff, Dict.ofList_eq_nil_iff] at strict
  obtain ⟨⟨accepted, unwaived⟩, measured⟩ := strict
  have unwaived := List.flatMap_eq_nil_iff.mp (Dict.ofList_eq_nil_iff.mp unwaived)
  have measured := List.flatMap_eq_nil_iff.mp (Dict.ofList_eq_nil_iff.mp measured)
  have here : gradeEval knownIssues modelStatus block ∈
      evalGrades schema knownIssues modelStatus := List.mem_map_of_mem member
  refine ⟨accepted, (@gradeEval_passed_iff _ _ knownIssues modelStatus block).mp ?_⟩
  rcases @gradeEval_must _ _ knownIssues modelStatus block must with passed | blocks | waives | lacks
  · exact passed
  · have stands := gradeEval_fits.blocks.mp blocks
    exact absurd (.inr (.inl ⟨block, member, stands⟩)) ((accepted_iff graded).mp accepted)
  · exact absurd (unwaived _ here) waives
  · exact absurd (measured _ here) lacks

/-- A verdict keeps its promises exactly where the report is consistent. -/
theorem sound_iff_consistent :
    verdict.Sound schema knownIssues modelStatus ↔ Consistent schema knownIssues modelStatus := by
  obtain ⟨agentic, found, categories, _, _⟩ := acceptance_eq graded
  constructor
  · intro sound
    obtain ⟨benchmarks, evals, specTests, _, same, counts⟩ := sound.counted
    rw [categories] at same
    cases same
    obtain ⟨benchmarks, evals, specTests, _⟩ := counts
    obtain ⟨apart, points⟩ := benchmark_accounts_iff.mp benchmarks
    refine ⟨fun block member fails reports => ?_, apart, points, eval_accounts_iff.mp evals,
      spec_accounts_iff.mp specTests⟩
    by_contra complete
    rw [Bool.not_eq_true] at complete
    have passed := (@gradeEval_passed_iff _ _ knownIssues modelStatus block).mpr
      ⟨complete, .inl reports⟩
    exact absurd (passed.symm.trans (sound.decisive block member fails)) nofun
  · intro consistent
    exact {
      accepted := accepted_iff graded
      undemoted := fun block member => undemoted graded member
      strict := by
        intro strict
        have accepted := strict
        simp only [strictQualification, Bool.and_eq_true] at accepted
        exact ⟨accepted.1.1, fun block member must => (strict_passes graded strict member must).2⟩
      decisive := by
        intro block member fails
        rw [← Bool.not_eq_true, gradeEval_passed_iff]
        rintro ⟨complete, reports | ⟨_, succeeds, _⟩⟩
        · exact absurd (complete.symm.trans (consistent.reports block member fails reports)) nofun
        · exact absurd (succeeds.symm.trans fails) nofun
      counted := ⟨_, _, _, _, categories,
        benchmark_accounts_iff.mpr ⟨consistent.apart, consistent.benchmarks⟩,
        eval_accounts_iff.mpr consistent.evals, spec_accounts_iff.mpr consistent.specTests,
        agentic_accounts found⟩
    }

end

/-- Of two targets that the status of the model does not both enforce, none is met. -/
def missesBoth : ReportSchema Rat where
  sections := [{
    kind := kindBenchmarks
    data := .mapping [("target_checks", .mapping [
      ("functional", .mapping [("ttft_check", .int 3)]),
      ("target", .mapping [("ttft_check", .int 3)])])] }]

/-- An eval that reports a pass and no success. -/
def passesAnyway : Block Rat where
  kind := kindEvals
  data := .mapping [("status", .str "pass"), ("success", .bool false)]

/-- Two evals of one title that fail where evals are not enforced. -/
def sameTitle : ReportSchema Rat where
  sections := List.replicate 2
    { kind := kindEvals, title := some "E", data := .mapping [("success", .bool false)] }

theorem sameTitle_graded : (acceptanceCriteriaCheck sameTitle [] (some "EXPERIMENTAL")).isSome := by
  decide +kernel

theorem sound_iff_consistent_sameTitle :
    ((acceptanceCriteriaCheck sameTitle [] (some "EXPERIMENTAL")).get sameTitle_graded).Sound
        sameTitle [] (some "EXPERIMENTAL") ↔
      Consistent sameTitle [] (some "EXPERIMENTAL") :=
  sound_iff_consistent (Option.some_get sameTitle_graded).symm

/-- A category passed minus one block, one of two that were waived, or one that failed. -/
theorem counts_wrong :
    (acceptanceCriteriaCheck missesBoth [] (some "FUNCTIONAL")).map
        (fun verdict => verdict.categories.map CategoryResult.passed) = some [-1, 0, 0, 0] ∧
      (acceptanceCriteriaCheck sameTitle [] (some "EXPERIMENTAL")).map
        (fun verdict => verdict.categories.map CategoryResult.passed) = some [0, 1, 0, 0] ∧
      (acceptanceCriteriaCheck ⟨[passesAnyway]⟩ [] none).map
        (fun verdict => verdict.categories.map CategoryResult.passed) = some [0, 1, 0, 0] := by
  decide +kernel

end InferenceServer.Reports
