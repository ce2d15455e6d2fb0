import InferenceServer.Reports.PointBlock
import Mathlib.Tactic.NormNum

/-! The verdict over one benchmark point, from what was measured and what its tiers ask for to the
blockers of the report. -/
namespace InferenceServer.Reports
open Machine

variable {Number : Type} [Field Number] [LinearOrder Number] [PyText Number]
  {config : LLMRunConfig Number} {record : PerfRecord Number} {fields : Fields Number}
  {block : Block (PyFloat Number)} {modelStatus : Option String}

section Single

/-- The verdict over a report of one block. -/
theorem checkBenchmarks_single (kind : block.kind = kindBenchmarks) :
    let grade := gradeBenchmark modelStatus block (blockKey block)
    let result := checkBenchmarks ⟨[block]⟩ modelStatus
    result.blockers = .ofList grade.blockers ∧ result.na = grade.na ∧
      result.passed = 1 - (grade.failed + grade.partialRuns : Nat) - grade.na - grade.skipped -
        (Dict.ofList grade.waived).length := by
  have blocks : benchmarkBlocks ⟨[block]⟩ = [block] := by
    unfold benchmarkBlocks
    rw [List.filter_cons_of_pos (by rw [kind]; exact decide_eq_true rfl), List.filter_nil]
  have key : pointKey [block] 1 block = blockKey block := by
    unfold pointKey
    rw [if_neg]
    rw [List.map_singleton, List.count_singleton_self]
    exact Nat.lt_irrefl 1
  have grades : benchmarkGrades ⟨[block]⟩ modelStatus =
      [gradeBenchmark modelStatus block (blockKey block)] := by
    unfold benchmarkGrades
    rw [blocks]
    show [gradeBenchmark modelStatus block (pointKey [block] 1 block)] = _
    rw [key]
  dsimp only
  unfold checkBenchmarks
  rw [grades]
  refine ⟨?_, ?_, ?_⟩
  · exact congrArg Dict.ofList (List.append_nil _)
  · exact Nat.add_zero _
  · simp [tally, CategoryResult.passed]

end Single

section Tiers

/-- A target of the tier is not met, by what counts as missed. -/
def Unmet (missed : PerformanceTarget Number → Metric → Number → Option (PyFloat Number) → Prop)
    (config : LLMRunConfig Number) (record : PerfRecord Number) (tier : String)
    (metric : Metric) : Prop :=
  ∃ target bound, config.targets.lookup tier = some target ∧ target.of metric = some bound ∧
    0 < bound ∧ missed target metric bound (measured record.value metric)

def blockerKey (block : Block (PyFloat Number)) (tier : String) (metric : Metric) : String :=
  blockKey block ++ "." ++ tier ++ "." ++ metric.checkName

/-- A check of the block that fails. -/
def failing (config : LLMRunConfig Number) (record : PerfRecord Number) :
    List (TargetCheck (PyFloat Number)) :=
  (targetChecks (tiersOf config.targets record.value config.requireCompleteMetrics)).filter
    TargetCheck.fails

variable [IsStrictOrderedRing Number] in
theorem mem_failing {check : TargetCheck (PyFloat Number)} : check ∈ failing config record ↔
    ∃ tier ∈ targetLevels, ∃ target metric, config.targets.lookup tier = some target ∧
      check = madeCheck config.requireCompleteMetrics record.value tier target metric ∧
      Unmet (MissedOrIncomplete config.requireCompleteMetrics) config record tier metric := by
  unfold failing
  rw [List.mem_filter, mem_targetChecks]
  constructor
  · rintro ⟨⟨tier, member, target, found, metric, rfl⟩, fails⟩
    obtain ⟨bound, declared, missed⟩ := fails_iff.mp fails
    obtain ⟨stated, positive⟩ := declaredTarget_eq_some.mp declared
    exact ⟨tier, member, target, metric, found, rfl, target, bound, found, stated, positive, missed⟩
  · rintro ⟨tier, member, target, metric, found, rfl, other, bound, held, stated, positive, missed⟩
    cases found.symm.trans held
    exact ⟨⟨tier, member, target, found, metric, rfl⟩,
      fails_iff.mpr ⟨bound, declaredTarget_eq_some.mpr ⟨stated, positive⟩, missed⟩⟩

theorem gradeTargets_eq (carries : Carries fields config record)
    (data : block.data = .mapping fields.entries) (declares : DeclaresAny config)
    (enforcedTiers : List String) (key : String) : gradeTargets enforcedTiers block key =
      (((failing config record).filter fun check => !check.isInformational enforcedTiers block).map
          (·.entry enforcedTiers block key),
        ((failing config record).filter fun check => check.isInformational enforcedTiers block).map
          (·.entry enforcedTiers block key)) := by
  have some_ : targetChecks (tiersOf config.targets record.value config.requireCompleteMetrics) ≠
      [] := by
    obtain ⟨tier, member, metric, target, found, -⟩ := declares
    exact List.ne_nil_of_mem (mem_targetChecks.mpr ⟨tier, member, target, found, metric, rfl⟩)
  have whole : (targetChecks (tiersOf config.targets record.value
      config.requireCompleteMetrics)).isEmpty = false := by
    rw [Bool.eq_false_iff, ne_eq, List.isEmpty_iff]
    exact some_
  unfold gradeTargets
  rw [targetChecks_field carries data, targets_of_declaresAny declares,
    if_neg Bool.false_ne_true]
  dsimp only
  rw [whole, if_neg Bool.false_ne_true]
  rfl

/-- Whether a failing check only informs. -/
theorem madeCheck_isInformational (carries : Carries fields config record)
    (data : block.data = .mapping fields.entries) {enforcedTiers : List String} {tier : String}
    {complete : Bool} {target : PerformanceTarget Number} {metric : Metric} :
    (madeCheck complete record.value tier target metric).isInformational enforcedTiers block ↔
      tier ∉ enforcedTiers ∨ IsShould Number ((ownPriority config metric).getD "") := by
  unfold TargetCheck.isInformational TargetCheck.metric madeCheck
  dsimp only
  rw [metricOf_checkName, Bool.or_eq_true, decide_eq_true_eq, decide_eq_true_eq,
    metricPriority_eq carries data]

/-- What the grading of a point with targets comes to. -/
structure Grades (grade : Graded) (config : LLMRunConfig Number) (record : PerfRecord Number)
    (block : Block (PyFloat Number)) (enforcedTiers : List String) : Prop where
  blockers : ∀ key, (∃ entry ∈ grade.blockers, entry.1 = key) ↔
    ∃ tier ∈ targetLevels, ∃ metric, key = blockerKey block tier metric ∧ tier ∈ enforcedTiers ∧
      Unmet (MissedOrIncomplete config.requireCompleteMetrics) config record tier metric ∧
      ¬ IsShould Number ((ownPriority config metric).getD "") ∧
      ¬ IsShould Number (pointPriority config)
  na : grade.na = 0
  rest : grade.skipped = 0 ∧ grade.partialRuns = 0
  passed : grade.failed = 0 ∧ grade.waived = [] ↔ failing config record = []

theorem passed_iff {first second : List (String × String)} {report : String × String}
    (split : first = [] ∧ second = [] ↔ failing config record = []) :
    (if first.isEmpty then 0 else 1) = 0 ∧ (if second.isEmpty then [] else [report]) = [] ↔
      failing config record = [] := by
  rw [← split]
  refine and_congr ?_ ?_
  · cases first with
    | nil => exact iff_of_true rfl rfl
    | cons => exact iff_of_false (fun one => nomatch one) (fun none_ => nomatch none_)
  · cases second with
    | nil => exact iff_of_true rfl rfl
    | cons => exact iff_of_false (fun one => nomatch one) (fun none_ => nomatch none_)

/-- The checks that fail are those that block and those that only inform. -/
theorem split_iff {Check Entry : Type} {checks : List Check} {informs : Check → Bool}
    {entry : Check → Entry} : (checks.filter fun check => !informs check).map entry = [] ∧
      (checks.filter fun check => informs check).map entry = [] ↔ checks = [] := by
  rw [List.map_eq_nil_iff, List.map_eq_nil_iff, List.filter_eq_nil_iff, List.filter_eq_nil_iff]
  constructor
  · rintro ⟨blocks, demoted⟩
    refine List.eq_nil_iff_forall_not_mem.mpr fun check member => ?_
    have first := blocks check member
    rw [Bool.not_eq_true', Bool.not_eq_false] at first
    exact demoted check member first
  · rintro rfl
    exact ⟨fun _ member => (nomatch member), fun _ member => (nomatch member)⟩

variable [IsStrictOrderedRing Number] in
theorem gradeBenchmark_grades (carries : Carries fields config record)
    (data : block.data = .mapping fields.entries) (clean : requestFailure block = none)
    (declares : DeclaresAny config) :
    Grades (gradeBenchmark modelStatus block (blockKey block)) config record block
      (enforcedBenchmarkTiers modelStatus) := by
  classical
  have explicit : explicitStatus block ≠ some .skip := by
    rw [explicitStatus_eq carries data]
    split
    · exact fun same => nomatch same
    · exact fun same => nomatch same
  have status : benchmarkStatus block = none := by
    rw [benchmarkStatus_eq carries data, if_pos declares]
  have should := blockPriority_eq carries data
  unfold gradeBenchmark
  rw [if_neg explicit, clean, status, gradeTargets_eq carries data declares]
  dsimp only
  by_cases demoted : blockPriority block = priorityShould
  · rw [if_pos demoted]
    refine ⟨fun key => ?_, rfl, ⟨rfl, rfl⟩, ?_⟩
    · refine iff_of_false ?_ ?_
      · rintro ⟨entry, member, -⟩
        cases member
      · rintro ⟨tier, -, metric, -, -, -, -, must⟩
        exact must (should.mp demoted)
    · refine @passed_iff Number _ _ _ config record [] _ _ ?_
      rw [List.append_eq_nil_iff, ← @split_iff _ _ (failing config record)
        (fun check => check.isInformational (enforcedBenchmarkTiers modelStatus) block)
        (fun check => check.entry (enforcedBenchmarkTiers modelStatus) block (blockKey block))]
      exact ⟨fun both => ⟨both.2.2, both.2.1⟩, fun both => ⟨rfl, both.2, both.1⟩⟩
  · rw [if_neg demoted]
    refine ⟨fun key => ?_, rfl, ⟨rfl, rfl⟩, passed_iff split_iff⟩
    constructor
    · rintro ⟨entry, member, rfl⟩
      obtain ⟨check, inside, rfl⟩ := List.mem_map.mp member
      obtain ⟨fails, blocks⟩ := List.mem_filter.mp inside
      obtain ⟨tier, among, target, metric, -, rfl, unmet⟩ := mem_failing.mp fails
      rw [Bool.not_eq_true', Bool.eq_false_iff, ne_eq, madeCheck_isInformational carries data,
        not_or, not_not] at blocks
      exact ⟨tier, among, metric, rfl, blocks.1, unmet, blocks.2, fun should_ =>
        demoted (should.mpr should_)⟩
    · rintro ⟨tier, among, metric, rfl, enforced, unmet, must, -⟩
      obtain ⟨target, bound, found, stated⟩ := id unmet
      refine ⟨_, List.mem_map_of_mem (List.mem_filter.mpr
        ⟨mem_failing.mpr ⟨tier, among, target, metric, found, rfl, unmet⟩, ?_⟩), rfl⟩
      rw [Bool.not_eq_true', Bool.eq_false_iff, ne_eq, madeCheck_isInformational carries data, not_or,
        not_not]
      exact ⟨enforced, must⟩

end Tiers

section Verdicts

omit [Field Number] [LinearOrder Number] [PyText Number] in
/-- The keys of two checks of a block differ. -/
theorem blockerKey_inj {first second : String} {metric other : Metric}
    (left : first ∈ targetLevels) (right : second ∈ targetLevels)
    (same : blockerKey block first metric = blockerKey block second other) :
    first = second ∧ metric = other := by
  unfold blockerKey at same
  have rest : first ++ ("." ++ metric.checkName) = second ++ ("." ++ other.checkName) := by
    refine (String.append_right_inj (blockKey block ++ ".")).mp ?_
    simpa only [String.append_assoc] using same
  have tiers : first = second := by
    have heads := congrArg (fun text => text.toList.head?) rest
    simp only [String.toList_append] at heads
    unfold targetLevels at left right
    simp only [List.mem_cons, List.not_mem_nil, or_false] at left right
    rcases left with rfl | rfl | rfl <;> rcases right with rfl | rfl | rfl <;>
      first | rfl | (revert heads; simp)
  subst tiers
  refine ⟨rfl, checkName_inj ?_⟩
  exact (String.append_right_inj ".").mp ((String.append_right_inj first).mp rest)

/-- The verdict over the block of a point, with what counts as a target missed. -/
structure GradedBy
    (missed : PerformanceTarget Number → Metric → Number → Option (PyFloat Number) → Prop)
    (config : LLMRunConfig Number) (record : PerfRecord Number) (block : Block (PyFloat Number))
    (modelStatus : Option String) : Prop where
  blocker : ∀ tier ∈ targetLevels, ∀ metric,
    blockerKey block tier metric ∈ (checkBenchmarks ⟨[block]⟩ modelStatus).blockers.keys ↔
      tier ∈ enforcedBenchmarkTiers modelStatus ∧ Unmet missed config record tier metric ∧
        ¬ IsShould Number ((ownPriority config metric).getD "") ∧
        ¬ IsShould Number (pointPriority config)
  only : ∀ key ∈ (checkBenchmarks ⟨[block]⟩ modelStatus).blockers.keys,
    ∃ tier ∈ targetLevels, ∃ metric, key = blockerKey block tier metric
  na : (checkBenchmarks ⟨[block]⟩ modelStatus).na = 1 ↔ ¬ DeclaresAny config
  passed : DeclaresAny config → ((checkBenchmarks ⟨[block]⟩ modelStatus).passed = 1 ↔
    ∀ tier ∈ targetLevels, ∀ metric, ¬ Unmet missed config record tier metric)
  verdict : block.data.get "target_check" = .int ReportCheckTypes.pass.value → ∀ metric,
    (measured record.value metric).isSome → ¬ Unmet missed config record "target" metric

theorem gradeBenchmark_na (carries : Carries fields config record)
    (data : block.data = .mapping fields.entries) (clean : requestFailure block = none)
    (none_ : ¬ DeclaresAny config) :
    gradeBenchmark modelStatus block (blockKey block) = { na := 1 } := by
  classical
  have explicit : explicitStatus block ≠ some .skip := by
    rw [explicitStatus_eq carries data]
    split
    · exact fun same => nomatch same
    · exact fun same => nomatch same
  have status : benchmarkStatus block = some .na := by
    rw [benchmarkStatus_eq carries data, if_neg none_]
  unfold gradeBenchmark
  rw [if_neg explicit, clean, status]
  rfl

omit [PyText Number] in
theorem declares_of_unmet
    {missed : PerformanceTarget Number → Metric → Number → Option (PyFloat Number) → Prop}
    {tier : String} (member : tier ∈ targetLevels) {metric : Metric}
    (unmet : Unmet missed config record tier metric) : DeclaresAny config := by
  obtain ⟨target, bound, found, stated, positive, -⟩ := unmet
  refine ⟨tier, member, metric, target, found, ?_⟩
  rw [declaredTarget_eq_some.mpr ⟨stated, positive⟩]
  rfl

variable [IsStrictOrderedRing Number]

omit [PyText Number] in
theorem verdict_met (carries : Carries fields config record)
    (data : block.data = .mapping fields.entries)
    (pass : block.data.get "target_check" = .int ReportCheckTypes.pass.value) (metric : Metric)
    (some_ : (measured record.value metric).isSome) :
    ¬ Unmet (MissedOrIncomplete config.requireCompleteMetrics) config record "target" metric := by
  rintro ⟨target, bound, found, stated, positive, missed⟩
  have declared := declaredTarget_eq_some.mpr ⟨stated, positive⟩
  have read : block.data.get "target_check" = .int (pointVerdict config record).value := by
    rw [data]
    exact congrArg (Option.getD · .none) carries.verdict
  have result : pointVerdict config record = .pass := by
    have same := PyValue.int.inj (read.symm.trans pass)
    revert same
    cases pointVerdict config record with
    | na => exact fun same => absurd same (by decide)
    | pass => exact fun _ => rfl
    | fail => exact fun same => absurd same (by decide)
  have whole := targets_of_declaresAny ⟨"target", by decide, metric, target, found, by
    rw [declared]; rfl⟩
  unfold pointVerdict at result
  rw [whole, if_neg Bool.false_ne_true] at result
  have fails := no_fail_of_verdict result found metric
  have fails_ := mt (@grade_eq_pass_iff _ _ _ _ config.requireCompleteMetrics target bound positive
    metric (measured record.value metric)).mp (not_not.mpr missed)
  unfold checkOf at fails
  rw [declared] at fails
  dsimp only at fails
  obtain ⟨actual, is⟩ := Option.isSome_iff_exists.mp some_
  rw [is] at fails fails_
  rcases grade_some config.requireCompleteMetrics target.tolerance bound actual
    metric.lowerIsBetter with passes | failed
  · exact fails_ passes
  · exact fails failed

/-- The blockers of a point with targets. -/
theorem mem_blockers_point (carries : Carries fields config record)
    (data : block.data = .mapping fields.entries) (kind : block.kind = kindBenchmarks)
    (clean : requestFailure block = none) (declares : DeclaresAny config) (key : String) :
    key ∈ (checkBenchmarks ⟨[block]⟩ modelStatus).blockers.keys ↔
      ∃ tier ∈ targetLevels, ∃ metric, key = blockerKey block tier metric ∧
        tier ∈ enforcedBenchmarkTiers modelStatus ∧
        Unmet (MissedOrIncomplete config.requireCompleteMetrics) config record tier metric ∧
        ¬ IsShould Number ((ownPriority config metric).getD "") ∧
        ¬ IsShould Number (pointPriority config) := by
  rw [(checkBenchmarks_single kind).1, Dict.mem_keys_ofList]
  exact (gradeBenchmark_grades carries data clean declares).blockers key

end Verdicts

section Incomplete

def firstTokenTarget : PerformanceTarget Rat := { ttftMs := some 100, tolerance := 0 }

/-- A point that requires complete metrics, with a target for the first token. -/
def completePoint : LLMRunConfig Rat where
  isl := 128
  osl := 128
  maxConcurrency := 1
  targets := .ofList [("target", firstTokenTarget)]
  requireCompleteMetrics := true

/-- A run that measured no time at all until the first token. -/
def instantRecord : PerfRecord Rat where
  fields := .ofList [("mean_ttft_ms", .int 0)]
  flat := by decide
  ungraded := by decide

end Incomplete

end InferenceServer.Reports
