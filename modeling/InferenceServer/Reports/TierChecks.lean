import InferenceServer.Reports.TargetChecks

/-! The checks that the producer writes under suffixed names, as the acceptance verdict finds
them. -/
namespace InferenceServer.Reports
open Machine

theorem mem_metricSpecs (metric : Metric) : metric ∈ metricSpecs := by
  cases metric <;> decide

section Names

theorem endsWith_iff (text suffix : String) :
    text.endsWith suffix = true ↔ suffix.toList <:+ text.toList := by
  have slice := @String.Slice.endsWith_string_iff suffix text.toSlice
  rw [String.copy_toSlice] at slice
  exact slice

section

variable (metric : Metric)
include metric

theorem checkName_endsWith : metric.checkName.endsWith checkSuffix = true := by
  rw [endsWith_iff, Metric.checkName, String.toList_append]
  exact List.suffix_append _ _

theorem metricOf_checkName : metricOf metric.checkName = metric.field := by
  refine String.toList_injective ?_
  have copied : metricOf metric.checkName = (metric.checkName.dropEnd checkSuffix.length).copy := rfl
  rw [copied, String.toList_copy_dropEnd, Metric.checkName, String.toList_append,
    List.length_append, String.length_toList, String.length_toList, Nat.add_sub_cancel]
  exact List.take_left' String.length_toList

theorem field_not_check : metric.field.endsWith checkSuffix = false := by
  rw [← Bool.not_eq_true, endsWith_iff]
  cases metric <;> decide

theorem ratioName_not_check : metric.ratioName.endsWith checkSuffix = false := by
  rw [← Bool.not_eq_true, endsWith_iff]
  cases metric <;> decide

end

/-- Nothing else in a tier has the name of a metric. -/
theorem field_eq_iff (metric other : Metric) : metric.field = other.field ↔ metric = other := by
  cases metric <;> cases other <;> decide

theorem field_ne_ratioName (metric other : Metric) : metric.field ≠ other.ratioName := by
  cases metric <;> cases other <;> decide

theorem field_ne_checkName (metric other : Metric) : metric.field ≠ other.checkName := by
  intro same
  have suffix := field_not_check metric
  rw [same, checkName_endsWith] at suffix
  cases suffix

theorem checkName_inj {metric other : Metric} (same : metric.checkName = other.checkName) :
    metric = other := by
  refine (field_eq_iff metric other).mp ?_
  rw [← metricOf_checkName, same, metricOf_checkName]

end Names

section Tiers

variable {Number : Type} [Field Number] [LinearOrder Number] {complete : Bool}
  {record : PyValue (PyFloat Number)} {target : PerformanceTarget Number} (metric : Metric)

/-- What the producer says of a metric. -/
def checkOf (complete : Bool) (record : PyValue (PyFloat Number))
    (target : PerformanceTarget Number) (metric : Metric) : ReportCheckTypes :=
  match declaredTarget target metric with
  | none => .na
  | some targetValue =>
    (grade complete target.tolerance targetValue (measured record metric)
      metric.lowerIsBetter).2

theorem filter_buildMetric :
    (buildMetric complete target record metric).filter (fun entry => entry.1.endsWith checkSuffix) =
      [(metric.checkName, .check (checkOf complete record target metric))] := by
  unfold buildMetric checkOf
  cases declaredTarget target metric with
  | none => simp only [List.filter_cons, checkName_endsWith, if_true, List.filter_nil]
  | some targetValue =>
    simp only [List.filter_cons, checkName_endsWith, field_not_check, ratioName_not_check, if_true,
      Bool.false_eq_true, if_false, List.filter_nil]

theorem filter_buildTier :
    (buildTier complete record target).filter (fun entry => entry.1.endsWith checkSuffix) =
      metricSpecs.map fun metric =>
        (metric.checkName, .check (checkOf complete record target metric)) := by
  unfold buildTier
  rw [List.filter_flatMap, List.map_eq_flatMap]
  exact List.flatMap_congr fun metric _ => filter_buildMetric metric

theorem names_buildMetric {metric : Metric} {entry : String × TierValue Number}
    (member : entry ∈ buildMetric complete target record metric) :
    entry.1 = metric.field ∨ entry.1 = metric.ratioName ∨ entry.1 = metric.checkName := by
  unfold buildMetric at member
  split at member
  · exact .inr (.inr (congrArg Prod.fst (List.mem_singleton.mp member)))
  · rcases List.mem_cons.mp member with first | member
    · exact .inl (congrArg Prod.fst first)
    · rcases List.mem_cons.mp member with second | member
      · exact .inr (.inl (congrArg Prod.fst second))
      · exact .inr (.inr (congrArg Prod.fst (List.mem_singleton.mp member)))

theorem lookup_flatMap {Item Key Value : Type} [BEq Key] [LawfulBEq Key]
    {entries : Item → List (Key × Value)} {key : Key} {item : Item} {items : List Item}
    (member : item ∈ items)
    (others : ∀ other ∈ items, other ≠ item → (entries other).lookup key = none) :
    (items.flatMap entries).lookup key = (entries item).lookup key := by
  induction items with
  | nil => cases member
  | cons first rest ih =>
    rw [List.flatMap_cons, List.lookup_append]
    have elsewhere := fun other there => others other (List.mem_cons_of_mem _ there)
    by_cases here : first = item
    · subst here
      cases found : (entries first).lookup key with
      | some value => rfl
      | none =>
        rw [Option.none_or]
        by_cases again : first ∈ rest
        · rw [ih again elsewhere, found]
        · refine List.lookup_eq_none_iff.mpr fun entry inside => ?_
          obtain ⟨other, there, held⟩ := List.mem_flatMap.mp inside
          have none_ := elsewhere other there fun same => again (same ▸ there)
          exact List.lookup_eq_none_iff.mp none_ entry held
    · rw [others first List.mem_cons_self here, Option.none_or]
      exact ih ((List.mem_cons.mp member).resolve_left (Ne.symm here)) elsewhere

/-- The target of a metric stands under its name, if there is one. -/
theorem lookup_field : (buildTier complete record target).lookup metric.field =
    (declaredTarget target metric).map fun targetValue => .number (.finite targetValue) := by
  have alone : ∀ other ∈ metricSpecs, other ≠ metric →
      (buildMetric complete target record other).lookup metric.field = none := by
    intro other _ different
    refine List.lookup_eq_none_iff.mpr fun entry member => ?_
    rw [bne_iff_ne]
    rcases names_buildMetric member with same | same | same
    · rw [same, ne_eq, field_eq_iff]
      exact Ne.symm different
    · rw [same]
      exact field_ne_ratioName metric other
    · rw [same]
      exact field_ne_checkName metric other
  rw [buildTier, lookup_flatMap (mem_metricSpecs metric) alone, buildMetric]
  cases declaredTarget target metric with
  | none =>
    refine List.lookup_eq_none_iff.mpr fun entry member => ?_
    rw [bne_iff_ne, List.mem_singleton.mp member]
    exact field_ne_checkName metric metric
  | some targetValue => exact List.lookup_cons_self

theorem lookup_map_entries {Held Kept : Type} (kept : Held → Kept) (entries : List (String × Held))
    (name : String) : (entries.map fun entry => (entry.1, kept entry.2)).lookup name =
      (entries.lookup name).map kept := by
  induction entries with
  | nil => rfl
  | cons entry rest ih =>
    rw [List.map_cons, List.lookup_cons, List.lookup_cons]
    split
    · rfl
    · exact ih

theorem get_field : (tierValue (buildTier complete record target)).get metric.field =
    ((declaredTarget target metric).map fun bound => .float (.finite bound)).getD .none := by
  have found : ((buildTier complete record target).map
      fun entry => (entry.1, entry.2.toValue)).lookup metric.field =
        (declaredTarget target metric).map fun bound => .float (.finite bound) := by
    rw [lookup_map_entries, lookup_field, Option.map_map]
    rfl
  exact congrArg (Option.getD · .none) found

theorem declaredTarget_eq_some {metric : Metric} {bound : Number} :
    declaredTarget target metric = some bound ↔ target.of metric = some bound ∧ 0 < bound := by
  unfold declaredTarget
  rw [Option.filter_eq_some_iff, decide_eq_true_eq]

end Tiers

section Checks

variable {Number : Type} [Field Number] [LinearOrder Number] {complete : Bool}
  {record : PyValue (PyFloat Number)} {targets : Dict String (PerformanceTarget Number)}

theorem lookup_filterMap_levels {Held : Type} {held : String → Option Held} {levels : List String}
    {level : String} (member : level ∈ levels) :
    (levels.filterMap fun level => (held level).map (level, ·)).lookup level = held level := by
  induction levels with
  | nil => cases member
  | cons first rest ih =>
    by_cases here : level = first
    · subst here
      cases found : held level with
      | some value => rw [List.filterMap_cons, found, Option.map_some]; exact List.lookup_cons_self
      | none =>
        rw [List.filterMap_cons, found, Option.map_none]
        by_cases again : level ∈ rest
        · exact (ih again).trans found
        · refine List.lookup_eq_none_iff.mpr fun entry inside => ?_
          obtain ⟨other, there, made⟩ := List.mem_filterMap.mp inside
          obtain ⟨value, -, rfl⟩ := Option.map_eq_some_iff.mp made
          rw [bne_iff_ne]
          exact fun same => again (same ▸ there)
    · have later := (List.mem_cons.mp member).resolve_left here
      rw [List.filterMap_cons]
      cases held first with
      | none => exact ih later
      | some value =>
        rw [Option.map_some, List.lookup_cons, beq_false_of_ne here]
        exact ih later

/-- The tiers that the producer writes. -/
def tiersOf (targets : Dict String (PerformanceTarget Number)) (record : PyValue (PyFloat Number))
    (complete : Bool) : List (String × PyValue (PyFloat Number)) :=
  (buildTargetChecks targets record complete).1.map fun tier => (tier.1, tierValue tier.2)

theorem lookup_built {level : String} (member : level ∈ targetLevels) :
    (buildTargetChecks targets record complete).1.lookup level =
      (targets.lookup level).map (buildTier complete record) := by
  have built := @lookup_filterMap_levels _
    (fun level => (targets.lookup level).map (buildTier complete record)) _ _ member
  simp only [Option.map_map, Function.comp_def] at built
  exact built

theorem lookup_tiersOf {level : String} (member : level ∈ targetLevels) :
    (tiersOf targets record complete).lookup level =
      (targets.lookup level).map fun target => tierValue (buildTier complete record target) := by
  rw [tiersOf, lookup_map_entries, lookup_built member, Option.map_map]
  rfl

/-- A check of the producer. -/
def madeCheck (complete : Bool) (record : PyValue (PyFloat Number)) (level : String)
    (target : PerformanceTarget Number) (metric : Metric) : TargetCheck (PyFloat Number) where
  level
  levelChecks := tierValue (buildTier complete record target)
  name := metric.checkName
  value := .int (checkOf complete record target metric).value

theorem levelChecks_eq (level : String) (target : PerformanceTarget Number) :
    (((buildTier complete record target).map fun entry => (entry.1, entry.2.toValue)).filter
      fun entry => entry.1.endsWith checkSuffix).map
        (fun entry => TargetCheck.mk level (tierValue (buildTier complete record target)) entry.1
          entry.2) =
      metricSpecs.map (madeCheck complete record level target) := by
  rw [List.filter_map]
  have filtered := @filter_buildTier _ _ _ complete record target
  have names : ((fun entry : String × PyValue (PyFloat Number) => entry.1.endsWith checkSuffix) ∘
      fun entry : String × TierValue Number => (entry.1, entry.2.toValue)) =
        fun entry => entry.1.endsWith checkSuffix := rfl
  rw [names, filtered, List.map_map, List.map_map]
  rfl

theorem targetChecks_eq : targetChecks (tiersOf targets record complete) =
    targetLevels.flatMap fun level => (targets.lookup level).elim [] fun target =>
      metricSpecs.map (madeCheck complete record level target) := by
  unfold targetChecks
  refine List.flatMap_congr fun level member => ?_
  rw [lookup_tiersOf member]
  cases targets.lookup level with
  | none => rfl
  | some target => exact levelChecks_eq level target

theorem mem_targetChecks {check : TargetCheck (PyFloat Number)} :
    check ∈ targetChecks (tiersOf targets record complete) ↔
      ∃ level ∈ targetLevels, ∃ target, targets.lookup level = some target ∧
        ∃ metric, check = madeCheck complete record level target metric := by
  rw [targetChecks_eq, List.mem_flatMap]
  refine exists_congr fun level => and_congr_right fun _ => ?_
  cases targets.lookup level with
  | none =>
    constructor
    · intro inside
      cases inside
    · rintro ⟨_, none_, _⟩
      cases none_
  | some target =>
    rw [Option.elim_some, List.mem_map]
    constructor
    · rintro ⟨metric, -, rfl⟩
      exact ⟨target, rfl, metric, rfl⟩
    · rintro ⟨_, same, metric, rfl⟩
      cases same
      exact ⟨metric, mem_metricSpecs metric, rfl⟩

end Checks

section Failures

variable {Number : Type} [Field Number] [LinearOrder Number]

/-- A measurement within the tolerance of a target, in the direction of the metric. -/
def Within (target : PerformanceTarget Number) (metric : Metric) (bound : Number)
    (actual : PyFloat Number) : Prop :=
  if metric.lowerIsBetter then actual.AtMost ((1 + target.tolerance) * bound)
  else actual.AtLeast ((1 - target.tolerance) * bound)

/-- Nothing is measured, or what is measured is outside the target. -/
def Missed (target : PerformanceTarget Number) (metric : Metric) (bound : Number)
    (actual : Option (PyFloat Number)) : Prop :=
  ∀ found, actual = some found → ¬ Within target metric bound found

/-- A point that requires complete metrics has no use for a measurement that is not positive and
finite either. -/
def MissedOrIncomplete (complete : Bool) (target : PerformanceTarget Number) (metric : Metric)
    (bound : Number) (actual : Option (PyFloat Number)) : Prop :=
  complete = true ∧ isIncomplete actual = true ∨ Missed target metric bound actual

variable [IsStrictOrderedRing Number]

theorem check_eq_pass_iff {target : PerformanceTarget Number} {bound : Number}
    (positive : 0 < bound) (metric : Metric) (actual : PyFloat Number) :
    check (actual.dividedBy bound) target.tolerance metric.lowerIsBetter = .pass ↔
      Within target metric bound actual := by
  unfold check Within
  cases metric.lowerIsBetter with
  | true =>
    simp only [if_true, ← PyFloat.atMost_dividedBy actual positive]
    by_cases met : (actual.dividedBy bound).AtMost (1 + target.tolerance) <;>
      simp [met, ReportCheckTypes.fromResult]
  | false =>
    simp only [Bool.false_eq_true, if_false, ← PyFloat.atLeast_dividedBy actual positive]
    by_cases met : (actual.dividedBy bound).AtLeast (1 - target.tolerance) <;>
      simp [met, ReportCheckTypes.fromResult]

theorem grade_eq_pass_iff {complete : Bool} {target : PerformanceTarget Number} {bound : Number}
    (positive : 0 < bound) (metric : Metric) (actual : Option (PyFloat Number)) :
    (grade complete target.tolerance bound actual metric.lowerIsBetter).2 = .pass ↔
      ¬ MissedOrIncomplete complete target metric bound actual := by
  unfold grade MissedOrIncomplete
  rw [← Bool.and_eq_true, not_or]
  split
  · rename_i both
    exact ⟨fun fails => (nomatch fails), fun never => absurd both never.1⟩
  · rename_i whole
    cases actual with
    | none =>
      refine ⟨fun fails => (nomatch fails), fun met => absurd ?_ met.2⟩
      intro found none_
      cases none_
    | some actual =>
      refine (check_eq_pass_iff positive metric actual).trans ?_
      constructor
      · intro within_
        exact ⟨whole, fun missed => missed actual rfl within_⟩
      · intro met
        by_contra outside
        refine met.2 fun found same => ?_
        cases same
        exact outside

omit [IsStrictOrderedRing Number] in
/-- What is measured has a result. -/
theorem grade_some (complete : Bool) (tolerance bound : Number) (actual : PyFloat Number)
    (lowerIsBetter : Bool) :
    (grade complete tolerance bound (some actual) lowerIsBetter).2 = .pass ∨
      (grade complete tolerance bound (some actual) lowerIsBetter).2 = .fail := by
  have result : ∀ passed, ReportCheckTypes.fromResult passed = .pass ∨
      ReportCheckTypes.fromResult passed = .fail := by
    intro passed
    cases passed with
    | true => exact .inl rfl
    | false => exact .inr rfl
  unfold grade
  split
  · exact .inr rfl
  · exact result _

variable [PyText Number] {complete : Bool} {record : PyValue (PyFloat Number)} {level : String}
  {target : PerformanceTarget Number} {metric : Metric}

omit [IsStrictOrderedRing Number] in
theorem hasTarget_iff : hasTarget (tierValue (buildTier complete record target)) metric.checkName ↔
    (declaredTarget target metric).isSome := by
  unfold hasTarget
  rw [metricOf_checkName, get_field]
  cases declared : declaredTarget target metric with
  | none => exact Iff.rfl
  | some bound =>
    have positive := (declaredTarget_eq_some.mp declared).2
    have above : compare bound 0 = .gt := compare_gt_iff_gt.mpr positive
    refine iff_of_true ?_ rfl
    show (true && decide (some (compare bound 0) = some .gt)) = true
    rw [above]
    rfl

/-- A check fails where a target is declared and not met. -/
theorem fails_iff : (madeCheck complete record level target metric).fails ↔
    ∃ bound, declaredTarget target metric = some bound ∧
      MissedOrIncomplete complete target metric bound (measured record metric) := by
  have has := @hasTarget_iff _ _ _ _ complete record target metric
  have result : checkOf complete record target metric =
      (declaredTarget target metric).elim .na fun bound =>
        (grade complete target.tolerance bound (measured record metric) metric.lowerIsBetter).2 := by
    unfold checkOf
    cases declaredTarget target metric <;> rfl
  unfold TargetCheck.fails TargetCheck.missingMeasurement madeCheck
  dsimp only
  cases declared : declaredTarget target metric with
  | none =>
    rw [declared] at has result
    have no : hasTarget (tierValue (buildTier complete record target)) metric.checkName = false :=
      Bool.eq_false_iff.mpr fun some_ => nomatch has.mp some_
    rw [no, result]
    refine iff_of_false (fun fails => nomatch fails) ?_
    rintro ⟨bound, none_, -⟩
    cases none_
  | some bound =>
    rw [declared] at has result
    have positive := (declaredTarget_eq_some.mp declared).2
    have pass := @grade_eq_pass_iff _ _ _ _ complete target bound positive metric
      (measured record metric)
    rw [has.mpr rfl, result, Option.elim_some]
    have missed : (grade complete target.tolerance bound (measured record metric)
        metric.lowerIsBetter).2 ≠ .pass ↔
          ∃ other, some bound = some other ∧
            MissedOrIncomplete complete target metric other (measured record metric) := by
      rw [ne_eq, pass, not_not]
      constructor
      · exact fun missed => ⟨bound, rfl, missed⟩
      · rintro ⟨_, same, missed⟩
        cases same
        exact missed
    refine Iff.trans ?_ missed
    cases (grade complete target.tolerance bound (measured record metric)
      metric.lowerIsBetter).2 with
    | na => exact iff_of_true rfl (fun same => nomatch same)
    | pass => exact iff_of_false (fun fails => nomatch fails) (fun differs => differs rfl)
    | fail => exact iff_of_true rfl (fun same => nomatch same)

end Failures

section Verdict

variable {Number : Type} [Field Number] [LinearOrder Number] {complete : Bool}
  {record : PyValue (PyFloat Number)} {targets : Dict String (PerformanceTarget Number)}

/-- The checks of a tier that have a result. -/
theorem mem_real {target : PerformanceTarget Number} {entry : String × TierValue Number} :
    entry ∈ (buildTier complete record target).filter (fun entry =>
      entry.1.endsWith checkSuffix && entry.2 ≠ .check .na) ↔
    ∃ metric, checkOf complete record target metric ≠ .na ∧
      entry = (metric.checkName, .check (checkOf complete record target metric)) := by
  have checks : entry ∈ (buildTier complete record target).filter
      (fun entry => entry.1.endsWith checkSuffix) ↔ ∃ metric, entry =
        (metric.checkName, .check (checkOf complete record target metric)) := by
    rw [filter_buildTier, List.mem_map]
    exact ⟨fun ⟨metric, _, same⟩ => ⟨metric, same.symm⟩,
      fun ⟨metric, same⟩ => ⟨metric, mem_metricSpecs metric, same.symm⟩⟩
  rw [List.mem_filter] at checks
  rw [List.mem_filter, Bool.and_eq_true, ← and_assoc, checks, decide_eq_true_eq]
  constructor
  · rintro ⟨⟨metric, rfl⟩, result⟩
    exact ⟨metric, fun na => result (congrArg TierValue.check na), rfl⟩
  · rintro ⟨metric, result, rfl⟩
    exact ⟨⟨metric, rfl⟩, fun same => result (TierValue.check.inj same)⟩

theorem exists_of_verdict (result : verdict (buildTargetChecks targets record complete).1 ≠ .na) :
    ∃ target, targets.lookup "target" = some target ∧
      ∃ metric, (declaredTarget target metric).isSome := by
  unfold verdict at result
  rw [lookup_built (by decide)] at result
  cases found : targets.lookup "target" with
  | none => rw [found] at result; exact absurd rfl result
  | some target =>
    refine ⟨target, rfl, ?_⟩
    rw [found, Option.map_some, Option.getD_some] at result
    dsimp only at result
    split at result
    · exact absurd rfl result
    · rename_i some_
      rw [List.isEmpty_iff] at some_
      obtain ⟨entry, member⟩ := List.exists_mem_of_ne_nil _ some_
      obtain ⟨metric, real, -⟩ := mem_real.mp member
      refine ⟨metric, ?_⟩
      unfold checkOf at real
      split at real
      · exact absurd rfl real
      · rename_i declared
        rw [declared]
        rfl

theorem no_fail_of_verdict {target : PerformanceTarget Number}
    (result : verdict (buildTargetChecks targets record complete).1 = .pass)
    (found : targets.lookup "target" = some target) (metric : Metric) :
    checkOf complete record target metric ≠ .fail := by
  intro fails
  unfold verdict at result
  rw [lookup_built (by decide), found, Option.map_some, Option.getD_some] at result
  dsimp only at result
  split at result
  · cases result
  · split at result
    · cases result
    · rename_i none_
      rw [List.any_eq_true] at none_
      refine none_ ⟨_, mem_real.mpr ⟨metric, fun na => (nomatch fails.symm.trans na), rfl⟩, ?_⟩
      rw [fails]
      exact decide_eq_true rfl

end Verdict

end InferenceServer.Reports
