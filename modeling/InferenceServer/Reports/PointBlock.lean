import InferenceServer.Reports.TierChecks

/-! The block of a benchmark point with its checks, as the acceptance verdict reads it. -/
namespace InferenceServer.Reports
open Machine

variable {Number : Type}

/-- The fields that carry the checks. -/
def gradingFields : List String :=
  ["status", "priority", "target_priorities", "target_check", "target_checks"]

/-- What a parser makes of a run: a flat record, without the fields that are filled in later. -/
structure PerfRecord (Number : Type) where
  fields : Fields Number
  flat : ∀ entry ∈ fields.entries, entry.2.entries? = none
  ungraded : ∀ name ∈ gradingFields, fields.lookup name = none

namespace PerfRecord

def value (record : PerfRecord Number) : PyValue (PyFloat Number) := .mapping record.fields.entries

def block (record : PerfRecord Number) (title taskType : Option String) :
    Block (PyFloat Number) where
  kind := kindBenchmarks
  data := record.value
  title
  taskType

end PerfRecord

section Data

variable {record : PerfRecord Number} {config : LLMRunConfig Number} {name : String}

theorem ofList_fields (fields : Fields Number) (name : String) :
    (Dict.ofList fields.entries).lookup name = fields.lookup name := by
  rw [Dict.ofList, Dict.lookup_update fields.distinct, Dict.lookup_empty, Option.or_none]
  rfl

/-- The fields of a record with the priorities of its point. -/
def prioritized (config : LLMRunConfig Number) (record : PerfRecord Number) : Fields Number :=
  withTargetPriorities config (withPriority config (Dict.ofList record.fields.entries))

theorem lookup_prioritized (neither : name ≠ "priority" ∧ name ≠ "target_priorities") :
    (prioritized config record).lookup name = record.fields.lookup name := by
  have first : (withPriority config (Dict.ofList record.fields.entries)).lookup name =
      record.fields.lookup name := by
    unfold withPriority
    cases config.priority with
    | none => exact ofList_fields _ _
    | some priority => rw [Dict.lookup_set, if_neg neither.1]; exact ofList_fields _ _
  unfold prioritized withTargetPriorities
  cases config.targetPriorities with
  | none => exact first
  | some priorities =>
    dsimp only
    split
    · exact first
    · rw [Dict.lookup_set, if_neg neither.2]
      exact first

theorem lookup_priority : (prioritized config record).lookup "priority" =
    config.priority.map PyValue.str := by
  have first : (withPriority config (Dict.ofList record.fields.entries)).lookup "priority" =
      config.priority.map PyValue.str := by
    unfold withPriority
    cases config.priority with
    | none => exact (ofList_fields _ _).trans (record.ungraded "priority" (by decide))
    | some priority => rw [Dict.lookup_set, if_pos rfl]; rfl
  unfold prioritized withTargetPriorities
  cases config.targetPriorities with
  | none => exact first
  | some priorities =>
    dsimp only
    split
    · exact first
    · rw [Dict.lookup_set, if_neg (by decide)]
      exact first

/-- The priorities of a point that names some. -/
def statedPriorities (config : LLMRunConfig Number) : List (String × String) :=
  config.targetPriorities.elim [] Dict.entries

/-- The last priority that is stated for a metric. -/
def ownPriority (config : LLMRunConfig Number) (metric : Metric) : Option String :=
  ((statedPriorities config).map fun entry => (fieldOf entry.1, entry.2)).reverse.lookup
    metric.field

/-- What the block says of the priorities of its metrics. -/
def blockPriorities (config : LLMRunConfig Number) : PyValue (PyFloat Number) :=
  match config.targetPriorities with
  | none => .none
  | some priorities =>
    if priorities.entries.isEmpty then .none else .mapping (translatedPriorities priorities).entries

theorem lookup_targetPriorities :
    ((prioritized config record).lookup "target_priorities").getD .none = blockPriorities config := by
  have first : (withPriority config (Dict.ofList record.fields.entries)).lookup
      "target_priorities" = none := by
    have own := (ofList_fields record.fields "target_priorities").trans
      (record.ungraded "target_priorities" (by decide))
    unfold withPriority
    cases config.priority with
    | none => exact own
    | some priority => rw [Dict.lookup_set, if_neg (by decide)]; exact own
  unfold prioritized withTargetPriorities blockPriorities
  cases config.targetPriorities with
  | none => dsimp only; rw [first]; rfl
  | some priorities =>
    dsimp only
    split
    · rw [first]; rfl
    · rw [Dict.lookup_set, if_pos rfl]; rfl

theorem lookup_blockPriorities (metric : Metric) :
    ((blockPriorities config).entries?.getD []).lookup metric.field =
      (ownPriority config metric).map PyValue.str := by
  unfold blockPriorities ownPriority statedPriorities
  cases config.targetPriorities with
  | none => rfl
  | some priorities =>
    dsimp only [Option.elim_some]
    split
    · rename_i empty
      rw [List.isEmpty_iff.mp empty]
      rfl
    · have translated : (translatedPriorities priorities).lookup metric.field =
          (((priorities.entries.map fun entry => (fieldOf entry.1, entry.2)).reverse.lookup
            metric.field).map PyValue.str : Option (PyValue (PyFloat Number))) := by
        rw [translatedPriorities, Dict.lookup_ofList, ← lookup_map_entries, List.map_reverse,
          List.map_map]
        rfl
      exact translated

/-- A nested field of the block with the priorities is a text. -/
theorem texts_blockPriorities {entries : List (String × PyValue (PyFloat Number))}
    (here : (blockPriorities config).entries? = some entries)
    {entry : String × PyValue (PyFloat Number)} (member : entry ∈ entries) :
    ∃ text, entry.2 = .str text := by
  unfold blockPriorities at here
  split at here
  · cases here
  · split at here
    · cases here
    · cases here
      obtain ⟨stated, -, rfl⟩ := List.mem_map.mp (Dict.mem_of_mem_ofList member)
      exact ⟨stated.2, rfl⟩

end Data

section Built

variable [Field Number] [LinearOrder Number]

/-- The tiers that are checked, and their verdict. -/
def pointChecks (config : LLMRunConfig Number) (record : PerfRecord Number) :
    Tiers Number × ReportCheckTypes :=
  buildTargetChecks config.targets record.value config.requireCompleteMetrics

/-- Without any targets there is no verdict. -/
def pointVerdict (config : LLMRunConfig Number) (record : PerfRecord Number) : ReportCheckTypes :=
  if config.targets.entries.isEmpty then .na else (pointChecks config record).2

/-- The fields of a graded block. -/
structure Carries (fields : Fields Number) (config : LLMRunConfig Number)
    (record : PerfRecord Number) : Prop where
  status : fields.lookup "status" =
    if pointVerdict config record = .na then some (.str "na") else none
  priority : fields.lookup "priority" = config.priority.map .str
  priorities : (fields.lookup "target_priorities").getD .none = blockPriorities config
  verdict : fields.lookup "target_check" = some (.int (pointVerdict config record).value)
  checks : fields.lookup "target_checks" =
    if config.targets.entries.isEmpty then none
    else some (.mapping (tiersOf config.targets record.value config.requireCompleteMetrics))
  others : ∀ name ∉ gradingFields, fields.lookup name = record.fields.lookup name

variable {config : LLMRunConfig Number} {record : PerfRecord Number} {title taskType : Option String}

theorem carries_prioritized {fields : Fields Number}
    (status : fields.lookup "status" =
      if pointVerdict config record = .na then some (.str "na") else none)
    (kept : ∀ name, name ≠ "status" → fields.lookup name = (prioritized config record).lookup name)
    (checks : Option (PyValue (PyFloat Number)))
    (tiers : checks = if config.targets.entries.isEmpty then none
      else some (.mapping (tiersOf config.targets record.value config.requireCompleteMetrics))) :
    Carries ((checks.elim id fun value fields => fields.set "target_checks" value)
      (fields.set "target_check" (.int (pointVerdict config record).value))) config record := by
  have lookup : ∀ name, ((checks.elim id fun value (fields : Fields Number) =>
      fields.set "target_checks" value)
        (fields.set "target_check" (.int (pointVerdict config record).value))).lookup name =
      if name = "target_checks" ∧ checks.isSome then checks
      else if name = "target_check" then some (.int (pointVerdict config record).value)
      else fields.lookup name := by
    intro name
    cases checks with
    | none =>
      rw [if_neg (fun both => nomatch both.2)]
      exact Dict.lookup_set _ _ _ _
    | some value =>
      refine (Dict.lookup_set _ _ _ _).trans ?_
      by_cases same : name = "target_checks"
      · rw [if_pos same, if_pos ⟨same, rfl⟩]
      · rw [if_neg same, if_neg fun both => same both.1]
        exact Dict.lookup_set _ _ _ _
  have plain : ∀ name, name ≠ "target_checks" → name ≠ "target_check" →
      ((checks.elim id fun value (fields : Fields Number) => fields.set "target_checks" value)
        (fields.set "target_check" (.int (pointVerdict config record).value))).lookup name =
      fields.lookup name := by
    intro name first second
    rw [lookup, if_neg fun both => first both.1, if_neg second]
  constructor
  · exact (plain "status" (by decide) (by decide)).trans status
  · rw [plain "priority" (by decide) (by decide), kept "priority" (by decide), lookup_priority]
  · rw [plain "target_priorities" (by decide) (by decide), kept "target_priorities" (by decide),
      lookup_targetPriorities]
  · rw [lookup, if_neg (fun both => absurd both.1 (by decide)), if_pos rfl]
  · rw [lookup, ← tiers]
    cases checks with
    | none =>
      rw [if_neg (fun both => nomatch both.2), if_neg (by decide), kept "target_checks" (by decide),
        lookup_prioritized (by decide)]
      exact record.ungraded "target_checks" (by decide)
    | some value => exact if_pos ⟨rfl, rfl⟩
  · intro name other
    have away : ∀ field ∈ gradingFields, name ≠ field := fun field member same =>
      other (same ▸ member)
    rw [plain name (away _ (by decide)) (away _ (by decide)), kept name (away _ (by decide)),
      lookup_prioritized ⟨away _ (by decide), away _ (by decide)⟩]

theorem applyTargetChecks_spec : ∃ fields, Carries fields config record ∧
    (applyTargetChecks (record.block title taskType) config).data = .mapping fields.entries ∧
    (applyTargetChecks (record.block title taskType) config).kind = kindBenchmarks := by
  have kind : ¬ kindBenchmarks ≠ kindBenchmarks := fun differs => differs rfl
  unfold applyTargetChecks PerfRecord.block PerfRecord.value
  dsimp only
  rw [if_neg kind]
  by_cases empty : config.targets.entries.isEmpty
  · have na : pointVerdict config record = .na := if_pos empty
    rw [if_pos empty]
    refine ⟨_, @carries_prioritized _ _ _ _ _ ((prioritized config record).set "status" (.str "na"))
      ?_ ?_ none (if_pos empty).symm, ?_, rfl⟩
    · rw [na, if_pos rfl, Dict.lookup_set, if_pos rfl]
    · intro name other
      rw [Dict.lookup_set, if_neg other]
    · rw [na]
      rfl
  · have real : pointVerdict config record = (pointChecks config record).2 := if_neg empty
    rw [if_neg empty]
    refine ⟨_, @carries_prioritized _ _ _ _ _
      (if (pointChecks config record).2 = .na then
        (prioritized config record).set "status" (.str "na") else prioritized config record)
      ?_ ?_ (some _) (if_neg empty).symm, ?_, rfl⟩
    · rw [real]
      split
      · rw [Dict.lookup_set, if_pos rfl]
      · rw [lookup_prioritized (by decide)]
        exact record.ungraded "status" (by decide)
    · intro name other
      split
      · rw [Dict.lookup_set, if_neg other]
      · rfl
    · rw [real]
      rfl

end Built

section Read

variable [Field Number] [LinearOrder Number] [PyText Number] {config : LLMRunConfig Number}
  {record : PerfRecord Number} {fields : Fields Number} {block : Block (PyFloat Number)}

/-- The priority of the whole point; a point must be met if nothing else is said. -/
def pointPriority (config : LLMRunConfig Number) : String :=
  match config.priority with
  | none => "must"
  | some priority => if priority = "" then "must" else priority

/-- A priority as the verdict reads it. -/
def IsShould (Number : Type) [PyText Number] (priority : String) : Prop :=
  PyText.lower Number (PyText.strip Number priority) = priorityShould

section

variable (carries : Carries fields config record)
include carries

theorem blockPriority_eq (data : block.data = .mapping fields.entries) :
    blockPriority block = priorityShould ↔ IsShould Number (pointPriority config) := by
  have read : block.data.get "priority" = (config.priority.map PyValue.str).getD .none := by
    rw [data, ← carries.priority]
    rfl
  unfold blockPriority IsShould pointPriority
  rw [read]
  cases config.priority with
  | none => exact Iff.rfl
  | some priority =>
    by_cases empty : priority = ""
    · subst empty
      exact Iff.rfl
    · have kept : PyValue.orElse (.str priority : PyValue (PyFloat Number)) (.str "must") =
          .str priority := if_pos (decide_eq_true empty)
      rw [Option.map_some, Option.getD_some, kept]
      dsimp only
      rw [if_neg empty]
      exact Iff.rfl

theorem metricPriority_eq (data : block.data = .mapping fields.entries) (metric : Metric) :
    metricPriority block metric.field = priorityShould ↔
      IsShould Number ((ownPriority config metric).getD "") := by
  have read : block.data.get "target_priorities" = blockPriorities config := by
    rw [data, ← carries.priorities]
    rfl
  unfold metricPriority IsShould
  dsimp only
  rw [read, lookup_blockPriorities]
  cases ownPriority config metric <;> exact Iff.rfl

theorem explicitStatus_eq (data : block.data = .mapping fields.entries) :
    explicitStatus block = if pointVerdict config record = .na then some .na else none := by
  have read : block.data.get "status" =
      (if pointVerdict config record = .na then some (.str "na") else none).getD .none := by
    rw [data, ← carries.status]
    rfl
  have plain : PyText.lower Number (PyText.strip Number "na") = "na" :=
    PyText.plain "na" (by simp)
  unfold explicitStatus
  rw [read]
  split
  · show TestStatus.ofLabel (PyText.lower Number (PyText.strip Number "na")) = _
    rw [plain]
    rfl
  · rfl

end

omit [PyText Number] in
/-- A field that the block lacks is found in no mapping of it but as a text. -/
theorem resolveNested_absent (carries : Carries fields config record) {name : String}
    (absent : fields.lookup name = none) (level : name ∉ targetLevels) :
    resolveNested (.mapping fields.entries) name = .none ∨
      ∃ text, resolveNested (.mapping fields.entries) name = .str text := by
  have nested : resolveNested (.mapping fields.entries) name =
      (fields.entries.findSome? fun entry =>
        (entry.2.entries?.getD []).lookup name).getD .none := by
    have none_ : fields.entries.lookup name = none := absent
    unfold resolveNested PyValue.entries?
    dsimp only
    rw [none_]
  rw [nested]
  cases found : fields.entries.findSome? fun entry => (entry.2.entries?.getD []).lookup name with
  | none => exact .inl rfl
  | some value =>
    refine .inr ?_
    obtain ⟨entry, member, here⟩ := List.exists_of_findSome?_eq_some found
    have held : fields.lookup entry.1 = some entry.2 := Dict.mem_entries_iff.mp member
    obtain ⟨entries, inner⟩ : ∃ entries, entry.2.entries? = some entries := by
      cases inner : entry.2.entries? with
      | none => rw [inner] at here; cases here
      | some entries => exact ⟨entries, rfl⟩
    rw [inner, Option.getD_some] at here
    have field : entry.1 ∈ gradingFields := by
      by_contra other
      have own := (carries.others entry.1 other).symm.trans held
      have flat := record.flat _ (Dict.mem_entries_iff.mpr own)
      rw [inner] at flat
      cases flat
    unfold gradingFields at field
    simp only [List.mem_cons, List.not_mem_nil, or_false] at field
    rcases field with is | is | is | is | is
    · rw [is, carries.status] at held
      split at held
      · rw [← Option.some.inj held] at inner
        cases inner
      · cases held
    · rw [is, carries.priority] at held
      obtain ⟨priority, -, same⟩ := Option.map_eq_some_iff.mp held
      rw [← same] at inner
      cases inner
    · have read := carries.priorities
      rw [← is, held, Option.getD_some] at read
      rw [read] at inner
      obtain ⟨before, after, split, -⟩ := List.lookup_eq_some_iff.mp here
      obtain ⟨text, same⟩ := texts_blockPriorities inner
        (split ▸ List.mem_append_right before List.mem_cons_self)
      exact ⟨text, same⟩
    · rw [is, carries.verdict] at held
      rw [← Option.some.inj held] at inner
      cases inner
    · rw [is, carries.checks] at held
      split at held
      · cases held
      · rw [← Option.some.inj held] at inner
        cases inner
        obtain ⟨before, after, split, -⟩ := List.lookup_eq_some_iff.mp here
        obtain ⟨tier, inside, made⟩ := List.mem_map.mp
          (split ▸ List.mem_append_right before List.mem_cons_self :
            (name, value) ∈ tiersOf config.targets record.value config.requireCompleteMetrics)
        obtain ⟨known, there, from_⟩ := List.mem_filterMap.mp inside
        obtain ⟨target, -, same⟩ := Option.map_eq_some_iff.mp from_
        refine absurd ?_ level
        have named : tier.1 = name := congrArg Prod.fst made
        rw [← named, ← same]
        exact there

omit [Field Number] [LinearOrder Number] [PyText Number] in
theorem resolveNested_record {name : String} : resolveNested record.value name =
    (record.fields.lookup name).getD .none := by
  unfold resolveNested PerfRecord.value PyValue.entries?
  dsimp only
  cases found : record.fields.entries.lookup name with
  | some value => exact (congrArg (Option.getD · .none) found).symm
  | none =>
    have nothing : (record.fields.entries.findSome? fun entry =>
        (entry.2.entries?.getD []).lookup name) = none := by
      refine List.findSome?_eq_none_iff.mpr fun entry member => ?_
      rw [record.flat entry member]
      rfl
    have same : record.fields.lookup name = none := found
    rw [same]
    exact congrArg (Option.getD · .none) nothing

omit [PyText Number] in
/-- What the block adds is no number, so the counts of the requests stay those of the record. -/
theorem resolveNested_count (carries : Carries fields config record) {name : String}
    (other : name ∉ gradingFields) (level : name ∉ targetLevels) :
    resolveNested (.mapping fields.entries) name = resolveNested record.value name ∨
      (resolveNested (.mapping fields.entries) name).isNumber = false := by
  cases found : fields.lookup name with
  | some value =>
    left
    have own := (carries.others name other).symm.trans found
    rw [resolveNested_record, own]
    unfold resolveNested PyValue.entries?
    dsimp only
    have here : fields.entries.lookup name = some value := found
    rw [here]
    rfl
  | none =>
    right
    rcases resolveNested_absent carries found level with none_ | ⟨text, is⟩
    · rw [none_]
      rfl
    · rw [is]
      rfl

/-- Which counts stand for a request that fails. -/
theorem requestFailure_none_iff : requestFailure block = none ↔
    ¬ ((resolveNested block.data "num_requests").isNumber &&
      ((resolveNested block.data "num_requests").sign = some .lt ||
        (resolveNested block.data "num_requests").sign = some .eq)) ∧
    ¬ ((resolveNested block.data "error_request_count").isNumber &&
      (resolveNested block.data "error_request_count").sign = some .gt) := by
  unfold requestFailure
  dsimp only
  split
  · rename_i zero
    exact ⟨fun none_ => (nomatch none_), fun both => absurd zero both.1⟩
  · rename_i some_
    split
    · rename_i failed
      exact ⟨fun none_ => (nomatch none_), fun both => absurd failed both.2⟩
    · rename_i whole
      exact ⟨fun _ => ⟨some_, whole⟩, fun _ => rfl⟩

theorem requestFailure_eq_none (carries : Carries fields config record)
    (data : block.data = .mapping fields.entries) {raw : Block (PyFloat Number)}
    (same : raw.data = record.value) (clean : requestFailure raw = none) :
    requestFailure block = none := by
  rw [requestFailure_none_iff, same] at clean
  rw [requestFailure_none_iff, data]
  constructor
  · rcases resolveNested_count carries (by decide : "num_requests" ∉ gradingFields) (by decide)
      with kept | text
    · rw [kept]
      exact clean.1
    · rw [text]
      exact Bool.false_ne_true
  · rcases resolveNested_count carries (by decide : "error_request_count" ∉ gradingFields)
      (by decide) with kept | text
    · rw [kept]
      exact clean.2
    · rw [text]
      exact Bool.false_ne_true

/-- A tier of the point has a target for the metric. -/
def Declares (config : LLMRunConfig Number) (tier : String) (metric : Metric) : Prop :=
  ∃ target, config.targets.lookup tier = some target ∧ (declaredTarget target metric).isSome

def DeclaresAny (config : LLMRunConfig Number) : Prop :=
  ∃ tier ∈ targetLevels, ∃ metric, Declares config tier metric

omit [PyText Number] in
theorem targets_of_declaresAny (declares : DeclaresAny config) :
    config.targets.entries.isEmpty = false := by
  obtain ⟨tier, -, metric, target, found, -⟩ := declares
  cases all : config.targets.entries with
  | nil => rw [Dict.lookup, all] at found; cases found
  | cons => rfl

omit [PyText Number] in
theorem verdict_of_not_declaresAny (none_ : ¬ DeclaresAny config) :
    pointVerdict config record = .na := by
  by_contra result
  unfold pointVerdict at result
  split at result
  · exact result rfl
  · obtain ⟨target, found, metric, declared⟩ := exists_of_verdict result
    exact none_ ⟨"target", by decide, metric, target, found, declared⟩

omit [PyText Number] in
theorem mem_tiersOf {targets : Dict String (PerformanceTarget Number)}
    {value : PyValue (PyFloat Number)} {complete : Bool}
    {tier : String × PyValue (PyFloat Number)} : tier ∈ tiersOf targets value complete ↔
      ∃ level ∈ targetLevels, ∃ target, targets.lookup level = some target ∧
        tier = (level, tierValue (buildTier complete value target)) := by
  unfold tiersOf buildTargetChecks
  simp only [List.mem_map, List.mem_filterMap, Option.map_eq_some_iff]
  constructor
  · rintro ⟨_, ⟨level, member, target, found, rfl⟩, rfl⟩
    exact ⟨level, member, target, found, rfl⟩
  · rintro ⟨level, member, target, found, rfl⟩
    exact ⟨_, ⟨level, member, target, found, rfl⟩, rfl⟩

omit [PyText Number] in
theorem targetChecks_field (carries : Carries fields config record)
    (data : block.data = .mapping fields.entries) :
    (resolveNested block.data "target_checks").entries? =
      if config.targets.entries.isEmpty then none
      else some (tiersOf config.targets record.value config.requireCompleteMetrics) := by
  rw [data]
  have checks := carries.checks
  by_cases empty : config.targets.entries.isEmpty
  · rw [if_pos empty] at checks ⊢
    rcases resolveNested_absent carries checks (by decide) with none_ | ⟨text, is⟩
    · rw [none_]; rfl
    · rw [is]; rfl
  · rw [if_neg empty] at checks ⊢
    have here : fields.entries.lookup "target_checks" = some _ := checks
    unfold resolveNested PyValue.entries?
    dsimp only
    rw [here]

theorem hasAnyTarget_iff (carries : Carries fields config record)
    (data : block.data = .mapping fields.entries) : hasAnyTarget block ↔ DeclaresAny config := by
  unfold hasAnyTarget
  rw [targetChecks_field carries data]
  by_cases empty : config.targets.entries.isEmpty
  · rw [if_pos empty]
    refine iff_of_false Bool.false_ne_true fun declares => ?_
    rw [targets_of_declaresAny declares] at empty
    cases empty
  · rw [if_neg empty]
    dsimp only
    rw [List.any_eq_true]
    constructor
    · rintro ⟨tier, member, some_⟩
      obtain ⟨level, inside, target, found, rfl⟩ := mem_tiersOf.mp member
      obtain ⟨check, written, both⟩ := List.any_eq_true.mp some_
      obtain ⟨suffix, has⟩ := Bool.and_eq_true_iff.mp both
      obtain ⟨entry, there, rfl⟩ := List.mem_map.mp written
      have among : entry ∈ (buildTier config.requireCompleteMetrics record.value target).filter
          (fun entry => entry.1.endsWith checkSuffix) := List.mem_filter.mpr ⟨there, suffix⟩
      rw [filter_buildTier, List.mem_map] at among
      obtain ⟨metric, -, rfl⟩ := among
      exact ⟨level, inside, metric, target, found, hasTarget_iff.mp has⟩
    · rintro ⟨level, inside, metric, target, found, declared⟩
      refine ⟨_, mem_tiersOf.mpr ⟨level, inside, target, found, rfl⟩, List.any_eq_true.mpr ?_⟩
      have among : (metric.checkName, TierValue.check (checkOf config.requireCompleteMetrics
          record.value target metric)) ∈ (buildTier config.requireCompleteMetrics record.value
            target).filter (fun entry => entry.1.endsWith checkSuffix) := by
        rw [filter_buildTier]
        exact List.mem_map_of_mem (mem_metricSpecs metric)
      refine ⟨_, List.mem_map_of_mem (List.mem_filter.mp among).1, ?_⟩
      exact Bool.and_eq_true_iff.mpr ⟨checkName_endsWith metric, hasTarget_iff.mpr declared⟩

theorem benchmarkStatus_eq (carries : Carries fields config record)
    (data : block.data = .mapping fields.entries) [Decidable (DeclaresAny config)] :
    benchmarkStatus block = if DeclaresAny config then none else some .na := by
  have has := hasAnyTarget_iff carries data
  have explicit := explicitStatus_eq carries data
  unfold benchmarkStatus
  by_cases declares : DeclaresAny config
  · rw [if_pos declares, has.mpr declares, Bool.and_true, explicit]
    by_cases na : pointVerdict config record = .na
    · rw [if_pos na]; rfl
    · rw [if_neg na]; rfl
  · have no : hasAnyTarget block = false := Bool.eq_false_iff.mpr fun some_ =>
      declares (has.mp some_)
    rw [if_neg declares, no, Bool.and_false, explicit,
      if_pos (verdict_of_not_declaresAny declares)]
    rfl

end Read

end InferenceServer.Reports
