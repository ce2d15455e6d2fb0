import InferenceServer.Reports.Blockers

/-! The verdicts of the stages of a report. A stage grades its own blocks anew and keeps
the blockers whose keys the whole report has too: benchmarks that share a title are
numbered anew, so a key can be another one in the stage than in the report. -/
namespace InferenceServer.Reports
open Machine

variable {Double : Type} [Python Double] {schema : ReportSchema Double}
  {knownIssues : List KnownIssue} {modelStatus : Option String} {block : Block Double}
  {overall : Acceptance} {results : List StageResult} {key : String}

/-- The block is tagged with a stage. -/
def Tagged (block : Block Double) (key : String) : Prop :=
  ∃ stage, blockStage block = some stage ∧ stage.key.text = key

/-- The block raises a blocker under the key when the blocks of the report are graded. -/
def Raises (schema : ReportSchema Double) (knownIssues : List KnownIssue)
    (modelStatus : Option String) (block : Block Double) (key : String) : Prop :=
  ∃ message, (block, (key, message)) ∈ raised schema knownIssues modelStatus

/-- The stages tell what the whole report tells. -/
structure StagesAgree (schema : ReportSchema Double) (knownIssues : List KnownIssue)
    (modelStatus : Option String) (overall : Acceptance) (results : List StageResult) : Prop where
  reported : ∀ block ∈ schema.sections, ∀ key, Tagged block key →
    ∃ result ∈ results, result.key = key
  accepted : ∀ result ∈ results, result.accepted ↔
    ¬ ∃ block key, Raises schema knownIssues modelStatus block key ∧ Tagged block result.key
  own : ∀ result ∈ results, ∀ blocker ∈ result.blockers.entries,
    (∃ block, Tagged block result.key ∧
      (block, blocker) ∈ raised (stageBlocks schema result.key) knownIssues modelStatus) ∧
    ∃ block, Tagged block result.key ∧ Raises schema knownIssues modelStatus block blocker.1
  whole : (∀ block ∈ schema.sections, ∃ key, Tagged block key) →
    (overall.accepted ↔ ∀ result ∈ results, result.accepted)

/-- A stage with a blocker has one whose key in the stage is a key in the report, and such
a key is one that a block of the stage raises in the report. -/
structure StagesKeyed (schema : ReportSchema Double) (knownIssues : List KnownIssue)
    (modelStatus : Option String) : Prop where
  found : ∀ stage block key, Tagged block stage → Raises schema knownIssues modelStatus block key →
    ∃ own shared other, Raises (stageBlocks schema stage) knownIssues modelStatus own shared ∧
      Raises schema knownIssues modelStatus other shared
  own : ∀ stage block key other, Tagged block stage →
    Raises (stageBlocks schema stage) knownIssues modelStatus block key →
    Raises schema knownIssues modelStatus other key →
      ∃ own, Tagged own stage ∧ Raises schema knownIssues modelStatus own key

theorem mem_of_raised {blocker : Raised Double}
    (member : blocker ∈ raised schema knownIssues modelStatus) : blocker.1 ∈ schema.sections := by
  unfold raised at member
  simp only [List.mem_append] at member
  rcases member with ((member | member) | member) | member
  · obtain ⟨point, there, same⟩ := List.mem_flatMap.mp member
    obtain ⟨_, _, rfl⟩ := List.mem_map.mp same
    exact (List.mem_filter.mp (List.fst_mem_of_mem_zipIdx there)).1
  · obtain ⟨_, there, same⟩ := List.mem_flatMap.mp member
    obtain ⟨_, _, rfl⟩ := List.mem_map.mp same
    exact (List.mem_filter.mp there).1
  · obtain ⟨_, there, same⟩ := List.mem_flatMap.mp member
    obtain ⟨_, _, rfl⟩ := List.mem_map.mp same
    exact (List.mem_filter.mp there).1
  · obtain ⟨_, there, same⟩ := List.mem_flatMap.mp member
    obtain ⟨_, _, rfl⟩ := List.mem_map.mp same
    exact (List.mem_filter.mp there).1

theorem mem_stageBlocks : block ∈ (stageBlocks schema key).sections ↔
    block ∈ schema.sections ∧ ∃ stage, blockStage block = some stage ∧ stage.key.isText key := by
  rw [stageBlocks, List.mem_filter, Option.any_eq_true]

omit [Python Double] in
theorem eq_str_of_isText {value : PyValue Double} (text : value.isText key) : value = .str key := by
  cases value with
  | str held => exact congrArg PyValue.str (of_decide_eq_true text)
  | _ => cases text

/-- The blocks of a stage are tagged with it. -/
theorem tagged_of_mem (member : block ∈ (stageBlocks schema key).sections) : Tagged block key := by
  obtain ⟨_, stage, tag, text⟩ := mem_stageBlocks.mp member
  refine ⟨stage, tag, ?_⟩
  rw [eq_str_of_isText text]
  rfl

theorem mem_keys_stagesOf : key ∈ (stagesOf schema).keys ↔
    ∃ block ∈ schema.sections, Tagged block key := by
  rw [stagesOf, Dict.mem_keys_foldl_setDefault]
  refine (or_iff_right List.not_mem_nil).trans ?_
  constructor
  · rintro ⟨stage, member, same⟩
    obtain ⟨block, held, tag⟩ := List.mem_filterMap.mp member
    exact ⟨block, held, stage, tag, same⟩
  · rintro ⟨block, held, stage, tag, same⟩
    exact ⟨stage, List.mem_filterMap.mpr ⟨block, held, tag⟩, same⟩

/-- A report whose blocks are graded keeps that for some of them. -/
theorem acceptance_of_subset {part : ReportSchema Double}
    (fewer : ∀ block ∈ part.sections, block ∈ schema.sections)
    (graded : acceptanceCriteriaCheck schema knownIssues modelStatus = some overall) :
    ∃ verdict, acceptanceCriteriaCheck part knownIssues modelStatus = some verdict := by
  obtain ⟨_, found, _⟩ := acceptance_eq graded
  obtain ⟨grades, whole, _⟩ := Option.bind_eq_some_iff.mp found
  have each : ∀ block ∈ agenticBlocks part, ∃ grade, gradeAgentic block = some grade := by
    intro block member
    obtain ⟨held, kind⟩ := List.mem_filter.mp member
    obtain ⟨grade, _, here⟩ := exists_mem_of_mapM whole
      (List.mem_filter.mpr ⟨fewer block held, kind⟩)
    exact ⟨grade, here⟩
  obtain ⟨some_, all⟩ := mapM_isSome each
  have agentic : ∃ result, checkAgenticTargets part = some result := by
    unfold checkAgenticTargets agenticGrades
    rw [all]
    exact ⟨_, rfl⟩
  obtain ⟨result, here⟩ := agentic
  unfold acceptanceCriteriaCheck
  rw [here]
  exact ⟨_, rfl⟩

/-- What a stage keeps of the blockers of its own blocks. -/
structure StageResult.Kept (result : StageResult) (schema : ReportSchema Double)
    (knownIssues : List KnownIssue) (modelStatus : Option String) (overall : Acceptance) : Prop where
  accepted : result.accepted ↔ result.blockers.entries = []
  blockers : ∀ blocker ∈ result.blockers.entries, blocker.1 ∈ overall.blockers.keys ∧
    ∃ block, (block, blocker) ∈ raised (stageBlocks schema result.key) knownIssues modelStatus
  shared : ∀ block key, Raises (stageBlocks schema result.key) knownIssues modelStatus block key →
    key ∈ overall.blockers.keys → ∃ blocker ∈ result.blockers.entries, blocker.1 = key

theorem stageResult_kept {stage : String × Stage Double} {result : StageResult}
    (staged : stageResult schema overall.blockers knownIssues modelStatus stage = some result) :
    result.key = stage.1 ∧ result.Kept schema knownIssues modelStatus overall := by
  unfold stageResult at staged
  obtain ⟨graded, found, same⟩ := Option.bind_eq_some_iff.mp staged
  cases same
  refine ⟨rfl, List.isEmpty_iff, fun blocker member => ?_, fun block key raises known => ?_⟩
  · obtain ⟨held, kept⟩ := Dict.mem_filter.mp member
    exact ⟨of_decide_eq_true kept, exists_of_mem_blockers found held⟩
  · obtain ⟨message, raises⟩ := raises
    obtain ⟨blocker, held, same⟩ :=
      Dict.mem_keys.mp ((mem_blockers_iff found).mpr ⟨_, raises, rfl⟩)
    refine ⟨blocker, Dict.mem_filter.mpr ⟨held, decide_eq_true ?_⟩, same⟩
    rw [same]
    exact known

section

variable (staged : stageResults schema overall.blockers knownIssues modelStatus = some results)
include staged

/-- There is one result for each stage that a block is tagged with. -/
theorem exists_result (member : block ∈ schema.sections) (tagged : Tagged block key) :
    ∃ result ∈ results, result.key = key := by
  obtain ⟨stage, held, same⟩ := Dict.mem_keys.mp (mem_keys_stagesOf.mpr ⟨block, member, tagged⟩)
  obtain ⟨result, there, made⟩ := exists_mem_of_mapM staged ((List.mem_insertionSort _).mpr held)
  exact ⟨result, there, (stageResult_kept made).1.trans same⟩

theorem kept_of_mem {result : StageResult} (member : result ∈ results) :
    result.Kept schema knownIssues modelStatus overall := by
  obtain ⟨_, _, made⟩ := exists_of_mapM staged member
  exact (stageResult_kept made).2

end

section

variable (graded : acceptanceCriteriaCheck schema knownIssues modelStatus = some overall)
include graded

theorem stageResults_isSome : ∃ results,
    stageResults schema overall.blockers knownIssues modelStatus = some results := by
  refine mapM_isSome fun stage _ => ?_
  obtain ⟨verdict, found⟩ := acceptance_of_subset
    (fun block member => (@mem_stageBlocks _ _ _ _ stage.1 |>.mp member).1) graded
  unfold stageResult
  rw [found]
  exact ⟨_, rfl⟩

theorem raises_iff : (∃ block, Raises schema knownIssues modelStatus block key) ↔
    key ∈ overall.blockers.keys := by
  rw [mem_blockers_iff graded]
  constructor
  · rintro ⟨block, message, raises⟩
    exact ⟨_, raises, rfl⟩
  · rintro ⟨⟨block, _, message⟩, raises, rfl⟩
    exact ⟨block, message, raises⟩

variable (staged : stageResults schema overall.blockers knownIssues modelStatus = some results)
include staged

theorem StagesAgree.keyed
    (agree : StagesAgree schema knownIssues modelStatus overall results) :
    StagesKeyed schema knownIssues modelStatus where
  found := by
    intro stage block key tagged raises
    obtain ⟨message, there⟩ := raises
    obtain ⟨result, member, rfl⟩ := exists_result staged (mem_of_raised there) tagged
    have kept := kept_of_mem staged member
    have blocked : ¬ result.accepted := fun accepted =>
      (agree.accepted result member).mp accepted ⟨block, key, ⟨message, there⟩, tagged⟩
    rw [kept.accepted] at blocked
    obtain ⟨blocker, held⟩ := List.exists_mem_of_ne_nil _ blocked
    obtain ⟨known, own, raisesOwn⟩ := kept.blockers blocker held
    obtain ⟨other, shared⟩ := (raises_iff graded).mpr known
    exact ⟨own, blocker.1, other, ⟨blocker.2, raisesOwn⟩, shared⟩
  own := by
    intro stage block key other tagged raises shared
    obtain ⟨message, there⟩ := raises
    have inside := (mem_stageBlocks.mp (mem_of_raised there)).1
    obtain ⟨result, member, rfl⟩ := exists_result staged inside tagged
    have kept := kept_of_mem staged member
    obtain ⟨blocker, held, rfl⟩ := kept.shared block key ⟨message, there⟩
      ((raises_iff graded).mp ⟨other, shared⟩)
    exact (agree.own result member blocker held).2

theorem StagesKeyed.agree (keyed : StagesKeyed schema knownIssues modelStatus) :
    StagesAgree schema knownIssues modelStatus overall results := by
  have accepted : ∀ result ∈ results, result.accepted ↔
      ¬ ∃ block key, Raises schema knownIssues modelStatus block key ∧ Tagged block result.key := by
    intro result member
    have kept := kept_of_mem staged member
    rw [kept.accepted]
    constructor
    · rintro empty ⟨block, key, raises, tagged⟩
      obtain ⟨own, shared, other, here, there⟩ := keyed.found result.key block key tagged raises
      obtain ⟨blocker, held, _⟩ :=
        kept.shared own shared here ((raises_iff graded).mp ⟨other, there⟩)
      rw [empty] at held
      cases held
    · intro none_
      refine List.eq_nil_iff_forall_not_mem.mpr fun blocker held => ?_
      obtain ⟨known, block, raises⟩ := kept.blockers blocker held
      obtain ⟨other, shared⟩ := (raises_iff graded).mpr known
      obtain ⟨own, tagged, there⟩ := keyed.own result.key block blocker.1 other
        (tagged_of_mem (mem_of_raised raises)) ⟨blocker.2, raises⟩ shared
      exact none_ ⟨own, blocker.1, there, tagged⟩
  exact {
    reported := fun block member key tagged => exists_result staged member tagged
    accepted
    own := by
      intro result member blocker held
      obtain ⟨known, block, raises⟩ := (kept_of_mem staged member).blockers blocker held
      obtain ⟨other, shared⟩ := (raises_iff graded).mpr known
      have tagged := tagged_of_mem (mem_of_raised raises)
      exact ⟨⟨block, tagged, raises⟩,
        keyed.own result.key block blocker.1 other tagged ⟨blocker.2, raises⟩ shared⟩
    whole := by
      intro everyTagged
      rw [accepted_iff_raised graded]
      constructor
      · intro none_ result member
        refine (accepted result member).mpr ?_
        rintro ⟨block, key, ⟨message, raises⟩, _⟩
        rw [none_] at raises
        cases raises
      · intro all
        refine List.eq_nil_iff_forall_not_mem.mpr fun ⟨block, key, message⟩ raises => ?_
        have inside := mem_of_raised raises
        obtain ⟨stage, tagged⟩ := everyTagged block inside
        obtain ⟨result, member, rfl⟩ := exists_result staged inside tagged
        exact (accepted result member).mp (all result member) ⟨block, key, ⟨message, raises⟩, tagged⟩
  }

end

section Titles

/-- A blocker that the block raises under the key of its title. -/
def Files (knownIssues : List KnownIssue) (modelStatus : Option String) (block : Block Double)
    (entry : String × String) : Prop :=
  block.kind = kindBenchmarks ∧
      entry ∈ (gradeBenchmark modelStatus block (blockKey block)).blockers ∨
    block ∈ evalBlocks ⟨[block]⟩ ∧ entry ∈ (gradeEval knownIssues modelStatus block).blockers ∨
    block ∈ specBlocks ⟨[block]⟩ ∧ entry ∈ (gradeSpec knownIssues block).blockers ∨
    block ∈ agenticBlocks ⟨[block]⟩ ∧
      entry ∈ (gradeAgentic block).elim [] GradedSweep.blockers

theorem pointKey_eq {blocks : List (Block Double)} (titles : (blocks.map blockKey).Nodup)
    (index : Nat) (block : Block Double) : pointKey blocks index block = blockKey block := by
  unfold pointKey
  rw [if_neg]
  exact Nat.not_lt.mpr (List.nodup_iff_count_le_one.mp titles _)

omit [Python Double] in
theorem mem_flatMap_filter {Entry : Type} {kept : Block Double → Bool} {blocks : List (Block Double)}
    {entries : Block Double → List Entry} {entry : Entry} :
    (block, entry) ∈ (blocks.filter kept).flatMap (fun block => (entries block).map (block, ·)) ↔
      block ∈ blocks ∧ kept block ∧ entry ∈ entries block := by
  rw [List.mem_flatMap]
  constructor
  · rintro ⟨other, member, there⟩
    obtain ⟨_, held, same⟩ := List.mem_map.mp there
    cases same
    exact ⟨(List.mem_filter.mp member).1, (List.mem_filter.mp member).2, held⟩
  · rintro ⟨member, keep, held⟩
    exact ⟨block, List.mem_filter.mpr ⟨member, keep⟩, List.mem_map_of_mem held⟩

section

variable (titles : ((benchmarkBlocks schema).map blockKey).Nodup)
include titles

/-- Where no title is shared, a key does not depend on the blocks graded with its block. -/
theorem mem_raised_iff {entry : String × String} :
    (block, entry) ∈ raised schema knownIssues modelStatus ↔
      block ∈ schema.sections ∧ Files knownIssues modelStatus block entry := by
  have benchmarks : raisedBenchmarks schema modelStatus = (benchmarkBlocks schema).flatMap
      fun block => (gradeBenchmark modelStatus block (blockKey block)).blockers.map (block, ·) := by
    have points := List.zipIdx_map_fst 1 (benchmarkBlocks schema)
    rw [raisedBenchmarks]
    simp only [pointKey_eq titles]
    conv_rhs => rw [← points, List.flatMap_map]
  unfold raised raisedEvals raisedSpecTests raisedAgentic
  rw [benchmarks, List.mem_append, List.mem_append, List.mem_append, benchmarkBlocks, evalBlocks,
    specBlocks, agenticBlocks, mem_flatMap_filter, mem_flatMap_filter, mem_flatMap_filter,
    mem_flatMap_filter]
  simp only [Files, evalBlocks, specBlocks, agenticBlocks, List.mem_filter, List.mem_singleton,
    true_and, decide_eq_true_eq]
  tauto

/-- Stages agree with a report in which no two benchmarks share a title. -/
theorem StagesKeyed.of_titles
    (texts : ∀ block ∈ schema.sections, ∀ stage, blockStage block = some stage →
      ∃ text, stage.key = .str text) : StagesKeyed schema knownIssues modelStatus := by
  have within : ∀ stage, ((benchmarkBlocks (stageBlocks schema stage)).map blockKey).Nodup :=
    fun stage => titles.sublist ((List.filter_sublist.filter _).map blockKey)
  constructor
  · rintro stage block key ⟨tag, tagged, same⟩ ⟨message, raises⟩
    obtain ⟨member, files⟩ := (mem_raised_iff titles).mp raises
    obtain ⟨text, is⟩ := texts block member tag tagged
    have inside : block ∈ (stageBlocks schema stage).sections := by
      refine mem_stageBlocks.mpr ⟨member, tag, tagged, ?_⟩
      rw [is] at same ⊢
      exact decide_eq_true same
    exact ⟨block, key, block, ⟨message, (mem_raised_iff (within stage)).mpr ⟨inside, files⟩⟩,
      ⟨message, raises⟩⟩
  · rintro stage block key _ _ ⟨message, raises⟩ _
    obtain ⟨inside, files⟩ := (mem_raised_iff (within stage)).mp raises
    exact ⟨block, tagged_of_mem inside, message,
      (mem_raised_iff titles).mpr ⟨(mem_stageBlocks.mp inside).1, files⟩⟩

end

end Titles

/-- A benchmark without a completed request, tagged with a stage. -/
def unserved (stage : String) : Block Rat where
  kind := kindBenchmarks
  data := .mapping [("num_requests", .int 0)]
  title := some "T"
  stage := some { key := .str stage }

theorem single_graded : (acceptanceCriteriaCheck ⟨[unserved "accuracy"]⟩ [] none).isSome := by
  decide +kernel

end InferenceServer.Reports
