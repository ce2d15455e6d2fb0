import InferenceServer.Machine.Attempts
import InferenceServer.Reports.AcceptanceCriteria

/-! The states of a block in which its category would block, and what demotes each of
them. A grade agrees with them: it blocks for a state that nothing demotes and is
waived for one that is demoted. -/
namespace InferenceServer.Reports
open Machine

variable {Double : Type} [Python Double] {knownIssues : List KnownIssue}
  {modelStatus : Option String} {block : Block Double} {key : String}

/-- The block is measured, and its targets decide. -/
def IsTargeted (block : Block Double) : Prop :=
  explicitStatus block ≠ some .skip ∧ requestFailure block = none ∧ benchmarkStatus block = none

/-- The checks of a block over all tiers. -/
def checksOf (block : Block Double) : List (TargetCheck Double) :=
  (resolveNested block.data "target_checks").entries?.elim [] targetChecks

/-- Why a benchmark would block. -/
inductive BenchmarkState (Double : Type)
  | requests
  | reported
  | untargeted
  | missed (check : TargetCheck Double)

namespace BenchmarkState

def Holds (block : Block Double) : BenchmarkState Double → Prop
  | .requests => explicitStatus block ≠ some .skip ∧ requestFailure block ≠ none
  | .reported => explicitStatus block ≠ some .skip ∧ requestFailure block = none ∧
      ∃ status, benchmarkStatus block = some status ∧ status.isBlocking
  | .untargeted => IsTargeted block ∧ checksOf block = []
  | .missed check => IsTargeted block ∧ check ∈ checksOf block ∧ check.fails

/-- A priority of the block, of the metric, or the tier demotes. -/
def Demoted (modelStatus : Option String) (block : Block Double) : BenchmarkState Double → Prop
  | .missed check => blockPriority block = priorityShould ∨
      check.level ∉ enforcedBenchmarkTiers modelStatus ∨
      metricPriority block check.metric = priorityShould
  | _ => blockPriority block = priorityShould

end BenchmarkState

/-- Why an eval would block. -/
inductive EvalState
  | incomplete
  | subset
  | reported
  | failing

namespace EvalState

def Holds (block : Block Double) : EvalState → Prop
  | .incomplete => (block.data.get "incomplete").isTrue
  | .subset => (block.data.get "incomplete").isTrue = false ∧
      explicitStatus block = some .partialRun
  | .reported => (block.data.get "incomplete").isTrue = false ∧
      ∃ status, explicitStatus block = some status ∧ status.isBlocking
  | .failing => (block.data.get "incomplete").isTrue = false ∧ explicitStatus block = none ∧
      (evalMessage block).1 ≠ none

/-- Waivers are for failures that no status reports; a run that measured nothing or a
subset is never demoted. -/
def Demoted (knownIssues : List KnownIssue) (modelStatus : Option String) (block : Block Double) :
    EvalState → Prop
  | .incomplete => False
  | .subset => False
  | .reported => evalsEnforced modelStatus = false ∨ blockPriority block = priorityShould
  | .failing => findWaiver knownIssues "EVALS" (block.data.get "task_name") ≠ none ∨
      evalsEnforced modelStatus = false ∨ blockPriority block = priorityShould

end EvalState

/-- A grade and the states of its block: whether one stands and whether one is demoted. -/
structure Graded.Fits (grade : Graded) (key : String) (stands demoted : Prop) : Prop where
  blocks : grade.blockers ≠ [] ↔ stands
  failed : (stands ∧ grade.failed + grade.partialRuns = 1) ∨
    (¬ stands ∧ grade.failed + grade.partialRuns = 0)
  waived : (demoted ∧ grade.waived.map Prod.fst = [key]) ∨ (¬ demoted ∧ grade.waived = [])
  idle : grade.na + grade.skipped ≤ 1
  apart : grade.na + grade.skipped = 1 → ¬ stands ∧ ¬ demoted

namespace Graded.Fits

variable {stands demoted : Prop} {entry : String × String} {text : String}
  {more : List (String × String)}

theorem blocked (holds : stands) (kept : ¬ demoted) :
    Fits { blockers := [entry], failed := 1 } key stands demoted where
  blocks := iff_of_true (List.cons_ne_nil _ _) holds
  failed := .inl ⟨holds, rfl⟩
  waived := .inr ⟨kept, rfl⟩
  idle := Nat.zero_le _
  apart := nofun

theorem subset (holds : stands) (kept : ¬ demoted) :
    Fits { blockers := [entry], partialRuns := 1 } key stands demoted where
  blocks := iff_of_true (List.cons_ne_nil _ _) holds
  failed := .inl ⟨holds, rfl⟩
  waived := .inr ⟨kept, rfl⟩
  idle := Nat.zero_le _
  apart := nofun

section

variable (none_ : ¬ stands)
include none_

theorem waivedOnly (holds : demoted) :
    Fits { waived := [(key, text)], waivedMust := more } key stands demoted where
  blocks := iff_of_false (fun some_ => some_ rfl) none_
  failed := .inr ⟨none_, rfl⟩
  waived := .inl ⟨holds, rfl⟩
  idle := Nat.zero_le _
  apart := nofun

theorem unmeasured (kept : ¬ demoted) :
    Fits { na := 1, ungradedMust := more } key stands demoted where
  blocks := iff_of_false (fun some_ => some_ rfl) none_
  failed := .inr ⟨none_, rfl⟩
  waived := .inr ⟨kept, rfl⟩
  idle := Nat.le_refl _
  apart := fun _ => ⟨none_, kept⟩

theorem skipped (kept : ¬ demoted) :
    Fits { skipped := 1, ungradedMust := more } key stands demoted where
  blocks := iff_of_false (fun some_ => some_ rfl) none_
  failed := .inr ⟨none_, rfl⟩
  waived := .inr ⟨kept, rfl⟩
  idle := Nat.le_refl _
  apart := fun _ => ⟨none_, kept⟩

theorem clean (kept : ¬ demoted) : Fits {} key stands demoted where
  blocks := iff_of_false (fun some_ => some_ rfl) none_
  failed := .inr ⟨none_, rfl⟩
  waived := .inr ⟨kept, rfl⟩
  idle := Nat.zero_le _
  apart := nofun

end

end Graded.Fits

omit [Python Double] in
theorem BenchmarkState.exists_iff {holds : BenchmarkState Double → Prop} : (∃ state, holds state) ↔
      holds .requests ∨ holds .reported ∨ holds .untargeted ∨ ∃ check, holds (.missed check) := by
  constructor
  · rintro ⟨state, now⟩
    cases state with
    | requests => exact .inl now
    | reported => exact .inr (.inl now)
    | untargeted => exact .inr (.inr (.inl now))
    | missed check => exact .inr (.inr (.inr ⟨check, now⟩))
  · rintro (now | now | now | ⟨_, now⟩) <;> exact ⟨_, now⟩

def BenchmarkStands (modelStatus : Option String) (block : Block Double) : Prop :=
  ∃ state : BenchmarkState Double, state.Holds block ∧ ¬ state.Demoted modelStatus block

def BenchmarkDemoted (modelStatus : Option String) (block : Block Double) : Prop :=
  ∃ state : BenchmarkState Double, state.Holds block ∧ state.Demoted modelStatus block

theorem isInformational_iff {check : TargetCheck Double} {enforcedTiers : List String} :
    check.isInformational enforcedTiers block = true ↔ check.level ∉ enforcedTiers ∨
      metricPriority block check.metric = priorityShould := by
  simp [TargetCheck.isInformational]

section

variable (block)

/-- The kinds of states exclude each other, missed checks apart. -/
theorem benchmark_skipped (skipped : explicitStatus block = some .skip) :
    ¬ BenchmarkStands modelStatus block ∧ ¬ BenchmarkDemoted modelStatus block := by
  simp [BenchmarkStands, BenchmarkDemoted, BenchmarkState.exists_iff, BenchmarkState.Holds,
    IsTargeted, skipped]

variable {block} (ran : explicitStatus block ≠ some .skip)
include ran

theorem benchmark_requests {failure : String} (requests : requestFailure block = some failure) :
    (BenchmarkStands modelStatus block ↔ blockPriority block ≠ priorityShould) ∧
      (BenchmarkDemoted modelStatus block ↔ blockPriority block = priorityShould) := by
  simp [BenchmarkStands, BenchmarkDemoted, BenchmarkState.exists_iff, BenchmarkState.Holds,
    BenchmarkState.Demoted, IsTargeted, ran, requests]

theorem benchmark_reported {status : TestStatus} (requests : requestFailure block = none)
    (reported : benchmarkStatus block = some status) : (BenchmarkStands modelStatus block ↔
        status.isBlocking ∧ blockPriority block ≠ priorityShould) ∧
      (BenchmarkDemoted modelStatus block ↔
        status.isBlocking ∧ blockPriority block = priorityShould) := by
  simp [BenchmarkStands, BenchmarkDemoted, BenchmarkState.exists_iff, BenchmarkState.Holds,
    BenchmarkState.Demoted, IsTargeted, ran, requests, reported]

theorem benchmark_targeted (requests : requestFailure block = none)
    (unreported : benchmarkStatus block = none) :
    (BenchmarkStands modelStatus block ↔ blockPriority block ≠ priorityShould ∧
        (checksOf block = [] ∨ ∃ check ∈ checksOf block, check.fails ∧
          check.isInformational (enforcedBenchmarkTiers modelStatus) block = false)) ∧
      (BenchmarkDemoted modelStatus block ↔ (∃ check ∈ checksOf block, check.fails ∧
          check.isInformational (enforcedBenchmarkTiers modelStatus) block) ∨
        (blockPriority block = priorityShould ∧
          (checksOf block = [] ∨ ∃ check ∈ checksOf block, check.fails ∧
            check.isInformational (enforcedBenchmarkTiers modelStatus) block = false))) := by
  have targeted : IsTargeted block := ⟨ran, requests, unreported⟩
  rw [BenchmarkStands, BenchmarkDemoted, BenchmarkState.exists_iff, BenchmarkState.exists_iff]
  constructor
  · constructor
    · rintro (⟨now, _⟩ | ⟨now, _⟩ | ⟨now, kept⟩ | ⟨check, now, kept⟩)
      · exact absurd requests now.2
      · obtain ⟨_, reported, _⟩ := now.2.2
        cases unreported.symm.trans reported
      · exact ⟨kept, .inl now.2⟩
      · refine ⟨fun should => kept (.inl should), .inr ⟨check, now.2.1, now.2.2, ?_⟩⟩
        rw [← Bool.not_eq_true, isInformational_iff]
        exact fun informs => kept (.inr informs)
    · rintro ⟨must, none_ | ⟨check, member, fails, counts⟩⟩
      · exact .inr (.inr (.inl ⟨⟨targeted, none_⟩, must⟩))
      · rw [← Bool.not_eq_true, isInformational_iff] at counts
        exact .inr (.inr (.inr ⟨check, ⟨targeted, member, fails⟩, not_or.mpr ⟨must, counts⟩⟩))
  · constructor
    · rintro (⟨now, _⟩ | ⟨now, _⟩ | ⟨now, should⟩ | ⟨check, now, should | informs⟩)
      · exact absurd requests now.2
      · obtain ⟨_, reported, _⟩ := now.2.2
        cases unreported.symm.trans reported
      · exact .inr ⟨should, .inl now.2⟩
      · cases informs : check.isInformational (enforcedBenchmarkTiers modelStatus) block with
        | true => exact .inl ⟨check, now.2.1, now.2.2, informs⟩
        | false => exact .inr ⟨should, .inr ⟨check, now.2.1, now.2.2, informs⟩⟩
      · exact .inl ⟨check, now.2.1, now.2.2, isInformational_iff.mpr informs⟩
    · rintro (⟨check, member, fails, informs⟩ | ⟨should, none_ | ⟨check, member, fails, _⟩⟩)
      · exact .inr (.inr (.inr ⟨check, ⟨targeted, member, fails⟩,
          .inr (isInformational_iff.mp informs)⟩))
      · exact .inr (.inr (.inl ⟨⟨targeted, none_⟩, should⟩))
      · exact .inr (.inr (.inr ⟨check, ⟨targeted, member, fails⟩, .inl should⟩))

end

section

variable {enforcedTiers : List String}

theorem gradeTargets_blocks : (gradeTargets enforcedTiers block key).1 ≠ [] ↔
    checksOf block = [] ∨ ∃ check ∈ checksOf block, check.fails ∧
      check.isInformational enforcedTiers block = false := by
  unfold gradeTargets checksOf
  split
  · rename_i missing
    simp [missing]
  · rename_i levels found
    rw [found, Option.elim_some]
    dsimp only
    split
    · rename_i none_
      simp [List.isEmpty_iff.mp none_]
    · rename_i some_
      rw [List.isEmpty_iff] at some_
      simp [some_, and_comm]

theorem gradeTargets_informs : (gradeTargets enforcedTiers block key).2 ≠ [] ↔
    ∃ check ∈ checksOf block, check.fails ∧ check.isInformational enforcedTiers block := by
  unfold gradeTargets checksOf
  split
  · rename_i missing
    simp [missing]
  · rename_i levels found
    rw [found, Option.elim_some]
    dsimp only
    split
    · rename_i none_
      simp [List.isEmpty_iff.mp none_]
    · simp [and_comm]

end

/-- A block whose checks both block and inform is in two states at once. -/
theorem Graded.Fits.measured {stands demoted : Prop} {blockers informs : List (String × String)}
    {text : String} (blocks : blockers ≠ [] ↔ stands) (tells : informs ≠ [] ↔ demoted) :
    Graded.Fits {
      blockers
      failed := if blockers.isEmpty then 0 else 1
      waived := if informs.isEmpty then [] else [(key, text)] } key stands demoted where
  blocks := blocks
  failed := by
    cases blockers with
    | nil => exact .inr ⟨fun holds => blocks.mpr holds rfl, rfl⟩
    | cons first rest => exact .inl ⟨blocks.mp (List.cons_ne_nil first rest), rfl⟩
  waived := by
    cases informs with
    | nil => exact .inr ⟨fun holds => tells.mpr holds rfl, rfl⟩
    | cons first rest => exact .inl ⟨tells.mp (List.cons_ne_nil first rest), rfl⟩
  idle := Nat.zero_le _
  apart := nofun

theorem gradeBenchmark_fits : (gradeBenchmark modelStatus block key).Fits key
    (BenchmarkStands modelStatus block) (BenchmarkDemoted modelStatus block) := by
  unfold gradeBenchmark
  split
  · rename_i skipped
    obtain ⟨none_, kept⟩ := @benchmark_skipped _ _ modelStatus block skipped
    exact .skipped none_ kept
  · rename_i ran
    split
    · rename_i failure requests
      obtain ⟨stands, demoted⟩ := @benchmark_requests _ _ modelStatus block ran failure requests
      rw [stands, demoted]
      split
      · rename_i should
        exact .waivedOnly (fun must => must should) should
      · rename_i must
        exact .blocked must must
    · rename_i requests
      split
      · rename_i status reported
        obtain ⟨stands, demoted⟩ :=
          @benchmark_reported _ _ modelStatus block ran status requests reported
        rw [stands, demoted]
        dsimp only
        split
        · rename_i blocking
          split
          · rename_i should
            exact .waivedOnly (fun now => now.2 should) ⟨blocking, should⟩
          · rename_i must
            exact .blocked ⟨blocking, must⟩ fun now => must now.2
        · rename_i passing
          split
          · exact .unmeasured (fun now => passing now.1) fun now => passing now.1
          · exact .clean (fun now => passing now.1) fun now => passing now.1
      · rename_i unreported
        obtain ⟨stands, demoted⟩ := @benchmark_targeted _ _ modelStatus block ran requests unreported
        have blocks := @gradeTargets_blocks _ _ block key (enforcedBenchmarkTiers modelStatus)
        have informs := @gradeTargets_informs _ _ block key (enforcedBenchmarkTiers modelStatus)
        rw [stands, demoted, ← blocks, ← informs]
        dsimp only
        split
        · rename_i should
          refine .measured ⟨fun some_ => absurd rfl some_, fun now => absurd should now.1⟩ ?_
          rw [ne_eq, List.append_eq_nil_iff, not_and_or]
          exact or_congr_right (and_iff_right should).symm
        · rename_i must
          refine .measured (and_iff_right must).symm ?_
          exact (or_iff_left fun now => must now.1).symm

theorem EvalState.exists_iff {holds : EvalState → Prop} : (∃ state, holds state) ↔
    holds .incomplete ∨ holds .subset ∨ holds .reported ∨ holds .failing := by
  constructor
  · rintro ⟨state, now⟩
    cases state with
    | incomplete => exact .inl now
    | subset => exact .inr (.inl now)
    | reported => exact .inr (.inr (.inl now))
    | failing => exact .inr (.inr (.inr now))
  · rintro (now | now | now | now) <;> exact ⟨_, now⟩

def EvalStands (knownIssues : List KnownIssue) (modelStatus : Option String)
    (block : Block Double) : Prop :=
  ∃ state : EvalState, state.Holds block ∧ ¬ state.Demoted knownIssues modelStatus block

def EvalDemoted (knownIssues : List KnownIssue) (modelStatus : Option String)
    (block : Block Double) : Prop :=
  ∃ state : EvalState, state.Holds block ∧ state.Demoted knownIssues modelStatus block

theorem evalStands_iff : EvalStands knownIssues modelStatus block ↔
    (EvalState.incomplete.Holds block ∨ EvalState.subset.Holds block) ∨
      (EvalState.reported.Holds block ∧
        ¬ EvalState.reported.Demoted knownIssues modelStatus block) ∨
      (EvalState.failing.Holds block ∧
        ¬ EvalState.failing.Demoted knownIssues modelStatus block) := by
  rw [EvalStands, EvalState.exists_iff, or_assoc]
  exact or_congr (and_iff_left not_false) (or_congr_left (and_iff_left not_false))

theorem evalDemoted_iff : EvalDemoted knownIssues modelStatus block ↔
    (EvalState.reported.Holds block ∧ EvalState.reported.Demoted knownIssues modelStatus block) ∨
      (EvalState.failing.Holds block ∧
        EvalState.failing.Demoted knownIssues modelStatus block) := by
  rw [EvalDemoted, EvalState.exists_iff]
  exact (or_iff_right fun now => now.2).trans (or_iff_right fun now => now.2)

section

variable (complete : (block.data.get "incomplete").isTrue = false)
include complete

theorem evalStands_reported {status : TestStatus} (reported : explicitStatus block = some status) :
    EvalStands knownIssues modelStatus block ↔ status = .partialRun ∨
      (status.isBlocking ∧ evalsEnforced modelStatus ∧ blockPriority block ≠ priorityShould) := by
  simp [evalStands_iff, EvalState.Holds, EvalState.Demoted, complete, reported]

theorem evalDemoted_reported {status : TestStatus} (reported : explicitStatus block = some status) :
    EvalDemoted knownIssues modelStatus block ↔ status.isBlocking ∧
      (evalsEnforced modelStatus = false ∨ blockPriority block = priorityShould) := by
  simp [evalDemoted_iff, EvalState.Holds, EvalState.Demoted, complete, reported]

theorem evalStands_unreported (unreported : explicitStatus block = none) :
    EvalStands knownIssues modelStatus block ↔ (evalMessage block).1 ≠ none ∧
      findWaiver knownIssues "EVALS" (block.data.get "task_name") = none ∧
      evalsEnforced modelStatus ∧ blockPriority block ≠ priorityShould := by
  simp [evalStands_iff, EvalState.Holds, EvalState.Demoted, complete, unreported]

theorem evalDemoted_unreported (unreported : explicitStatus block = none) :
    EvalDemoted knownIssues modelStatus block ↔ (evalMessage block).1 ≠ none ∧
      (findWaiver knownIssues "EVALS" (block.data.get "task_name") ≠ none ∨
        evalsEnforced modelStatus = false ∨ blockPriority block = priorityShould) := by
  simp [evalDemoted_iff, EvalState.Holds, EvalState.Demoted, complete, unreported]

end

/-- An eval is in one state only. -/
theorem eval_apart :
    ¬ (EvalStands knownIssues modelStatus block ∧ EvalDemoted knownIssues modelStatus block) := by
  rintro ⟨stands, demoted⟩
  cases complete : (block.data.get "incomplete").isTrue with
  | true =>
    rcases evalDemoted_iff.mp demoted with now | now
    · exact absurd (now.1.1.symm.trans complete) Bool.false_ne_true
    · exact absurd (now.1.1.symm.trans complete) Bool.false_ne_true
  | false =>
    cases reported : explicitStatus block with
    | none =>
      obtain ⟨_, unknown, enforced, must⟩ := (evalStands_unreported complete reported).mp stands
      obtain ⟨_, known | free | should⟩ := (evalDemoted_unreported complete reported).mp demoted
      · exact known unknown
      · exact absurd (free.symm.trans enforced) Bool.false_ne_true
      · exact must should
    | some status =>
      obtain ⟨blocking, lowers⟩ := (evalDemoted_reported complete reported).mp demoted
      rcases (evalStands_reported complete reported).mp stands with rfl | ⟨_, enforced, must⟩
      · cases blocking
      · rcases lowers with free | should
        · exact absurd (free.symm.trans enforced) Bool.false_ne_true
        · exact must should

theorem gradeEval_fits : (gradeEval knownIssues modelStatus block).Fits (blockKey block)
    (EvalStands knownIssues modelStatus block) (EvalDemoted knownIssues modelStatus block) := by
  unfold gradeEval
  dsimp only
  split
  · rename_i incomplete
    refine .blocked (evalStands_iff.mpr (.inl (.inl incomplete))) fun demoted => ?_
    rcases evalDemoted_iff.mp demoted with now | now
    · exact absurd (now.1.1.symm.trans incomplete) Bool.false_ne_true
    · exact absurd (now.1.1.symm.trans incomplete) Bool.false_ne_true
  · rename_i complete
    rw [Bool.not_eq_true] at complete
    split
    · rename_i status reported
      rw [evalStands_reported complete reported, evalDemoted_reported complete reported]
      split
      · rename_i blocking
        have whole : status ≠ .partialRun := by
          rintro rfl
          cases blocking
        split
        · rename_i free
          rw [Bool.not_eq_true'] at free
          exact .waivedOnly (by simp [whole, free]) (by simp [blocking, free])
        · rename_i enforced
          rw [Bool.not_eq_true', Bool.not_eq_false] at enforced
          split
          · rename_i should
            exact .waivedOnly (by simp [whole, should]) (by simp [blocking, should])
          · rename_i must
            exact .blocked (by simp [blocking, enforced, must]) (by simp [enforced, must])
      · rename_i passing
        have kept : ¬ (status.isBlocking = true ∧
          (evalsEnforced modelStatus = false ∨ blockPriority block = priorityShould)) :=
          fun now => passing now.1
        split
        · exact .subset (.inl rfl) kept
        · exact .skipped (by simp [TestStatus.isBlocking]) kept
        · exact .unmeasured (by simp [TestStatus.isBlocking]) kept
        · rename_i whole _ _
          have whole : status ≠ .partialRun := whole
          exact .clean (by simp [passing, whole]) kept
    · rename_i unreported
      rw [evalStands_unreported complete unreported, evalDemoted_unreported complete unreported]
      split
      · rename_i message
        exact .unmeasured (by simp [message]) (by simp [message])
      · rename_i message
        exact .clean (by simp [message]) (by simp [message])
      · rename_i text _ message
        split
        · rename_i reason found
          exact .waivedOnly (by simp [found]) (by simp [message, found])
        · rename_i unknown
          split
          · rename_i free
            rw [Bool.not_eq_true'] at free
            exact .waivedOnly (by simp [free]) (by simp [message, free])
          · rename_i enforced
            rw [Bool.not_eq_true', Bool.not_eq_false] at enforced
            split
            · rename_i should
              exact .waivedOnly (by simp [should]) (by simp [message, should])
            · rename_i must
              exact .blocked (by simp [message, unknown, enforced, must])
                (by simp [unknown, enforced, must])

/-- A failure that no waiver covers, or an error. -/
def SpecStands (knownIssues : List KnownIssue) (block : Block Double) : Prop :=
  (blockTestStatus block).isBlocking ∧
    ¬ (blockTestStatus block = .fail ∧ specWaiver knownIssues block ≠ none)

def SpecDemoted (knownIssues : List KnownIssue) (block : Block Double) : Prop :=
  (blockTestStatus block).isBlocking ∧
    blockTestStatus block = .fail ∧ specWaiver knownIssues block ≠ none

theorem gradeSpec_fits : (gradeSpec knownIssues block).Fits ("spec." ++ blockKey block)
    (SpecStands knownIssues block) (SpecDemoted knownIssues block) := by
  unfold gradeSpec SpecStands SpecDemoted
  dsimp only
  split
  · rename_i blocking
    split
    · rename_i reason found
      split at found
      · rename_i failed
        have waived : blockTestStatus block = .fail ∧ specWaiver knownIssues block ≠ none :=
          ⟨failed, by rw [found]; nofun⟩
        exact .waivedOnly (fun now => now.2 waived) ⟨blocking, waived⟩
      · cases found
    · rename_i unknown
      have stays : ¬ (blockTestStatus block = .fail ∧ specWaiver knownIssues block ≠ none) := by
        rintro ⟨failed, known⟩
        rw [if_pos failed] at unknown
        exact known unknown
      exact .blocked ⟨blocking, stays⟩ fun now => stays now.2
  · rename_i passing
    split
    · exact .skipped (fun now => passing now.1) fun now => passing now.1
    · exact .unmeasured (fun now => passing now.1) fun now => passing now.1
    · exact .clean (fun now => passing now.1) fun now => passing now.1

/-- The points of a sweep that have targets. -/
def gradedPoints (block : Block Double) : List (PyValue Double) :=
  (((block.data.get "points").orElse (.list [])).items?.getD []).filter fun point =>
    point.entries?.isSome && !(point.get "passed").isNone

def missingConcurrencies (block : Block Double) : List (PyValue Double) :=
  ((block.data.get "missing_concurrencies").orElse (.list [])).items?.getD []

/-- A point that missed a target, or one that was not measured. -/
def AgenticStands (block : Block Double) : Prop :=
  (∃ point ∈ gradedPoints block, isMissed point) ∨ missingConcurrencies block ≠ []

theorem gradeAgentic_spec {grade : GradedSweep} (graded : gradeAgentic block = some grade) :
    (grade.blockers ≠ [] ↔ AgenticStands block) ∧ grade.total = (gradedPoints block).length ∧
      grade.failed = ((gradedPoints block).filter isMissed).length := by
  unfold gradeAgentic at graded
  unfold AgenticStands gradedPoints missingConcurrencies
  cases points : ((block.data.get "points").orElse (.list [])).items? with
  | none =>
    rw [points] at graded
    cases graded
  | some points' =>
    cases missing : ((block.data.get "missing_concurrencies").orElse (.list [])).items? with
    | none =>
      rw [points, missing] at graded
      cases graded
    | some missing' =>
      rw [points, missing] at graded
      simp only [Option.bind_eq_bind, Option.bind_some, Option.bind_eq_some_iff] at graded
      obtain ⟨blockers, missed, same⟩ := graded
      cases same
      refine ⟨?_, rfl, rfl⟩
      have some_ : blockers ≠ [] ↔ ∃ point ∈ (points'.filter fun point =>
          point.entries?.isSome && !(point.get "passed").isNone), isMissed point := by
        rw [← List.length_pos_iff, length_of_mapM missed, List.length_pos_iff, ne_eq,
          List.filter_eq_nil_iff]
        push Not
        rfl
      rw [ne_eq, List.append_eq_nil_iff, not_and_or]
      refine or_congr some_ ?_
      cases missing' with
      | nil => simp
      | cons _ _ => simp

end InferenceServer.Reports
