import InferenceServer.Reports.BlockingStates
import Mathlib.Algebra.BigOperators.Group.List.Basic

/-! How the counts of a category add up. Every grade is filed in a bucket; a benchmark
can be filed in two, and the waived ones are counted by their keys. -/
namespace InferenceServer.Reports
open Machine

inductive Bucket
  | passed
  | failed
  | na
  | skipped
  | waived

/-- The buckets that a grade enters; what enters no other has passed. -/
def Graded.isIn (grade : Graded) : Bucket → Bool
  | .failed => 0 < grade.failed + grade.partialRuns
  | .na => 0 < grade.na
  | .skipped => 0 < grade.skipped
  | .waived => 0 < grade.waived.length
  | .passed => grade.failed + grade.partialRuns = 0 ∧ grade.na = 0 ∧ grade.skipped = 0 ∧
      grade.waived.length = 0

/-- Every grade is in one bucket, and the counts of a category are those of its buckets. -/
structure CategoryResult.Accounts (result : CategoryResult) (grades : List Graded) : Prop where
  single : ∀ grade ∈ grades, ∃! bucket, grade.isIn bucket
  failed : result.failed = grades.countP (Graded.isIn · .failed)
  na : result.na = grades.countP (Graded.isIn · .na)
  skipped : result.skipped = grades.countP (Graded.isIn · .skipped)
  waived : result.waived.length = grades.countP (Graded.isIn · .waived)
  passed : result.passed = grades.countP (Graded.isIn · .passed)
  total : (result.total : Int) =
    result.passed + result.failed + result.na + result.skipped + result.waived.length
  nonneg : 0 ≤ result.passed

theorem sum_eq_countP {Item : Type} {items : List Item} {count : Item → Nat}
    (unit : ∀ item ∈ items, count item ≤ 1) :
    (items.map count).sum = items.countP fun item => 0 < count item := by
  induction items with
  | nil => rfl
  | cons item rest ih =>
    have later := ih fun other member => unit other (List.mem_cons_of_mem _ member)
    have here := unit item List.mem_cons_self
    rw [List.map_cons, List.sum_cons, List.countP_cons, later]
    by_cases positive : 0 < count item
    · simp [positive]
      omega
    · simp [positive]
      omega

/-- A grade that adds to one count at most. -/
def Graded.IsSingle (grade : Graded) : Prop :=
  grade.failed + grade.partialRuns + grade.na + grade.skipped + grade.waived.length ≤ 1

theorem Graded.IsSingle.existsUnique {grade : Graded} (single : grade.IsSingle) :
    ∃! bucket, grade.isIn bucket := by
  unfold IsSingle at single
  have only : ∀ bucket, grade.isIn bucket → (∀ other, grade.isIn other → other = bucket) →
      ∃! bucket, grade.isIn bucket := fun bucket here unique => ⟨bucket, here, unique⟩
  by_cases failed : 0 < grade.failed + grade.partialRuns
  · refine only .failed (by simpa [isIn] using failed) fun other there => ?_
    cases other <;> simp [isIn] at there <;> first | rfl | omega
  · by_cases na : 0 < grade.na
    · refine only .na (by simpa [isIn] using na) fun other there => ?_
      cases other <;> simp [isIn] at there <;> first | rfl | omega
    · by_cases skipped : 0 < grade.skipped
      · refine only .skipped (by simpa [isIn] using skipped) fun other there => ?_
        cases other <;> simp [isIn] at there <;> first | rfl | omega
      · by_cases waived : 0 < grade.waived.length
        · refine only .waived (by simpa [isIn] using waived) fun other there => ?_
          cases other <;> simp [isIn] at there <;> first | rfl | grind
        · refine only .passed (by simp [isIn]; grind) fun other there => ?_
          cases other <;> simp [isIn] at there <;> first | rfl | grind

/-- The buckets of single grades add up. -/
theorem countP_buckets {grades : List Graded} (single : ∀ grade ∈ grades, grade.IsSingle) :
    grades.length = grades.countP (Graded.isIn · .passed) +
      grades.countP (Graded.isIn · .failed) + grades.countP (Graded.isIn · .na) +
        grades.countP (Graded.isIn · .skipped) + grades.countP (Graded.isIn · .waived) := by
  induction grades with
  | nil => rfl
  | cons grade rest ih =>
    have later := ih fun other member => single other (List.mem_cons_of_mem _ member)
    have here := single grade List.mem_cons_self
    unfold Graded.IsSingle at here
    simp only [List.countP_cons, List.length_cons, Graded.isIn, decide_eq_true_eq] at later ⊢
    split_ifs <;> omega

namespace Graded.Fits

variable {grade : Graded} {key : String} {stands demoted : Prop}
  (fits : grade.Fits key stands demoted)
include fits

theorem units : grade.failed + grade.partialRuns ≤ 1 ∧ grade.na ≤ 1 ∧ grade.skipped ≤ 1 ∧
    grade.waived.length ≤ 1 := by
  have idle := fits.idle
  refine ⟨?_, by omega, by omega, ?_⟩
  · rcases fits.failed with ⟨_, one⟩ | ⟨_, zero⟩ <;> omega
  · rcases fits.waived with ⟨_, keys⟩ | ⟨_, none_⟩
    · rw [← List.length_map Prod.fst, keys]
      exact Nat.le_refl _
    · rw [none_]
      exact Nat.zero_le _

theorem isIn_failed : grade.isIn .failed ↔ stands := by
  simp only [isIn, decide_eq_true_eq]
  rcases fits.failed with ⟨holds, one⟩ | ⟨none_, zero⟩
  · exact iff_of_true (by omega) holds
  · exact iff_of_false (by omega) none_

theorem isIn_waived : grade.isIn .waived ↔ demoted := by
  simp only [isIn, decide_eq_true_eq]
  rcases fits.waived with ⟨holds, keys⟩ | ⟨none_, empty⟩
  · refine iff_of_true ?_ holds
    rw [← List.length_map Prod.fst, keys]
    exact Nat.one_pos
  · refine iff_of_false ?_ none_
    rw [empty]
    exact Nat.lt_irrefl 0

theorem isSingle (apart : ¬ (stands ∧ demoted)) : grade.IsSingle := by
  have idle := fits.idle
  have units := fits.units
  unfold IsSingle
  by_cases free : grade.na + grade.skipped = 1
  · obtain ⟨none_, kept⟩ := fits.apart free
    rw [← fits.isIn_failed] at none_
    rw [← fits.isIn_waived] at kept
    simp only [isIn, decide_eq_true_eq] at none_ kept
    omega
  · rw [← fits.isIn_failed, ← fits.isIn_waived] at apart
    simp only [isIn, decide_eq_true_eq] at apart
    omega

/-- A grade is in one bucket unless one state stands and another is demoted. -/
theorem single_iff : (∃! bucket, grade.isIn bucket) ↔ ¬ (stands ∧ demoted) := by
  constructor
  · rintro ⟨_, _, only⟩ ⟨holds, lowered⟩
    exact nomatch (only .failed (fits.isIn_failed.mpr holds)).trans
      (only .waived (fits.isIn_waived.mpr lowered)).symm
  · exact fun apart => (fits.isSingle apart).existsUnique

end Graded.Fits

section Points

variable {Point : Type} {points : List Point} {grade : Point → Graded} {key : Point → String}
  {stands demoted : Point → Prop} {name : Category} {status : TestStatus}
  (fits : ∀ point ∈ points, (grade point).Fits (key point) (stands point) (demoted point))
include fits

/-- The waived keys are distinct exactly if no two demoted blocks share one. -/
theorem nodup_waived_iff :
    (((points.map grade).flatMap Graded.waived).map Prod.fst).Nodup ↔
      points.Pairwise fun first second => demoted first → demoted second → key first ≠ key second := by
  have keys : ((points.map grade).flatMap Graded.waived).map Prod.fst =
      points.flatMap fun point => (grade point).waived.map Prod.fst := by
    rw [List.flatMap_map, List.map_flatMap]
  rw [keys, List.nodup_flatMap]
  have each : ∀ point ∈ points, ((grade point).waived.map Prod.fst).Nodup := by
    intro point member
    rcases (fits point member).waived with ⟨_, keys⟩ | ⟨_, none_⟩
    · rw [keys]
      exact List.nodup_singleton _
    · rw [none_]
      exact List.nodup_nil
  refine (and_iff_right each).trans (List.Pairwise.iff_of_mem fun {first second} here there => ?_)
  change List.Disjoint ((grade first).waived.map Prod.fst) ((grade second).waived.map Prod.fst) ↔ _
  rcases (fits first here).waived with ⟨lowered, keys⟩ | ⟨kept, none_⟩
  · rcases (fits second there).waived with ⟨also, others⟩ | ⟨free, empty⟩
    · rw [keys, others]
      simp [lowered, also, eq_comm]
    · rw [empty]
      simp [free]
  · rw [none_]
    simp [kept]

theorem length_waived : ((points.map grade).flatMap Graded.waived).length =
    (points.map grade).countP (Graded.isIn · .waived) := by
  rw [List.length_flatMap]
  refine sum_eq_countP fun graded member => ?_
  obtain ⟨point, held, rfl⟩ := List.mem_map.mp member
  exact (fits point held).units.2.2.2

/-- A category accounts for its blocks exactly if no block is in two buckets and no two
waived blocks share a key. -/
theorem accounts_iff : (tally name status (points.map grade)).Accounts (points.map grade) ↔
    (∀ point ∈ points, ¬ (stands point ∧ demoted point)) ∧
      points.Pairwise fun first second =>
        demoted first → demoted second → key first ≠ key second := by
  have units : ∀ graded ∈ points.map grade, graded.failed + graded.partialRuns ≤ 1 ∧
      graded.na ≤ 1 ∧ graded.skipped ≤ 1 ∧ graded.waived.length ≤ 1 := by
    intro graded member
    obtain ⟨point, held, rfl⟩ := List.mem_map.mp member
    exact (fits point held).units
  have waived := length_waived fits
  have files := Dict.length_ofList_eq_iff ((points.map grade).flatMap Graded.waived)
  rw [nodup_waived_iff fits, waived] at files
  constructor
  · intro accounts
    refine ⟨fun point held => ?_, files.mp accounts.waived⟩
    exact (fits point held).single_iff.mp
      (accounts.single _ (List.mem_map_of_mem held))
  · rintro ⟨apart, distinct⟩
    have single : ∀ graded ∈ points.map grade, graded.IsSingle := by
      intro graded member
      obtain ⟨point, held, rfl⟩ := List.mem_map.mp member
      exact (fits point held).isSingle (apart point held)
    have buckets := countP_buckets single
    have failed : (tally name status (points.map grade)).failed = _ :=
      sum_eq_countP fun graded member => (units graded member).1
    have na : (tally name status (points.map grade)).na = _ :=
      sum_eq_countP fun graded member => (units graded member).2.1
    have skipped : (tally name status (points.map grade)).skipped = _ :=
      sum_eq_countP fun graded member => (units graded member).2.2.1
    have kept : (tally name status (points.map grade)).waived.length = _ := files.mpr distinct
    have passed : (tally name status (points.map grade)).passed =
        (points.map grade).countP (Graded.isIn · .passed) := by
      rw [CategoryResult.passed, failed, na, skipped, kept]
      have total : (tally name status (points.map grade)).total = (points.map grade).length := rfl
      rw [total, buckets]
      simp only [Graded.isIn]
      omega
    exact {
      single := fun graded member => (single graded member).existsUnique
      failed
      na
      skipped
      waived := kept
      passed
      total := by
        rw [CategoryResult.passed]
        omega
      nonneg := by
        rw [passed]
        exact Int.natCast_nonneg _
    }

end Points

end InferenceServer.Reports
