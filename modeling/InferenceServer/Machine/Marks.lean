import Mathlib.Data.List.Basic
import Mathlib.Data.List.Count

/-! Positions in a list some of whose elements are marked: where a number of marks
has been seen, and how many marks come before a position. -/
namespace InferenceServer.Machine

variable {α : Type*} {marked : α → Bool}
variable {list : List α} {count : Nat}

/-- The length of the shortest beginning of a list with this many marks. -/
def markEnd (marked : α → Bool) : List α → Nat → Nat
  | _, 0 => 0
  | [], _ + 1 => 0
  | x :: rest, count + 1 =>
    1 + if marked x then markEnd marked rest count else markEnd marked rest (count + 1)

@[simp] theorem markEnd_zero (marked : α → Bool) (list : List α) : markEnd marked list 0 = 0 := by
  cases list <;> rfl

theorem markEnd_le_length (marked : α → Bool) (list : List α) (count : Nat) :
    markEnd marked list count ≤ list.length := by
  induction list generalizing count with
  | nil => cases count <;> simp [markEnd]
  | cons x rest ih =>
    cases count with
    | zero => simp
    | succ count =>
      have fewer := ih count
      have same := ih (count + 1)
      simp only [markEnd, List.length_cons]
      split <;> omega

/-- That beginning has this many marks. -/
theorem countP_take_markEnd (enough : count ≤ list.countP marked) :
    (list.take (markEnd marked list count)).countP marked = count := by
  induction list generalizing count with
  | nil => simp_all
  | cons x rest ih =>
    cases count with
    | zero => simp
    | succ count =>
      rw [List.countP_cons] at enough
      simp only [markEnd, Nat.add_comm 1, List.take_succ_cons, List.countP_cons]
      by_cases mark : marked x
      · simp only [mark, ↓reduceIte] at enough ⊢
        rw [ih (by omega)]
      · simp only [mark, Bool.false_eq_true, ↓reduceIte] at enough ⊢
        exact ih (by omega)

/-- What comes after the marks does not matter. -/
theorem markEnd_append (enough : count ≤ list.countP marked) (more : List α) :
    markEnd marked (list ++ more) count = markEnd marked list count := by
  induction list generalizing count with
  | nil =>
    obtain rfl : count = 0 := by simpa using enough
    simp
  | cons x rest ih =>
    cases count with
    | zero => simp
    | succ count =>
      rw [List.countP_cons] at enough
      simp only [List.cons_append, markEnd]
      by_cases mark : marked x
      · simp only [mark, ↓reduceIte] at enough ⊢
        rw [ih (by omega)]
      · simp only [mark, Bool.false_eq_true, ↓reduceIte] at enough ⊢
        rw [ih (by omega)]

/-- A list that ends with its last mark is the shortest beginning with all marks. -/
theorem markEnd_concat {last : α} (mark : marked last) :
    markEnd marked (list ++ [last]) (list.countP marked + 1) = list.length + 1 := by
  induction list with
  | nil => simp [markEnd, mark]
  | cons x rest ih =>
    rw [List.countP_cons, List.cons_append, List.length_cons]
    by_cases here : marked x
    · simp only [here, ↓reduceIte, markEnd]
      rw [ih]
      omega
    · simp only [here, Bool.false_eq_true, ↓reduceIte, Nat.add_zero, markEnd]
      rw [ih]
      omega

/-- More marks take a longer beginning. -/
theorem markEnd_mono {more : Nat} (fewer : count ≤ more) (enough : more ≤ list.countP marked) :
    markEnd marked list count ≤ markEnd marked list more := by
  induction list generalizing count more with
  | nil =>
    obtain rfl : more = 0 := by simpa using enough
    obtain rfl : count = 0 := by omega
    exact Nat.le_refl _
  | cons x rest ih =>
    cases count with
    | zero => simp
    | succ count =>
      cases more with
      | zero => omega
      | succ more =>
        rw [List.countP_cons] at enough
        simp only [markEnd]
        by_cases mark : marked x
        · simp only [mark, ↓reduceIte] at enough ⊢
          exact Nat.add_le_add_left (ih (by omega) (by omega)) 1
        · simp only [mark, Bool.false_eq_true, ↓reduceIte] at enough ⊢
          exact Nat.add_le_add_left (ih (by omega) (by omega)) 1

/-- What is marked at the beginning of a list. -/
theorem filter_take (list : List α) (count : Nat) : (list.take count).filter marked =
    (list.filter marked).take ((list.take count).countP marked) := by
  conv => rhs; rw [← List.take_append_drop count list, List.filter_append]
  rw [List.take_append_drop, List.countP_eq_length_filter, List.take_left]

end InferenceServer.Machine
