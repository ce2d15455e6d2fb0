import Mathlib.Data.List.Induction

/-! The first of the best items of a list. Items may have no score. -/
namespace InferenceServer.Machine

variable {Item Score : Type}

section Definition

variable (before : Score → Score → Prop) [DecidableRel before] (score : Item → Option Score)

/-- An item takes the place of the best so far only if its score comes before. -/
def better (best : Option (Item × Score)) (item : Item) : Option (Item × Score) :=
  match score item with
  | none => best
  | some found =>
    match best with
    | none => some (item, found)
    | some (held, least) => if before found least then some (item, found) else some (held, least)

def firstBest (items : List Item) : Option (Item × Score) :=
  items.foldl (better before score) none

end Definition

variable {before : Score → Score → Prop} [DecidableRel before] {score : Item → Option Score}

/-- What is best of some items, if any of them has a score. -/
def IsBest (before : Score → Score → Prop) (score : Item → Option Score) (items : List Item) :
    Option (Item × Score) → Prop
  | none => ∀ item ∈ items, score item = none
  | some (best, least) => best ∈ items ∧ score best = some least ∧
      ∀ item ∈ items, ∀ found, score item = some found → ¬ before found least

theorem isBest_better (asymm : ∀ first second, before first second → ¬ before second first)
    (incomparable : ∀ first second third, ¬ before first second → ¬ before second third →
      ¬ before first third)
    {items : List Item} {best : Option (Item × Score)} (held : IsBest before score items best)
    (item : Item) : IsBest before score (items ++ [item]) (better before score best item) := by
  unfold better
  cases scored : score item with
  | none =>
    cases best with
    | none =>
      intro other member
      rcases List.mem_append.mp member with early | last
      · exact held other early
      · rw [List.mem_singleton.mp last, scored]
    | some best =>
      obtain ⟨there, is, least⟩ := held
      refine ⟨List.mem_append_left _ there, is, fun other member found has => ?_⟩
      rcases List.mem_append.mp member with early | last
      · exact least other early found has
      · rw [List.mem_singleton.mp last, scored] at has
        cases has
  | some found =>
    have self : ¬ before found found := fun less => asymm _ _ less less
    cases best with
    | none =>
      refine ⟨List.mem_append_right _ (List.mem_singleton_self _), scored,
        fun other member has is => ?_⟩
      rcases List.mem_append.mp member with early | last
      · rw [held other early] at is
        cases is
      · rw [List.mem_singleton.mp last, scored] at is
        cases is
        exact self
    | some best =>
      obtain ⟨there, is, least⟩ := held
      dsimp only
      split
      · rename_i less
        refine ⟨List.mem_append_right _ (List.mem_singleton_self _), scored,
          fun other member has here => ?_⟩
        rcases List.mem_append.mp member with early | last
        · exact incomparable _ _ _ (least other early has here) (asymm _ _ less)
        · rw [List.mem_singleton.mp last, scored] at here
          cases here
          exact self
      · rename_i notLess
        refine ⟨List.mem_append_left _ there, is, fun other member has here => ?_⟩
        rcases List.mem_append.mp member with early | last
        · exact least other early has here
        · rw [List.mem_singleton.mp last, scored] at here
          cases here
          exact notLess

variable (before score) in
theorem isBest_firstBest (asymm : ∀ first second, before first second → ¬ before second first)
    (incomparable : ∀ first second third, ¬ before first second → ¬ before second third →
      ¬ before first third) (items : List Item) :
    IsBest before score items (firstBest before score items) := by
  induction items using List.reverseRecOn with
  | nil => exact fun item member => (nomatch member)
  | append_singleton items item ih =>
    rw [firstBest, List.foldl_append]
    exact isBest_better asymm incomparable ih item

end InferenceServer.Machine
