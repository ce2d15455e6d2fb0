import Mathlib.Data.Nat.ModEq

/-! The positions of a ring that a window of consecutive numbers covers. Numbers only grow; the
position of a number is its remainder by the size of the ring. -/
namespace InferenceServer.Machine

variable {slots first past position : Nat}

/-- A number from `first` up to `past` is at the position. -/
def Covers (slots first past position : Nat) : Prop :=
  ∃ number, first ≤ number ∧ number < past ∧ number % slots = position

/-- Two numbers less than a round apart are at one position only if they are equal. -/
theorem eq_of_mod_eq {left right : Nat} (same : left % slots = right % slots)
    (below : left < right + slots) (above : right < left + slots) : left = right := by
  rcases Nat.le_total left right with before | before
  · have rounds := (Nat.modEq_iff_dvd' before).mp same
    have none := Nat.eq_zero_of_dvd_of_lt rounds (by omega)
    omega
  · have rounds := (Nat.modEq_iff_dvd' before).mp same.symm
    have none := Nat.eq_zero_of_dvd_of_lt rounds (by omega)
    omega

namespace Covers

theorem nothing (past : Nat) : ¬ Covers slots past past position := by
  rintro ⟨number, since, before, _⟩
  omega

/-- The window grows at its end. -/
theorem push_iff (ordered : first ≤ past) : Covers slots first (past + 1) position ↔
    position = past % slots ∨ Covers slots first past position := by
  constructor
  · rintro ⟨number, since, before, there⟩
    rcases Nat.lt_succ_iff_lt_or_eq.mp before with earlier | rfl
    · exact .inr ⟨number, since, earlier, there⟩
    · exact .inl there.symm
  · rintro (rfl | ⟨number, since, before, there⟩)
    · exact ⟨past, ordered, Nat.lt_succ_self past, rfl⟩
    · exact ⟨number, since, Nat.lt_succ_of_lt before, there⟩

/-- The window moves on at its start. -/
theorem pop_iff (fits : past ≤ first + slots) : Covers slots (first + 1) past position ↔
    position ≠ first % slots ∧ Covers slots first past position := by
  constructor
  · rintro ⟨number, since, before, there⟩
    refine ⟨fun same => ?_, number, by omega, before, there⟩
    have equal := eq_of_mod_eq (there.trans same) (by omega) (by omega)
    omega
  · rintro ⟨different, number, since, before, there⟩
    refine ⟨number, ?_, before, there⟩
    rcases Nat.eq_or_lt_of_le since with rfl | later
    · exact absurd there.symm different
    · exact later

/-- The position after the end is free as long as there is room. -/
theorem at_past_iff (ordered : first ≤ past) (fits : past ≤ first + slots) :
    Covers slots first past (past % slots) ↔ past = first + slots ∧ first < past := by
  constructor
  · rintro ⟨number, since, before, there⟩
    by_cases full : past = first + slots
    · exact ⟨full, by omega⟩
    · have equal := eq_of_mod_eq there (by omega) (by omega)
      omega
  · rintro ⟨rfl, room⟩
    exact ⟨first, le_rfl, room, (Nat.add_mod_right first slots).symm⟩

/-- The position at the start is covered unless the window is empty. -/
theorem at_first_iff : Covers slots first past (first % slots) ↔ first < past := by
  constructor
  · rintro ⟨number, since, before, _⟩
    omega
  · exact fun room => ⟨first, le_rfl, room, rfl⟩

/-- The position that the window has just left is free until the window comes round to it. -/
theorem not_before (fits : past ≤ first + slots) :
    ¬ Covers slots (first + 1) past (first % slots) := by
  rw [pop_iff fits]
  exact fun both => both.1 rfl

end Covers
end InferenceServer.Machine
