import Mathlib.Data.List.Nodup

/-! Entries in the order in which they were last touched, of which only the first are kept. -/
namespace InferenceServer.Machine.Recency

variable {Key Value : Type} [DecidableEq Key] {key : Key} {value : Value}
  {entries : List (Key × Value)} {capacity : Nat}

/-- The entries with one of them touched. -/
def touch (key : Key) (value : Value) (entries : List (Key × Value)) : List (Key × Value) :=
  (key, value) :: entries.filter fun entry => entry.1 ≠ key

def Distinct (entries : List (Key × Value)) : Prop := (entries.map Prod.fst).Nodup

omit [DecidableEq Key] in
theorem Distinct.take (distinct : Distinct entries) (capacity : Nat) :
    Distinct (entries.take capacity) :=
  distinct.sublist ((List.take_sublist _ _).map Prod.fst)

theorem Distinct.touch (distinct : Distinct entries) : Distinct (touch key value entries) := by
  refine List.nodup_cons.mpr ⟨fun member => ?_, distinct.sublist (List.filter_sublist.map Prod.fst)⟩
  obtain ⟨entry, kept, same⟩ := List.mem_map.mp member
  exact of_decide_eq_true (List.mem_filter.mp kept).2 same

omit [DecidableEq Key] in
/-- What is looked up among distinct keys is what stands under the key. -/
theorem lookup_of_mem [BEq Key] [LawfulBEq Key] (distinct : Distinct entries) (member : (key, value) ∈ entries) :
    entries.lookup key = some value := by
  induction entries with
  | nil => cases member
  | cons entry others ih =>
    obtain ⟨first, later⟩ := List.nodup_cons.mp distinct
    rcases List.mem_cons.mp member with rfl | inside
    · exact List.lookup_cons_self
    · have other : key ≠ entry.1 := fun same => first (same ▸ List.mem_map_of_mem inside)
      rw [List.lookup_cons, beq_eq_false_iff_ne.mpr other]
      exact ih later inside

omit [DecidableEq Key] in
theorem lookup_eq_none [BEq Key] [LawfulBEq Key] (absent : key ∉ entries.map Prod.fst) : entries.lookup key = none := by
  refine List.lookup_eq_none_iff.mpr fun entry member => bne_iff_ne.mpr fun same => ?_
  exact absent (same ▸ List.mem_map_of_mem member)

theorem filter_eq_self (absent : key ∉ entries.map Prod.fst) :
    (entries.filter fun entry => entry.1 ≠ key) = entries := by
  refine List.filter_eq_self.mpr fun entry member => decide_eq_true fun same => ?_
  exact absent (same ▸ List.mem_map_of_mem member)

theorem take_filter_of_mem {rest : Nat} (distinct : Distinct entries)
    (kept : key ∈ (entries.take (rest + 1)).map Prod.fst) :
    (entries.filter fun entry => entry.1 ≠ key).take rest =
      (entries.take (rest + 1)).filter fun entry => entry.1 ≠ key := by
  induction entries generalizing rest with
  | nil => cases kept
  | cons entry others ih =>
    obtain ⟨first, later⟩ := List.nodup_cons.mp distinct
    rw [List.take_succ_cons, List.map_cons, List.mem_cons] at kept
    rw [List.take_succ_cons]
    by_cases same : entry.1 = key
    · have absent : key ∉ others.map Prod.fst := same ▸ first
      have gone : key ∉ (others.take rest).map Prod.fst := fun member =>
        absent (((List.take_sublist _ _).map Prod.fst).subset member)
      rw [List.filter_cons_of_neg (by simpa using same), List.filter_cons_of_neg (by simpa using same),
        filter_eq_self absent, filter_eq_self gone]
    · have inside := kept.resolve_left (Ne.symm same)
      rw [List.filter_cons_of_pos (by simpa using same), List.filter_cons_of_pos (by simpa using same)]
      cases rest with
      | zero => cases inside
      | succ rest => rw [List.take_succ_cons, ih later inside]

theorem take_filter_of_not_mem {rest : Nat}
    (gone : key ∉ (entries.take (rest + 1)).map Prod.fst) :
    (entries.filter fun entry => entry.1 ≠ key).take rest = entries.take rest := by
  induction entries generalizing rest with
  | nil => rfl
  | cons entry others ih =>
    rw [List.take_succ_cons, List.map_cons, List.mem_cons, not_or] at gone
    rw [List.filter_cons_of_pos (by simpa using Ne.symm gone.1)]
    cases rest with
    | zero => rfl
    | succ rest => rw [List.take_succ_cons, List.take_succ_cons, ih gone.2]

/-- An entry that is kept is touched among those that are kept. -/
theorem take_touch_of_mem (distinct : Distinct entries)
    (kept : key ∈ (entries.take capacity).map Prod.fst) :
    (touch key value entries).take capacity = touch key value (entries.take capacity) := by
  cases capacity with
  | zero => cases kept
  | succ rest => rw [touch, List.take_succ_cons, take_filter_of_mem distinct kept, touch]

/-- Another entry takes the place of the last that is kept. -/
theorem take_touch_of_not_mem (gone : key ∉ (entries.take capacity).map Prod.fst)
    (some_ : 0 < capacity) :
    (touch key value entries).take capacity = (key, value) :: entries.take (capacity - 1) := by
  cases capacity with
  | zero => cases some_
  | succ rest => rw [touch, List.take_succ_cons, take_filter_of_not_mem gone, Nat.add_sub_cancel]

end InferenceServer.Machine.Recency
