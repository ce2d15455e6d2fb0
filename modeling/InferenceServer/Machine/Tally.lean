import Mathlib.Algebra.GroupWithZero.Nat
import Mathlib.Algebra.Order.BigOperators.Group.Finset

/-! Counting by key: over a finite table whose entries are replaced one at a time,
and over a log that only grows. -/
namespace InferenceServer.Machine

section Table

variable {Index Entry Total : Type*} [Fintype Index] [DecidableEq Index] [AddCommMonoid Total]

/-- Replacing an entry exchanges its share of the total. -/
theorem sum_update (table : Index → Entry) (share : Index → Entry → Total) (i : Index)
    (entry : Entry) : (∑ j, share j (Function.update table i entry j)) + share i (table i) =
      (∑ j, share j (table j)) + share i entry := by
  have untouched : ∀ j ∈ Finset.univ.erase i,
      share j (Function.update table i entry j) = share j (table j) := by
    intro j member
    rw [Function.update_of_ne (Finset.ne_of_mem_erase member)]
  rw [← Finset.add_sum_erase _ _ (Finset.mem_univ i),
    ← Finset.add_sum_erase _ (fun j => share j (table j)) (Finset.mem_univ i),
    Finset.sum_congr rfl untouched, Function.update_self]
  ac_rfl

/-- An entry's share is part of the total. -/
theorem share_add_rest (table : Index → Entry) (share : Entry → Total) (i : Index) :
    share (table i) + (∑ j ∈ Finset.univ.erase i, share (table j)) = ∑ j, share (table j) :=
  Finset.add_sum_erase _ (fun j => share (table j)) (Finset.mem_univ i)

end Table

section Log

variable {Event Key : Type*} [DecidableEq Key] (key : Key)

/-- One when an optional key is `key`. -/
def hits (id : Option Key) : Nat := if id = some key then 1 else 0

@[simp] theorem hits_none : hits key none = 0 := rfl

theorem hits_self : hits key (some key) = 1 := if_pos rfl

theorem hits_le_one (id : Option Key) : hits key id ≤ 1 := by
  unfold hits
  split <;> omega

theorem hits_pos {key : Key} {id : Option Key} : 0 < hits key id ↔ id = some key := by
  unfold hits
  split <;> simp_all

theorem count_single (other key : Key) : [other].count key = hits key (some other) := by
  rw [List.count_singleton, hits]
  simp

theorem sum_hits (list : List Key) (key : Key) :
    (list.map fun other => hits key (some other)).sum = list.count key := by
  induction list with
  | nil => rfl
  | cons other rest ih =>
    rw [List.map_cons, List.sum_cons, ih, ← count_single, ← List.count_append,
      List.singleton_append]

/-- What is taken out of a list counts no more. -/
theorem count_erase_of_mem {list : List Key} {other : Key} (member : other ∈ list) (key : Key) :
    list.count key = (list.erase other).count key + hits key (some other) := by
  rw [(List.perm_cons_erase member).count_eq key, ← List.singleton_append, List.count_append,
    count_single, Nat.add_comm]

/-- One more for a key that joins a list. -/
theorem hits_new {list : List Key} {new : Key} (absent : new ∉ list) (key : Key) :
    hits key (some new) + (if key ∈ list then 1 else 0) ≤
      if key ∈ list ++ [new] then 1 else 0 := by
  by_cases same : new = key
  · subst same
    simp [absent, hits]
  · simp [hits, same, Ne.symm same]

/-- How many events of a log are filed under a key. -/
def tally (file : Event → Option Key) (log : List Event) (key : Key) : Nat :=
  (log.filterMap file).count key

variable {file : Event → Option Key}

@[simp] theorem tally_nil (file : Event → Option Key) (key : Key) : tally file [] key = 0 := rfl

@[simp] theorem tally_append (log more : List Event) (key : Key) :
    tally file (log ++ more) key = tally file log key + tally file more key := by
  simp [tally, List.filterMap_append, List.count_append]

@[simp] theorem tally_single (event : Event) (key : Key) :
    tally file [event] key = hits key (file event) := by
  unfold tally hits
  cases filed : file event with
  | none => simp [filed]
  | some other => simp [filed, List.count_singleton]

theorem tally_cons (event : Event) (log : List Event) (key : Key) :
    tally file (event :: log) key = hits key (file event) + tally file log key := by
  rw [← List.singleton_append, tally_append, tally_single]

theorem tally_pos {log : List Event} {key : Key} :
    0 < tally file log key ↔ ∃ event ∈ log, file event = some key := by
  simp [tally, List.count_pos_iff, List.mem_filterMap]

theorem tally_mono {log more : List Event} (grows : log <+: more) (key : Key) :
    tally file log key ≤ tally file more key := by
  obtain ⟨rest, rfl⟩ := grows
  simp

end Log

end InferenceServer.Machine
