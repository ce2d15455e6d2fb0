import Mathlib.Algebra.BigOperators.Group.List.Basic
import Mathlib.Data.Fintype.Card
import Mathlib.Data.List.AList

/-! Maps with finitely many keys, as sums over their entries see them: what an insertion,
an erasure or taking out all entries of a kind does to a total. -/
namespace InferenceServer.Machine

abbrev Table (Key Value : Type*) := AList fun _ : Key => Value

namespace Table

variable {Key Value Total : Type*}
variable {key : Key} {value : Value}

section

variable [DecidableEq Key]

/-- The value under a key and the table without it. -/
def take (key : Key) (table : Table Key Value) : Option Value × Table Key Value :=
  (table.lookup key, table.erase key)

/-- The table with a change under a key that is there. -/
def modify (key : Key) (change : Value → Value) (table : Table Key Value) : Table Key Value :=
  match table.lookup key with
  | none => table
  | some value => table.insert key (change value)

theorem lookup_modify (key : Key) (change : Value → Value) (table : Table Key Value) (other : Key) :
    (table.modify key change).lookup other =
      if other = key then (table.lookup key).map change else table.lookup other := by
  by_cases same : other = key
  · subst same
    rw [if_pos rfl, modify]
    cases found : table.lookup other with
    | none => simp only [found, Option.map_none]
    | some value => simp only [AList.lookup_insert, Option.map_some]
  · rw [if_neg same, modify]
    cases table.lookup key with
    | none => rfl
    | some value => exact AList.lookup_insert_ne same

/-- What a change keeps of the values is the same under every key. -/
theorem map_lookup_modify {Kept : Type*} {key : Key} {change : Value → Value} (kept : Value → Kept)
    (same : ∀ value, kept (change value) = kept value) (table : Table Key Value) (other : Key) :
    ((table.modify key change).lookup other).map kept = (table.lookup other).map kept := by
  rw [lookup_modify]
  split
  · rename_i equal
    rw [equal, Option.map_map]
    exact congrArg (fun f => (table.lookup key).map f) (funext same)
  · rfl

end

/-- Entries of a kind. -/
def select (taken : Key → Value → Bool) (table : Table Key Value) : List (Key × Value) :=
  (table.entries.filter fun entry => taken entry.1 entry.2).map fun entry => (entry.1, entry.2)

/-- The table without the entries of a kind. -/
def eraseIf (taken : Key → Value → Bool) (table : Table Key Value) : Table Key Value where
  entries := table.entries.filter fun entry => !taken entry.1 entry.2
  nodupKeys := table.nodupKeys.sublist List.filter_sublist

theorem mem_select (taken : Key → Value → Bool) (table : Table Key Value) :
    (key, value) ∈ table.select taken ↔ ⟨key, value⟩ ∈ table.entries ∧ taken key value := by
  constructor
  · intro member
    obtain ⟨⟨k, v⟩, filtered, same⟩ := List.mem_map.mp member
    obtain ⟨rfl, rfl⟩ := Prod.mk.inj same
    exact List.mem_filter.mp filtered
  · intro member
    exact List.mem_map.mpr ⟨⟨key, value⟩, List.mem_filter.mpr member, rfl⟩

theorem mem_eraseIf {taken : Key → Value → Bool} {table : Table Key Value} :
    ⟨key, value⟩ ∈ (table.eraseIf taken).entries ↔
      ⟨key, value⟩ ∈ table.entries ∧ taken key value = false := by
  simp [eraseIf, List.mem_filter]

/-- The table with every value changed. -/
def mapValues (change : Value → Value) (table : Table Key Value) : Table Key Value where
  entries := table.entries.map fun entry => ⟨entry.1, change entry.2⟩
  nodupKeys := by
    have keys : (table.entries.map fun entry => (⟨entry.1, change entry.2⟩ : Σ _ : Key, Value)).keys =
        table.entries.keys := by
      rw [List.keys, List.map_map]
      rfl
    rw [List.NodupKeys, keys]
    exact table.nodupKeys

section Lookup

variable [DecidableEq Key]

theorem mem_entries {table : Table Key Value} {key : Key} {value : Value} :
    ⟨key, value⟩ ∈ table.entries ↔ table.lookup key = some value :=
  (AList.mem_lookup_iff (β := fun _ => Value)).symm

theorem lookup_insert_if (key : Key) (value : Value) (table : Table Key Value) (other : Key) :
    (table.insert key value).lookup other =
      if other = key then some value else table.lookup other := by
  split
  · rename_i same
    rw [same, AList.lookup_insert]
  · rename_i different
    exact AList.lookup_insert_ne different

theorem lookup_erase_if (key : Key) (table : Table Key Value) (other : Key) :
    (table.erase key).lookup other = if other = key then none else table.lookup other := by
  split
  · rename_i same
    rw [same, AList.lookup_erase]
  · rename_i different
    exact AList.lookup_erase_ne different

theorem lookup_mapValues (change : Value → Value) (table : Table Key Value) (key : Key) :
    (table.mapValues change).lookup key = (table.lookup key).map change := by
  refine Option.ext fun value => ?_
  rw [← mem_entries, Option.map_eq_some_iff]
  constructor
  · intro member
    obtain ⟨entry, present, same⟩ := List.mem_map.mp member
    cases same
    exact ⟨entry.2, mem_entries.mp present, rfl⟩
  · rintro ⟨old, present, rfl⟩
    exact List.mem_map.mpr ⟨⟨key, old⟩, mem_entries.mpr present, rfl⟩

theorem mem_entries_insert {table : Table Key Value} {key other : Key} {value found : Value}
    (member : ⟨other, found⟩ ∈ (table.insert key value).entries) :
    (other = key ∧ found = value) ∨ ⟨other, found⟩ ∈ table.entries := by
  rw [AList.entries_insert] at member
  rcases List.mem_cons.mp member with same | earlier
  · cases same
    exact .inl ⟨rfl, rfl⟩
  · exact .inr ((List.kerase_sublist key table.entries).subset earlier)

theorem mem_entries_erase {table : Table Key Value} {key other : Key} {value : Value}
    (member : ⟨other, value⟩ ∈ (table.erase key).entries) : ⟨other, value⟩ ∈ table.entries :=
  (List.kerase_sublist key table.entries).subset member

theorem erase_insert (key : Key) (value : Value) (table : Table Key Value) :
    (table.insert key value).erase key = table.erase key :=
  AList.ext (List.kerase_cons_eq rfl)

theorem erase_absent {table : Table Key Value} {key : Key} (absent : table.lookup key = none) :
    table.erase key = table :=
  AList.ext (List.kerase_of_notMem_keys (AList.lookup_eq_none.mp absent))

end Lookup

variable [AddCommMonoid Total]

/-- The sum of the entries' shares. -/
def total (share : Key → Value → Total) (table : Table Key Value) : Total :=
  (table.entries.map fun entry => share entry.1 entry.2).sum

variable (share : Key → Value → Total) (table : Table Key Value)

@[simp] theorem total_empty : total share (∅ : Table Key Value) = 0 := rfl

theorem total_congr {share other : Key → Value → Total} {table : Table Key Value}
    (same : ∀ key value, ⟨key, value⟩ ∈ table.entries → share key value = other key value) :
    table.total share = table.total other := by
  unfold total
  rw [List.map_congr_left fun entry member => same entry.1 entry.2 member]

theorem total_eq_zero {share : Key → Value → Total} {table : Table Key Value}
    (zero : ∀ key value, ⟨key, value⟩ ∈ table.entries → share key value = 0) :
    table.total share = 0 := by
  refine List.sum_eq_zero fun count member => ?_
  obtain ⟨⟨key, value⟩, present, rfl⟩ := List.mem_map.mp member
  exact zero key value present

theorem total_eraseIf (taken : Key → Value → Bool) :
    table.total share = (table.eraseIf taken).total share +
      ((table.select taken).map fun entry => share entry.1 entry.2).sum := by
  simp only [total, eraseIf, select, List.map_map, Function.comp_def]
  induction table.entries with
  | nil => simp
  | cons entry rest ih =>
    cases kind : taken entry.1 entry.2 with
    | true =>
      simp only [List.map_cons, List.sum_cons, List.filter_cons, kind, Bool.not_true,
        Bool.false_eq_true, ↓reduceIte, ih]
      exact add_left_comm _ _ _
    | false =>
      simp only [List.map_cons, List.sum_cons, List.filter_cons, kind, Bool.not_false,
        Bool.false_eq_true, ↓reduceIte, ih]
      exact (add_assoc _ _ _).symm

/-- There are no more entries than keys. -/
theorem length_le_size (table : Table UInt32 Value) : table.entries.length ≤ UInt32.size := by
  have nodup : (table.entries.keys.map UInt32.toFin).Nodup :=
    table.nodupKeys.map fun _ _ same => UInt32.toFin_inj.mp same
  have bound := nodup.length_le_card
  rwa [List.length_map, Fintype.card_fin, List.keys, List.length_map] at bound

/-- A count of entries is a total. -/
theorem length_eq_total : table.entries.length = table.total fun _ _ => 1 := by
  simp [total]

variable [DecidableEq Key]

theorem total_erase_none {table : Table Key Value} (absent : table.lookup key = none) :
    total share (table.erase key) = table.total share := by
  rw [erase_absent absent]

theorem total_erase {table : Table Key Value} (present : table.lookup key = some value) :
    table.total share = total share (table.erase key) + share key value := by
  have member : key ∈ table.entries.keys := by
    have found : (table.lookup key).isSome := by rw [present]; rfl
    exact AList.lookup_isSome.mp found
  obtain ⟨found, before, after, -, split, erased⟩ := List.exists_of_kerase member
  have here : table.lookup key = some found := by
    rw [← mem_entries, split]
    exact List.mem_append_right _ List.mem_cons_self
  obtain rfl := Option.some.inj (present.symm.trans here)
  have rest : (table.erase key).entries = before ++ after := erased
  rw [total, total, rest]
  simp only [split, List.map_append, List.map_cons, List.sum_append, List.sum_cons]
  rw [add_assoc, add_comm _ (share key value)]

theorem total_insert (key : Key) (value : Value) :
    total share (table.insert key value) = total share (table.erase key) + share key value := by
  have rest : (table.erase key).entries = table.entries.kerase key := rfl
  simp only [total, AList.entries_insert, rest, List.map_cons, List.sum_cons]
  exact add_comm _ _

/-- A change that keeps the shares. -/
theorem total_modify {share : Key → Value → Total} {change : Value → Value}
    (same : ∀ key value, share key (change value) = share key value) (key : Key)
    (table : Table Key Value) : total share (table.modify key change) = table.total share := by
  unfold modify
  split
  · rfl
  · rename_i value found
    rw [total_insert, same, total_erase share found]

/-- An insertion under a new key adds its share. -/
theorem total_insert_new {table : Table Key Value} (absent : table.lookup key = none)
    (value : Value) :
    total share (table.insert key value) = table.total share + share key value := by
  rw [total_insert, total_erase_none share absent]

theorem length_insert_new {table : Table Key Value} (absent : table.lookup key = none)
    (value : Value) : (table.insert key value).entries.length = table.entries.length + 1 := by
  rw [length_eq_total, length_eq_total, total_insert_new _ absent]

theorem length_erase {table : Table Key Value} (present : table.lookup key = some value) :
    table.entries.length = (table.erase key).entries.length + 1 := by
  rw [length_eq_total, length_eq_total, total_erase _ present]

theorem length_erase_le (key : Key) (table : Table Key Value) :
    (table.erase key).entries.length ≤ table.entries.length :=
  (List.kerase_sublist key table.entries).length_le

/-- An insertion replaces an entry or adds one. -/
theorem length_insert_le (key : Key) (value : Value) (table : Table Key Value) :
    (table.insert key value).entries.length ≤ table.entries.length + 1 := by
  rw [AList.entries_insert, List.length_cons]
  exact Nat.succ_le_succ (List.kerase_sublist key table.entries).length_le

theorem length_modify (key : Key) (change : Value → Value) (table : Table Key Value) :
    (table.modify key change).entries.length = table.entries.length := by
  rw [length_eq_total, length_eq_total]
  exact total_modify (fun _ _ => (rfl : (1 : Nat) = 1)) key table

/-- Only one key has a share. -/
theorem total_single {share : Key → Value → Total} {table : Table Key Value}
    (others : ∀ other value, ⟨other, value⟩ ∈ table.entries → other ≠ key → share other value = 0) :
    table.total share = (table.lookup key).elim 0 (share key) := by
  have rest : total share (table.erase key) = 0 := by
    refine total_eq_zero fun other value member => ?_
    refine others other value (mem_entries_erase member) ?_
    rintro rfl
    rw [mem_entries, AList.lookup_erase] at member
    cases member
  cases found : table.lookup key with
  | none => rw [← total_erase_none share found, rest, Option.elim_none]
  | some value => rw [total_erase share found, rest, zero_add, Option.elim_some]

end Table

end InferenceServer.Machine
