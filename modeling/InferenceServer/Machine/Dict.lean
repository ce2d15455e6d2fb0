import Mathlib.Data.List.Induction
import Mathlib.Data.List.Nodup
import Mathlib.Data.List.Perm.Subperm

/-! Dictionaries that keep their keys in the order in which they came. A key that
is set again keeps its place, so a loop that files its entries under keys loses
one for every key that comes twice. -/
namespace InferenceServer.Machine

structure Dict (Key Value : Type) where
  entries : List (Key × Value)
  distinct : (entries.map Prod.fst).Nodup

namespace Dict

variable {Key Value : Type}
variable {dict : Dict Key Value} {entry : Key × Value} {key other : Key} {value : Value}
  {entries more : List (Key × Value)}

def empty : Dict Key Value := ⟨[], List.nodup_nil⟩

def keys (dict : Dict Key Value) : List Key := dict.entries.map Prod.fst

def values (dict : Dict Key Value) : List Value := dict.entries.map Prod.snd

def length (dict : Dict Key Value) : Nat := dict.entries.length

def filter (kept : Key × Value → Bool) (dict : Dict Key Value) : Dict Key Value where
  entries := dict.entries.filter kept
  distinct := dict.distinct.sublist (List.filter_sublist.map Prod.fst)

theorem mem_filter {kept : Key × Value → Bool} :
    entry ∈ (dict.filter kept).entries ↔ entry ∈ dict.entries ∧ kept entry :=
  List.mem_filter

theorem mem_keys : key ∈ dict.keys ↔ ∃ entry ∈ dict.entries, entry.1 = key :=
  List.mem_map

theorem length_eq (dict : Dict Key Value) : dict.length = dict.keys.length :=
  (List.length_map _).symm

variable [DecidableEq Key]

/-- The entries with another value under one key. -/
def replace (key : Key) (value : Value) (entries : List (Key × Value)) : List (Key × Value) :=
  entries.map fun entry => if entry.1 = key then (key, value) else entry

theorem keys_replace (key : Key) (value : Value) (entries : List (Key × Value)) :
    (replace key value entries).map Prod.fst = entries.map Prod.fst := by
  rw [replace, List.map_map]
  refine List.map_congr_left fun entry _ => ?_
  dsimp only [Function.comp_apply]
  split
  · rename_i same
    exact same.symm
  · rfl

/-- `dict[key] = value`. -/
def set (dict : Dict Key Value) (key : Key) (value : Value) : Dict Key Value :=
  if present : key ∈ dict.keys then
    ⟨replace key value dict.entries, by rw [keys_replace]; exact dict.distinct⟩
  else
    ⟨dict.entries ++ [(key, value)], by
      rw [List.map_append]
      exact dict.distinct.append (List.nodup_singleton key)
        (List.disjoint_singleton.mpr present)⟩

theorem keys_set (dict : Dict Key Value) (key : Key) (value : Value) :
    (dict.set key value).keys = if key ∈ dict.keys then dict.keys else dict.keys ++ [key] := by
  unfold set
  split
  · exact keys_replace key value dict.entries
  · exact List.map_append

theorem mem_keys_set : other ∈ (dict.set key value).keys ↔ other ∈ dict.keys ∨ other = key := by
  rw [keys_set]
  split
  · rename_i present
    constructor
    · exact .inl
    · rintro (held | rfl)
      · exact held
      · exact present
  · rw [List.mem_append, List.mem_singleton]

theorem mem_entries_set (member : entry ∈ (dict.set key value).entries) :
    entry ∈ dict.entries ∨ entry = (key, value) := by
  unfold set at member
  split at member
  · obtain ⟨old, held, same⟩ := List.mem_map.mp member
    split at same
    · exact .inr same.symm
    · exact .inl (same ▸ held)
  · rcases List.mem_append.mp member with held | new
    · exact .inl held
    · exact .inr (List.mem_singleton.mp new)

/-- `dict.get(key)`. -/
def lookup (dict : Dict Key Value) (key : Key) : Option Value := dict.entries.lookup key

theorem lookup_empty (key : Key) : (empty : Dict Key Value).lookup key = none := rfl

theorem lookup_replace_ne (different : other ≠ key) (value : Value) (entries : List (Key × Value)) :
    (replace key value entries).lookup other = entries.lookup other := by
  induction entries with
  | nil => rfl
  | cons entry rest ih =>
    rw [replace, List.map_cons, ← replace, List.lookup_cons, ih]
    split_ifs with same
    · rw [List.lookup_cons, same, beq_eq_false_iff_ne.mpr different]
    · rw [List.lookup_cons]

theorem lookup_replace_self (value : Value) (present : key ∈ entries.map Prod.fst) :
    (replace key value entries).lookup key = some value := by
  induction entries with
  | nil => cases present
  | cons entry rest ih =>
    rw [replace, List.map_cons, ← replace, List.lookup_cons]
    split_ifs with same
    · rw [BEq.rfl]
    · rw [beq_eq_false_iff_ne.mpr (Ne.symm same)]
      exact ih ((List.mem_cons.mp present).resolve_left (Ne.symm same))

theorem lookup_eq_none_iff : dict.lookup key = none ↔ key ∉ dict.keys := by
  rw [lookup, List.lookup_eq_none_iff, mem_keys]
  push Not
  simp only [bne_iff_ne]
  exact forall₂_congr fun _ _ => ne_comm

theorem lookup_set (dict : Dict Key Value) (key : Key) (value : Value) (other : Key) :
    (dict.set key value).lookup other = if other = key then some value else dict.lookup other := by
  unfold set
  split
  · rename_i present
    split
    · rename_i same
      rw [same]
      exact lookup_replace_self value present
    · rename_i different
      exact lookup_replace_ne different value dict.entries
  · rename_i absent
    have none_ : dict.entries.lookup key = none := lookup_eq_none_iff.mpr absent
    show (dict.entries ++ [(key, value)]).lookup other = _
    rw [List.lookup_append]
    split
    · rename_i same
      rw [same, none_, Option.none_or, List.lookup_cons, BEq.rfl]
    · rename_i different
      rw [List.lookup_cons, beq_eq_false_iff_ne.mpr different, List.lookup_nil, Option.or_none,
        lookup]

theorem mem_keys_iff_lookup : key ∈ dict.keys ↔ ∃ value, dict.lookup key = some value := by
  rw [← Option.isSome_iff_exists, ← Option.ne_none_iff_isSome, ne_eq, lookup_eq_none_iff, not_not]

/-- `dict.update(more)`, entry by entry. -/
def update (dict : Dict Key Value) (more : List (Key × Value)) : Dict Key Value :=
  more.foldl (fun dict entry => dict.set entry.1 entry.2) dict

/-- The dictionary that a loop makes of its entries. -/
def ofList (entries : List (Key × Value)) : Dict Key Value := empty.update entries

/-- `dict.setdefault(key, value)`. -/
def setDefault (dict : Dict Key Value) (key : Key) (value : Value) : Dict Key Value :=
  if key ∈ dict.keys then dict else dict.set key value

theorem mem_keys_update :
    key ∈ (dict.update more).keys ↔ key ∈ dict.keys ∨ ∃ entry ∈ more, entry.1 = key := by
  induction more generalizing dict with
  | nil => simp [update]
  | cons entry rest ih =>
    rw [update, List.foldl_cons]
    refine ih.trans ?_
    rw [mem_keys_set, List.exists_mem_cons_iff, or_assoc]
    exact or_congr_right (or_congr_left eq_comm)

theorem mem_entries_update (member : entry ∈ (dict.update more).entries) :
    entry ∈ dict.entries ∨ entry ∈ more := by
  induction more generalizing dict with
  | nil => exact .inl member
  | cons first rest ih =>
    rcases @ih (dict.set first.1 first.2) member with held | later
    · refine (mem_entries_set held).imp_right fun same => ?_
      rw [same]
      exact List.mem_cons_self
    · exact .inr (List.mem_cons_of_mem _ later)

theorem mem_keys_ofList : key ∈ (ofList entries).keys ↔ ∃ entry ∈ entries, entry.1 = key := by
  rw [ofList, mem_keys_update]
  exact or_iff_right (List.not_mem_nil)

theorem mem_of_mem_ofList (member : entry ∈ (ofList entries).entries) : entry ∈ entries :=
  (mem_entries_update member).resolve_left List.not_mem_nil

theorem lookup_update_of_not_mem (absent : key ∉ more.map Prod.fst) :
    (dict.update more).lookup key = dict.lookup key := by
  induction more generalizing dict with
  | nil => rfl
  | cons entry rest ih =>
    rw [List.map_cons, List.mem_cons, not_or] at absent
    exact (ih absent.2).trans ((lookup_set ..).trans (if_neg absent.1))

/-- An entry is found again if its key comes once. -/
theorem lookup_update_of_mem (once : (more.map Prod.fst).Nodup) (member : (key, value) ∈ more) :
    (dict.update more).lookup key = some value := by
  induction more generalizing dict with
  | nil => cases member
  | cons entry rest ih =>
    rw [List.map_cons, List.nodup_cons] at once
    rcases List.mem_cons.mp member with rfl | later
    · exact (lookup_update_of_not_mem once.1).trans ((lookup_set ..).trans (if_pos rfl))
    · exact ih once.2 later

/-- Entries with keys that come once take the place of what was there. -/
theorem lookup_update (once : (more.map Prod.fst).Nodup) (key : Key) :
    (dict.update more).lookup key = (more.lookup key).or (dict.lookup key) := by
  cases held : more.lookup key with
  | none =>
    refine lookup_update_of_not_mem fun member => ?_
    obtain ⟨entry, there, rfl⟩ := List.mem_map.mp member
    exact absurd rfl (bne_iff_ne.mp (List.lookup_eq_none_iff.mp held entry there))
  | some value =>
    obtain ⟨before, after, same, -⟩ := List.lookup_eq_some_iff.mp held
    rw [Option.some_or]
    exact lookup_update_of_mem once (same ▸ List.mem_append_right _ List.mem_cons_self)

/-- Of several values under a key the last one is kept. -/
theorem lookup_ofList (entries : List (Key × Value)) (key : Key) :
    (ofList entries).lookup key = entries.reverse.lookup key := by
  induction entries using List.reverseRecOn with
  | nil => rfl
  | append_singleton entries last ih =>
    have step : ofList (entries ++ [last]) = (ofList entries).set last.1 last.2 := by
      unfold ofList update
      rw [List.foldl_append]
      rfl
    rw [step, lookup_set, List.reverse_append, List.reverse_singleton, List.singleton_append,
      List.lookup_cons, ih]
    by_cases same : key = last.1
    · rw [if_pos same, beq_iff_eq.mpr same]
    · rw [if_neg same, beq_false_of_ne same]

/-- An entry is found again if all entries of its key have its value. -/
theorem lookup_update_of_agree (member : (key, value) ∈ more)
    (agree : ∀ other, (key, other) ∈ more → other = value) :
    (dict.update more).lookup key = some value := by
  induction more generalizing dict with
  | nil => cases member
  | cons entry rest ih =>
    by_cases again : ∃ other, (key, other) ∈ rest
    · obtain ⟨other, later⟩ := again
      have same := agree other (List.mem_cons_of_mem _ later)
      exact ih (same ▸ later) fun more there => agree more (List.mem_cons_of_mem _ there)
    · have absent : key ∉ rest.map Prod.fst := by
        rintro there
        obtain ⟨entry, later, rfl⟩ := List.mem_map.mp there
        exact again ⟨entry.2, later⟩
      refine (lookup_update_of_not_mem absent).trans ?_
      rcases List.mem_cons.mp member with rfl | later
      · exact (lookup_set ..).trans (if_pos rfl)
      · exact absurd ⟨value, later⟩ again

theorem mem_entries_iff : (key, value) ∈ dict.entries ↔ dict.lookup key = some value := by
  constructor
  · have whole : ∀ entries : List (Key × Value), (entries.map Prod.fst).Nodup →
        (key, value) ∈ entries → entries.lookup key = some value := by
      intro entries once member
      induction entries with
      | nil => cases member
      | cons entry rest ih =>
        rw [List.map_cons, List.nodup_cons] at once
        rcases List.mem_cons.mp member with rfl | later
        · rw [List.lookup_cons, BEq.rfl]
        · rw [List.lookup_cons, beq_eq_false_iff_ne.mpr]
          · exact ih once.2 later
          · rintro rfl
            exact once.1 (List.mem_map.mpr ⟨_, later, rfl⟩)
    exact whole dict.entries dict.distinct
  · intro found
    obtain ⟨before, after, same, _⟩ := List.lookup_eq_some_iff.mp found
    rw [same]
    exact List.mem_append_right _ List.mem_cons_self

/-- Dictionaries are equal if they have the same entries, in any order. -/
def same [DecidableEq Value] (first second : Dict Key Value) : Bool :=
  first.length = second.length ∧
    ∀ entry ∈ first.entries, second.lookup entry.1 = some entry.2

theorem ofList_eq_nil_iff : (ofList entries).entries = [] ↔ entries = [] := by
  constructor
  · intro empty
    refine List.eq_nil_iff_forall_not_mem.mpr fun entry member => ?_
    obtain ⟨_, filed, _⟩ := mem_keys.mp (mem_keys_ofList.mpr ⟨entry, member, rfl⟩)
    rw [empty] at filed
    cases filed
  · rintro rfl
    rfl

/-- `dict.update(other)` of what another loop made of its entries. -/
theorem mem_keys_update_ofList : key ∈ (dict.update (ofList entries).entries).keys ↔
      key ∈ dict.keys ∨ ∃ entry ∈ entries, entry.1 = key := by
  rw [mem_keys_update, ← mem_keys, mem_keys_ofList]

theorem length_set (dict : Dict Key Value) (key : Key) (value : Value) :
    (dict.set key value).length = dict.length + if key ∈ dict.keys then 0 else 1 := by
  rw [length_eq, keys_set, length_eq]
  split
  · rfl
  · exact List.length_append

theorem length_update_le (dict : Dict Key Value) (more : List (Key × Value)) :
    (dict.update more).length ≤ dict.length + more.length := by
  induction more generalizing dict with
  | nil => exact Nat.le_refl _
  | cons entry rest ih =>
    have later := ih (dict.set entry.1 entry.2)
    rw [length_set] at later
    refine Nat.le_trans later ?_
    rw [List.length_cons]
    split <;> omega

/-- No entry is lost exactly if no key comes twice. -/
theorem length_update_eq_iff (dict : Dict Key Value) (more : List (Key × Value)) :
    (dict.update more).length = dict.length + more.length ↔
      (dict.keys ++ more.map Prod.fst).Nodup := by
  induction more generalizing dict with
  | nil => exact iff_of_true rfl ((List.append_nil dict.keys).symm ▸ dict.distinct)
  | cons entry rest ih =>
    have later := ih (dict.set entry.1 entry.2)
    rw [length_set, keys_set] at later
    by_cases present : entry.1 ∈ dict.keys
    · have fewer := length_update_le (dict.set entry.1 entry.2) rest
      rw [length_set, if_pos present] at fewer
      have twice : ¬ (dict.keys ++ (entry :: rest).map Prod.fst).Nodup := fun nodup =>
        (List.nodup_append.mp nodup).2.2 entry.1 present entry.1 (by simp) rfl
      refine iff_of_false (fun same => ?_) twice
      have same : ((dict.set entry.1 entry.2).update rest).length = _ := same
      rw [List.length_cons] at same
      omega
    · rw [if_neg present, if_neg present] at later
      rw [List.map_cons, List.append_cons, ← later, List.length_cons]
      exact Eq.congr_right (by omega)

theorem length_ofList_eq_iff (entries : List (Key × Value)) :
    (ofList entries).length = entries.length ↔ (entries.map Prod.fst).Nodup := by
  have whole := length_update_eq_iff (empty : Dict Key Value) entries
  rw [show (empty : Dict Key Value).length = 0 from rfl, Nat.zero_add] at whole
  exact whole

theorem mem_keys_setDefault :
    other ∈ (dict.setDefault key value).keys ↔ other ∈ dict.keys ∨ other = key := by
  unfold setDefault
  split
  · rename_i present
    constructor
    · exact .inl
    · rintro (held | rfl)
      · exact held
      · exact present
  · exact mem_keys_set

theorem mem_keys_foldl_setDefault {Item : Type} {name : Item → Key} {value : Item → Value}
    {items : List Item} :
    key ∈ (items.foldl (fun dict item => dict.setDefault (name item) (value item)) dict).keys ↔
      key ∈ dict.keys ∨ ∃ item ∈ items, name item = key := by
  induction items generalizing dict with
  | nil => simp
  | cons item rest ih =>
    rw [List.foldl_cons, ih, mem_keys_setDefault, List.exists_mem_cons_iff, or_assoc]
    exact or_congr_right (or_congr_left eq_comm)

theorem lookup_setDefault (dict : Dict Key Value) (key : Key) (value : Value) (other : Key) :
    (dict.setDefault key value).lookup other =
      if other = key then some ((dict.lookup key).getD value) else dict.lookup other := by
  unfold setDefault
  split
  · rename_i present
    obtain ⟨held, found⟩ := mem_keys_iff_lookup.mp present
    split
    · rename_i same
      rw [same, found, Option.getD_some]
    · rfl
  · rename_i absent
    rw [lookup_set, lookup_eq_none_iff.mpr absent, Option.getD_none]

section FileFirst

variable {Item : Type} (key : Item → Key) (value : Item → Option Value)

/-- A loop that files what its items have under their keys; the first under a key stays. -/
def fileFirst (items : List Item) : Dict Key Value :=
  items.foldl (fun dict item =>
    match value item with
    | none => dict
    | some found => dict.setDefault (key item) found) empty

/-- The first item of a key that has anything. -/
theorem lookup_fileFirst (items : List Item) (asked : Key) :
    (fileFirst key value items).lookup asked =
      items.findSome? fun item => if key item = asked then value item else none := by
  induction items using List.reverseRecOn with
  | nil => rfl
  | append_singleton items item ih =>
    have step : fileFirst key value (items ++ [item]) =
        match value item with
        | none => fileFirst key value items
        | some found => (fileFirst key value items).setDefault (key item) found := by
      rw [fileFirst, List.foldl_append]
      rfl
    rw [step, List.findSome?_append, ← ih, List.findSome?_singleton]
    cases value item with
    | none => rw [ite_self, Option.or_none]
    | some found =>
      dsimp only
      rw [lookup_setDefault]
      by_cases same : asked = key item
      · rw [if_pos same, if_pos same.symm, same]
        cases (fileFirst key value items).lookup (key item) <;> rfl
      · rw [if_neg same, if_neg (Ne.symm same), Option.or_none]

/-- Which keys come, and in what order, is a matter of which items have anything. -/
theorem keys_fileFirst_congr {Other : Type} {value : Item → Option Value}
    {other : Item → Option Other} (same : ∀ item, (value item).isSome = (other item).isSome)
    (items : List Item) : (fileFirst key value items).keys = (fileFirst key other items).keys := by
  have keys : ∀ {Held : Type} (dict : Dict Key Held) (asked : Key) (found : Held),
      (dict.setDefault asked found).keys =
        if asked ∈ dict.keys then dict.keys else dict.keys ++ [asked] := by
    intro Held dict asked found
    unfold setDefault
    split
    · rfl
    · rename_i absent
      rw [keys_set, if_neg absent]
  induction items using List.reverseRecOn with
  | nil => rfl
  | append_singleton items item ih =>
    have agree := same item
    rw [fileFirst, fileFirst, List.foldl_append, List.foldl_append, List.foldl_cons,
      List.foldl_cons, List.foldl_nil, List.foldl_nil]
    cases here : value item with
    | none =>
      rw [here] at agree
      have none_ : other item = none :=
        Option.not_isSome_iff_eq_none.mp (agree ▸ Bool.false_ne_true)
      rw [none_]
      exact ih
    | some found =>
      rw [here] at agree
      obtain ⟨there, is⟩ := Option.isSome_iff_exists.mp agree.symm
      rw [is]
      dsimp only
      rw [keys, keys]
      exact ih ▸ rfl

end FileFirst

end Dict
end InferenceServer.Machine
