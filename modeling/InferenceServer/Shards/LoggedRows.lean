import InferenceServer.Machine.Attempts
import InferenceServer.Shards.EvalShard

/-! The docs of the shards of a task: every shard has the docs at its own positions, so
no doc is in two shards and all shards together have every doc. -/
namespace InferenceServer.Shards
open Machine

variable {docIds : List Int} {index other count : Nat} {doc : Int}

/-- The positions of a shard are those that leave its index as the remainder. -/
theorem position_iff (inside : index < count) (position : Nat) :
    (index ≤ position ∧ (position - index) % count = 0) ↔ position % count = index := by
  constructor
  · rintro ⟨after, aligned⟩
    obtain ⟨steps, same⟩ := Nat.dvd_of_mod_eq_zero aligned
    have here : position = index + count * steps := by omega
    rw [here, Nat.add_mul_mod_self_left, Nat.mod_eq_of_lt inside]
  · rintro rfl
    refine ⟨Nat.mod_le position count, ?_⟩
    exact Nat.sub_mod_eq_zero_of_mod_eq (Nat.mod_mod _ _).symm

theorem mem_shardDocIds (inside : index < count) : doc ∈ shardDocIds docIds index count ↔
      ∃ position, docIds[position]? = some doc ∧ position % count = index := by
  simp only [shardDocIds, List.mem_map, List.mem_filter, decide_eq_true_eq]
  constructor
  · rintro ⟨⟨_, position⟩, ⟨member, here⟩, rfl⟩
    exact ⟨position, List.mem_zipIdx_iff_getElem?.mp member, (position_iff inside position).mp here⟩
  · rintro ⟨position, found, here⟩
    exact ⟨(doc, position), ⟨List.mem_zipIdx_iff_getElem?.mpr found,
      (position_iff inside position).mpr here⟩, rfl⟩

theorem nodup_shardDocIds (distinct : docIds.Nodup) : (shardDocIds docIds index count).Nodup := by
  rw [← List.zipIdx_map_fst 0 docIds] at distinct
  exact distinct.sublist (List.filter_sublist.map Prod.fst)

/-- Every doc is in a shard. -/
theorem mem_docIds_iff (positive : 0 < count) :
    doc ∈ docIds ↔ ∃ index < count, doc ∈ shardDocIds docIds index count := by
  constructor
  · intro member
    obtain ⟨position, found⟩ := List.mem_iff_getElem?.mp member
    have inside := Nat.mod_lt position positive
    exact ⟨position % count, inside, (mem_shardDocIds inside).mpr ⟨position, found, rfl⟩⟩
  · rintro ⟨index, inside, member⟩
    obtain ⟨_, found, _⟩ := (mem_shardDocIds inside).mp member
    exact List.mem_of_getElem? found

/-- No doc is in two shards. -/
theorem disjoint_shardDocIds (distinct : docIds.Nodup) (here : index < count)
    (there : other < count) (different : index ≠ other) :
    (shardDocIds docIds index count).Disjoint (shardDocIds docIds other count) := by
  intro doc first second
  obtain ⟨position, found, same⟩ := (mem_shardDocIds here).mp first
  obtain ⟨again, also, equal⟩ := (mem_shardDocIds there).mp second
  obtain ⟨bound, _⟩ := List.getElem?_eq_some_iff.mp found
  have positions : position = again := by
    refine (List.getElem?_inj bound distinct).mp ?_
    rw [found, also]
  exact different (same.symm.trans (positions ▸ equal))

end InferenceServer.Shards

/-! The rows of a task, filed by filter and doc. Filing fails for a doc of another shard
and for a doc that is logged twice, and for nothing else. -/
namespace InferenceServer.Shards
open Machine

variable {Number : Type} {leaf : String} {shard : Int} {expected docIds : List Int} {count : Nat}
  {logged rows : List (Row Number)} {row : Row Number} {byFilter next : RowsByFilter Number}
  {shardRows : ShardRows Number}

/-- The filter that a row is of. -/
def Row.filterName (row : Row Number) : String := row.filter.getD "none"

/-- The filter and the doc of a row. -/
def Row.key (row : Row Number) : String × Option Int := (row.filterName, row.docId)

def slotOf (byFilter : RowsByFilter Number) (filter : String) : Dict Int (Row Number) :=
  (byFilter.lookup filter).getD .empty

/-- The rows are filed under their filters and docs, and no two have the same. -/
structure Filed (logged : List (Row Number)) (byFilter : RowsByFilter Number) : Prop where
  rows : ∀ filter doc row, (slotOf byFilter filter).lookup doc = some row ↔
    row ∈ logged ∧ row.docId = some doc ∧ row.filterName = filter
  filters : ∀ filter, filter ∈ byFilter.keys ↔ ∃ row ∈ logged, row.filterName = filter
  distinct : (logged.map Row.key).Nodup

theorem Filed.empty : Filed ([] : List (Row Number)) .empty where
  rows _ _ _ := iff_of_false nofun fun now => List.not_mem_nil now.1
  filters _ := iff_of_false List.not_mem_nil fun now => List.not_mem_nil now.choose_spec.1
  distinct := List.nodup_nil

theorem logRow_ok_iff : logRow leaf shard expected byFilter row = .ok next ↔
    ∃ doc ∈ expected, row.docId = some doc ∧ doc ∉ (slotOf byFilter row.filterName).keys ∧
      next = byFilter.set row.filterName ((slotOf byFilter row.filterName).set doc row) := by
  unfold logRow
  cases held : row.docId with
  | none => simp
  | some doc =>
    by_cases own : doc ∈ expected
    · by_cases twice : doc ∈ (slotOf byFilter row.filterName).keys
      · have twice' : doc ∈ ((byFilter.lookup (row.filter.getD "none")).getD .empty).keys := twice
        simp [own, twice, twice']
      · have once : doc ∉ ((byFilter.lookup (row.filter.getD "none")).getD .empty).keys := twice
        simp only [own, ↓reduceIte, once, Except.ok.injEq, Option.some.injEq]
        constructor
        · rintro rfl
          exact ⟨doc, own, rfl, twice, rfl⟩
        · rintro ⟨_, _, rfl, _, rfl⟩
          rfl
    · simp only [own, ↓reduceIte]
      refine iff_of_false (by rintro ⟨⟩) ?_
      rintro ⟨_, here, same, _⟩
      exact own (Option.some.inj same ▸ here)

theorem Filed.logRow (filed : Filed logged byFilter)
    (done : logRow leaf shard expected byFilter row = .ok next) :
    Filed (logged ++ [row]) next ∧ ∃ doc ∈ expected, row.docId = some doc := by
  obtain ⟨doc, own, held, once, rfl⟩ := logRow_ok_iff.mp done
  refine ⟨⟨fun filter other found => ?_, fun filter => ?_, ?_⟩, doc, own, held⟩
  · unfold slotOf
    rw [Dict.lookup_set]
    by_cases here : filter = row.filterName
    · rw [if_pos here, Option.getD_some, Dict.lookup_set]
      by_cases same : other = doc
      · rw [if_pos same, Option.some.injEq]
        constructor
        · rintro rfl
          exact ⟨List.mem_append_right _ List.mem_cons_self, same ▸ held, here.symm⟩
        · rintro ⟨member, also, where_⟩
          rcases List.mem_append.mp member with earlier | last
          · refine absurd (Dict.mem_keys_iff_lookup.mpr ⟨found, ?_⟩) once
            exact (filed.rows _ _ _).mpr ⟨earlier, same ▸ also, where_.trans here⟩
          · exact (List.mem_singleton.mp last).symm
      · rw [if_neg same, here]
        refine (filed.rows row.filterName other found).trans ?_
        constructor
        · rintro ⟨member, rest⟩
          exact ⟨List.mem_append_left _ member, rest⟩
        · rintro ⟨member, also, where_⟩
          refine ⟨(List.mem_append.mp member).resolve_right fun last => ?_, also, where_⟩
          rw [List.mem_singleton.mp last, held] at also
          exact same (Option.some.inj also).symm
    · rw [if_neg here]
      refine (filed.rows filter other found).trans ?_
      constructor
      · rintro ⟨member, rest⟩
        exact ⟨List.mem_append_left _ member, rest⟩
      · rintro ⟨member, also, where_⟩
        refine ⟨(List.mem_append.mp member).resolve_right fun last => ?_, also, where_⟩
        rw [List.mem_singleton.mp last] at where_
        exact here where_.symm
  · rw [Dict.mem_keys_set, filed.filters]
    simp only [List.mem_append, List.mem_singleton, or_and_right, exists_or, exists_eq_left]
    exact or_congr_right eq_comm
  · rw [List.map_append]
    refine filed.distinct.append (List.nodup_singleton _) (List.disjoint_singleton.mpr ?_)
    intro member
    obtain ⟨earlier, there, same⟩ := List.mem_map.mp member
    obtain ⟨where_, also⟩ := Prod.mk.inj same
    exact once (Dict.mem_keys_iff_lookup.mpr
      ⟨earlier, (filed.rows _ _ _).mpr ⟨there, also.trans held, where_⟩⟩)

theorem Filed.accepts {doc : Int} (filed : Filed logged byFilter) (own : doc ∈ expected)
    (held : row.docId = some doc) (new : row.key ∉ logged.map Row.key) :
    ∃ next, Shards.logRow leaf shard expected byFilter row = .ok next := by
  refine ⟨_, logRow_ok_iff.mpr ⟨doc, own, held, fun twice => new ?_, rfl⟩⟩
  obtain ⟨earlier, found⟩ := Dict.mem_keys_iff_lookup.mp twice
  obtain ⟨there, also, where_⟩ := (filed.rows _ _ _).mp found
  exact List.mem_map.mpr ⟨earlier, there, Prod.ext where_ (also.trans held.symm)⟩

/-- The rows of a task in the order in which they are filed. -/
def allRows (shardRows : ShardRows Number) (count : Nat) (leaf : String) : List (Row Number) :=
  (List.range count).flatMap fun (index : Nat) => rowsOf shardRows index leaf

/-- Every row of a shard is of a doc of the shard. -/
def Owned (docIds : List Int) (count : Nat) (shardRows : ShardRows Number) (leaf : String) : Prop :=
  ∀ index < count, ∀ row ∈ rowsOf shardRows index leaf,
    ∃ doc ∈ shardDocIds docIds index count, row.docId = some doc

theorem collectRows_filed (done : collectRows docIds count shardRows leaf = .ok byFilter) :
    Filed (allRows shardRows count leaf) byFilter ∧ Owned docIds count shardRows leaf := by
  have whole := @foldlM_invariant _ _ _ _
    (fun (indices : List Nat) byFilter =>
      Filed (indices.flatMap fun (index : Nat) => rowsOf shardRows index leaf) byFilter ∧
        ∀ index ∈ indices, ∀ row ∈ rowsOf shardRows index leaf,
          ∃ doc ∈ shardDocIds docIds index count, row.docId = some doc) _ _ _ ?_ ?_ done
  · exact ⟨whole.1, fun index inside => whole.2 index (List.mem_range.mpr inside)⟩
  · exact ⟨.empty, nofun⟩
  · intro indices index state next ⟨filed, owned⟩ ran
    have inner := @foldlM_invariant _ _ _ _
      (fun (rows : List (Row Number)) byFilter =>
        Filed ((indices.flatMap fun (index : Nat) => rowsOf shardRows index leaf) ++ rows)
          byFilter ∧
        ∀ row ∈ rows, ∃ doc ∈ shardDocIds docIds index count, row.docId = some doc) _ _ _ ?_ ?_ ran
    · refine ⟨?_, fun other member => ?_⟩
      · rw [List.flatMap_append, List.flatMap_singleton]
        exact inner.1
      · rcases List.mem_append.mp member with earlier | last
        · exact owned other earlier
        · rw [List.mem_singleton.mp last]
          exact inner.2
    · exact ⟨by rwa [List.append_nil], nofun⟩
    · intro rows row state next ⟨filed, owned⟩ ran
      obtain ⟨filed, own⟩ := filed.logRow ran
      refine ⟨by rwa [← List.append_assoc], fun other member => ?_⟩
      rcases List.mem_append.mp member with earlier | last
      · exact owned other earlier
      · rw [List.mem_singleton.mp last]
        exact own

/-- Rows of docs of their shards are filed if no two are of one filter and doc. -/
theorem collectRows_ok (owned : Owned docIds count shardRows leaf)
    (distinct : ((allRows shardRows count leaf).map Row.key).Nodup) :
    ∃ byFilter, collectRows docIds count shardRows leaf = .ok byFilter ∧
      Filed (allRows shardRows count leaf) byFilter := by
  refine @foldlM_ok _ _ _ _ (fun (indices : List Nat) byFilter =>
    Filed (indices.flatMap fun (index : Nat) => rowsOf shardRows index leaf) byFilter) _ _ .empty ?_
  intro indices index after state whole filed
  have inside : index < count := by
    refine List.mem_range.mp (whole ▸ ?_)
    exact List.mem_append_right _ List.mem_cons_self
  have all : allRows shardRows count leaf =
      (indices.flatMap fun (index : Nat) => rowsOf shardRows index leaf) ++
        (rowsOf shardRows index leaf ++
          after.flatMap fun (index : Nat) => rowsOf shardRows index leaf) := by
    rw [allRows, ← whole, List.flatMap_append, List.flatMap_cons]
  obtain ⟨next, ran, filed⟩ := @foldlM_ok _ _ _ (logRow leaf index (shardDocIds docIds index count))
    (fun (rows : List (Row Number)) byFilter =>
      Filed ((indices.flatMap fun (index : Nat) => rowsOf shardRows index leaf) ++ rows) byFilter)
    (rowsOf shardRows index leaf) state (by rwa [List.append_nil]) (by
      intro rows row others state split filed
      obtain ⟨doc, own, held⟩ := owned index inside row
        (split ▸ List.mem_append_right _ List.mem_cons_self)
      have new : row.key ∉
          ((indices.flatMap fun (index : Nat) => rowsOf shardRows index leaf) ++ rows).map
            Row.key := by
        rw [all, ← split, List.append_assoc, List.cons_append, ← List.append_assoc,
          List.map_append, List.map_cons] at distinct
        exact fun member => (List.nodup_append.mp distinct).2.2 _ member _ List.mem_cons_self rfl
      obtain ⟨next, ran⟩ := filed.accepts own held new
      refine ⟨next, ran, ?_⟩
      rw [← List.append_assoc]
      exact (filed.logRow ran).1)
  refine ⟨next, ran, ?_⟩
  rwa [List.flatMap_append, List.flatMap_singleton]

end InferenceServer.Shards
