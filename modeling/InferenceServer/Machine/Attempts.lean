import Mathlib.Data.List.Forall2

/-! Loops in which any step may fail and no result is kept then. -/
namespace InferenceServer.Machine

variable {Input Output : Type} {attempt : Input → Option Output} {inputs : List Input}
  {outputs : List Output}

theorem mapM_eq_some_iff : inputs.mapM attempt = some outputs ↔
    List.Forall₂ (fun input output => attempt input = some output) inputs outputs := by
  induction inputs generalizing outputs with
  | nil => simp [eq_comm]
  | cons input rest ih =>
    rw [List.mapM_cons]
    cases first : attempt input with
    | none =>
      refine iff_of_false nofun fun all => ?_
      cases all with
      | cons here _ => cases first.symm.trans here
    | some output =>
      cases later : rest.mapM attempt with
      | none =>
        refine iff_of_false nofun fun all => ?_
        cases all with
        | cons _ there => cases later.symm.trans (ih.mpr there)
      | some others =>
        constructor
        · intro same
          cases same
          exact .cons first (ih.mp later)
        · intro all
          cases all with
          | cons here there =>
            cases first.symm.trans here
            cases later.symm.trans (ih.mpr there)
            rfl

theorem exists_mem_of_forall₂ {First Second : Type} {related : First → Second → Prop}
    {firsts : List First} {seconds : List Second} {first : First}
    (all : List.Forall₂ related firsts seconds) (member : first ∈ firsts) :
    ∃ second ∈ seconds, related first second := by
  induction all with
  | nil => cases member
  | cons here _ ih =>
    rcases List.mem_cons.mp member with rfl | later
    · exact ⟨_, List.mem_cons_self, here⟩
    · obtain ⟨second, held, made⟩ := ih later
      exact ⟨second, List.mem_cons_of_mem _ held, made⟩

theorem exists_of_mapM {output : Output} (done : inputs.mapM attempt = some outputs)
    (member : output ∈ outputs) : ∃ input ∈ inputs, attempt input = some output :=
  exists_mem_of_forall₂ (mapM_eq_some_iff.mp done).flip member

theorem exists_mem_of_mapM {input : Input} (done : inputs.mapM attempt = some outputs)
    (member : input ∈ inputs) : ∃ output ∈ outputs, attempt input = some output :=
  exists_mem_of_forall₂ (mapM_eq_some_iff.mp done) member

theorem mapM_isSome (each : ∀ input ∈ inputs, ∃ output, attempt input = some output) :
    ∃ outputs, inputs.mapM attempt = some outputs := by
  induction inputs with
  | nil => exact ⟨[], rfl⟩
  | cons input rest ih =>
    obtain ⟨output, here⟩ := each input List.mem_cons_self
    obtain ⟨others, later⟩ := ih fun other member => each other (List.mem_cons_of_mem _ member)
    rw [List.mapM_cons, here, later]
    exact ⟨output :: others, rfl⟩

theorem length_of_mapM (done : inputs.mapM attempt = some outputs) :
    outputs.length = inputs.length :=
  (mapM_eq_some_iff.mp done).length_eq.symm

/-- A loop whose steps all succeed collects their results. -/
theorem mapM_ok {Item Result Error : Type} {attempt : Item → Except Error Result}
    {result : Item → Result} {items : List Item}
    (each : ∀ item ∈ items, attempt item = .ok (result item)) :
    items.mapM attempt = .ok (items.map result) := by
  induction items with
  | nil => rfl
  | cons item rest ih =>
    rw [List.mapM_cons, each item List.mem_cons_self,
      ih fun other member => each other (List.mem_cons_of_mem _ member)]
    rfl

theorem mapM_eq_ok_iff {Item Result Error : Type} {attempt : Item → Except Error Result}
    {items : List Item} {results : List Result} : items.mapM attempt = .ok results ↔
      List.Forall₂ (fun item result => attempt item = .ok result) items results := by
  induction items generalizing results with
  | nil =>
    constructor
    · intro done
      cases done
      exact .nil
    · intro all
      cases all
      rfl
  | cons item rest ih =>
    rw [List.mapM_cons]
    constructor
    · intro done
      cases first : attempt item with
      | error error =>
        rw [first] at done
        cases done
      | ok result =>
        cases later : rest.mapM attempt with
        | error error =>
          rw [first, later] at done
          cases done
        | ok others =>
          rw [first, later] at done
          cases done
          exact .cons first (ih.mp later)
    · intro all
      cases all with
      | cons here there =>
        rw [here, ih.mpr there]
        rfl

/-- What a loop collects, if a step that succeeds has one result. -/
theorem eq_map_of_mapM {Item Result Error : Type} {attempt : Item → Except Error Result}
    {result : Item → Result} {items : List Item} {results : List Result}
    (each : ∀ item made, attempt item = .ok made → made = result item)
    (done : items.mapM attempt = .ok results) : results = items.map result := by
  have all := mapM_eq_ok_iff.mp done
  clear done
  induction all with
  | nil => rfl
  | cons here _ ih => rw [List.map_cons, each _ _ here, ih]

section Loops

variable {Item State Error : Type} {step : State → Item → Except Error State}
  {Holds : List Item → State → Prop} {items : List Item} {start last : State}

/-- What holds of the items done so far and the state holds of all items at the end. -/
theorem foldlM_invariant (initial : Holds [] start)
    (each : ∀ done item state next, Holds done state → step state item = .ok next →
      Holds (done ++ [item]) next)
    (ran : items.foldlM step start = .ok last) : Holds items last := by
  have general : ∀ (rest done : List Item) state, Holds done state →
      rest.foldlM step state = .ok last → Holds (done ++ rest) last := by
    intro rest
    induction rest with
    | nil =>
      intro done state now ran
      cases ran
      rw [List.append_nil]
      exact now
    | cons item rest ih =>
      intro done state now ran
      rw [List.foldlM_cons] at ran
      cases moved : step state item with
      | error error =>
        rw [moved] at ran
        cases ran
      | ok next =>
        rw [moved] at ran
        have whole := ih (done ++ [item]) next (each done item state next now moved) ran
        rwa [List.append_assoc] at whole
  exact general items [] start initial ran

/-- A loop none of whose steps can fail ends. -/
theorem foldlM_ok (initial : Holds [] start)
    (each : ∀ done item rest state, done ++ item :: rest = items → Holds done state →
      ∃ next, step state item = .ok next ∧ Holds (done ++ [item]) next) :
    ∃ last, items.foldlM step start = .ok last ∧ Holds items last := by
  have general : ∀ (rest done : List Item) state, done ++ rest = items → Holds done state →
      ∃ last, rest.foldlM step state = .ok last ∧ Holds items last := by
    intro rest
    induction rest with
    | nil =>
      intro done state whole now
      rw [List.append_nil] at whole
      exact ⟨state, rfl, whole ▸ now⟩
    | cons item rest ih =>
      intro done state whole now
      obtain ⟨next, moved, now⟩ := each done item rest state whole now
      obtain ⟨last, ran, ends⟩ := ih (done ++ [item]) next (by rw [List.append_assoc]; exact whole) now
      refine ⟨last, ?_, ends⟩
      rw [List.foldlM_cons, moved]
      exact ran
  exact general items [] start rfl initial

/-- Every step of a loop that ends has succeeded. -/
theorem exists_step_of_foldlM (ran : items.foldlM step start = .ok last) :
    ∀ item ∈ items, ∃ state next, step state item = .ok next := by
  refine @foldlM_invariant _ _ _ step
    (fun done _ => ∀ item ∈ done, ∃ state next, step state item = .ok next)
    items start last nofun (fun done item state next earlier moved => ?_) ran
  exact List.forall_mem_append.mpr
    ⟨earlier, List.forall_mem_singleton.mpr ⟨state, next, moved⟩⟩

/-- A loop whose steps all succeed is the loop of what they do. -/
theorem foldlM_eq_ok {next : State → Item → State}
    (each : ∀ item ∈ items, ∀ state, step state item = .ok (next state item)) :
    items.foldlM step start = .ok (items.foldl next start) := by
  induction items generalizing start with
  | nil => rfl
  | cons item rest ih =>
    rw [List.foldlM_cons, each item List.mem_cons_self]
    exact ih fun other member => each other (List.mem_cons_of_mem _ member)

/-- A loop over all items of some lists is the loop over each in turn. -/
theorem foldlM_flatMap {Outer : Type} (inner : Outer → List Item) (outers : List Outer)
    (start : State) :
    (outers.flatMap inner).foldlM step start =
      outers.foldlM (fun state outer => (inner outer).foldlM step state) start := by
  induction outers generalizing start with
  | nil => rfl
  | cons outer rest ih =>
    rw [List.flatMap_cons, List.foldlM_append, List.foldlM_cons]
    exact bind_congr fun state => ih state

end Loops

end InferenceServer.Machine
