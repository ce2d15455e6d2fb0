import InferenceServer.Requirements.ScenarioParams

/-! Each gate of a scenario holds at one point, the best at its metric, and all other targets are
those that the points state for themselves. -/
namespace InferenceServer.Requirements
open Machine

variable {Number : Type} [LinearOrder Number] [Zero Number] {scenario : Scenario Number}
  {attr : Attr} {gate : Gate Number} {index : Nat}

section Capability

/-- No reference is better. -/
def NoneBetter (lowerIsBetter : Bool) (ref other : Number) : Prop :=
  if lowerIsBetter then ref ≤ other else other ≤ ref

/-- The point states the best reference for the attribute, or no point states any and this one
is the least loaded. -/
def Capability (scenario : Scenario Number) (attr : Attr) (gate : Gate Number) (index : Nat) :
    Prop :=
  index < scenario.sweep.length ∧
    ((∃ key ref, refKey attr = some key ∧ refAt scenario key index = some ref ∧
        ∀ other found, refAt scenario key other = some found →
          NoneBetter gate.lowerIsBetter ref found) ∨
      ((∀ key, refKey attr = some key → ∀ other, refAt scenario key other = none) ∧
        ∃ point, scenario.sweep[index]? = some point ∧
          ∀ other ∈ scenario.sweep, load point ≤ load other))

omit [Zero Number] in
theorem before_asymm (lowerIsBetter : Bool) (first second : Number)
    (less : Before lowerIsBetter first second) : ¬ Before lowerIsBetter second first := by
  cases lowerIsBetter with
  | false => exact lt_asymm (less : second < first)
  | true => exact lt_asymm (less : first < second)

omit [Zero Number] in
theorem before_incomparable (lowerIsBetter : Bool) (first second third : Number)
    (left : ¬ Before lowerIsBetter first second) (right : ¬ Before lowerIsBetter second third) :
    ¬ Before lowerIsBetter first third := by
  cases lowerIsBetter with
  | false => exact not_lt.mpr ((not_lt.mp left).trans (not_lt.mp right))
  | true => exact not_lt.mpr ((not_lt.mp right).trans (not_lt.mp left))

omit [Zero Number] in
theorem noneBetter_of_not_before {lowerIsBetter : Bool} {ref other : Number}
    (not_ : ¬ Before lowerIsBetter other ref) : NoneBetter lowerIsBetter ref other := by
  cases lowerIsBetter with
  | false => exact not_lt.mp not_
  | true => exact not_lt.mp not_

theorem refAt_lt {key : String} {ref : Number} (stated : refAt scenario key index = some ref) :
    index < scenario.sweep.length := by
  obtain ⟨point, here, -⟩ := Option.bind_eq_some_iff.mp stated
  exact (List.getElem?_eq_some_iff.mp here).1

omit [LinearOrder Number] [Zero Number] in
theorem fallback_spec (some_ : scenario.sweep ≠ []) :
    ∃ point, scenario.sweep[fallback scenario]? = some point ∧
      ∀ other ∈ scenario.sweep, load point ≤ load other := by
  have best := isBest_firstBest (· < ·) (fun index => scenario.sweep[index]?.map load) (fun _ _ => lt_asymm)
    (fun _ _ _ left right => not_lt.mpr ((not_lt.mp right).trans (not_lt.mp left)))
    (List.range scenario.sweep.length)
  unfold fallback
  cases found : firstBest (· < ·) (fun index => scenario.sweep[index]?.map load)
      (List.range scenario.sweep.length) with
  | none =>
    rw [found] at best
    have first := best 0 (List.mem_range.mpr (List.length_pos_iff.mpr some_))
    rw [Option.map_eq_none_iff, List.getElem?_eq_none_iff] at first
    exact absurd (List.length_eq_zero_iff.mp (Nat.le_zero.mp first)) some_
  | some entry =>
    rw [found] at best
    obtain ⟨-, scored, least⟩ := best
    obtain ⟨point, here, is⟩ := Option.map_eq_some_iff.mp scored
    refine ⟨point, here, fun other member => ?_⟩
    obtain ⟨place, bound, rfl⟩ := List.mem_iff_getElem.mp member
    have there : scenario.sweep[place]?.map load = some (load scenario.sweep[place]) := by
      rw [List.getElem?_eq_getElem bound, Option.map_some]
    have ordered := not_lt.mp (least place (List.mem_range.mpr bound) _ there)
    rwa [← is] at ordered

/-- A gate is attached to the point that is best at its metric. -/
theorem attachIndex_capability (some_ : scenario.sweep ≠ []) (attr : Attr) (gate : Gate Number) :
    Capability scenario attr gate (attachIndex scenario attr gate) := by
  have least : (∀ key, refKey attr = some key → ∀ other, refAt scenario key other = none) →
      Capability scenario attr gate (fallback scenario) := by
    intro none_
    obtain ⟨point, here, ordered⟩ := fallback_spec some_
    exact ⟨(List.getElem?_eq_some_iff.mp here).1, .inr ⟨none_, point, here, ordered⟩⟩
  unfold attachIndex bestPoint
  cases keyed : refKey attr with
  | none => exact least fun key same => nomatch keyed.symm.trans same
  | some key =>
    have best := isBest_firstBest _ (refAt scenario key) (before_asymm gate.lowerIsBetter)
      (before_incomparable gate.lowerIsBetter) (List.range scenario.sweep.length)
    rw [Option.bind_some]
    cases found : firstBest (Before gate.lowerIsBetter) (refAt scenario key)
        (List.range scenario.sweep.length) with
    | none =>
      rw [found] at best
      refine least fun other same place => ?_
      obtain rfl := Option.some.inj (keyed.symm.trans same)
      cases stated : refAt scenario key place with
      | none => rfl
      | some ref =>
        exact (best place (List.mem_range.mpr (refAt_lt stated))).symm.trans stated |>.symm
    | some entry =>
      rw [found] at best
      obtain ⟨-, stated, least⟩ := best
      refine ⟨refAt_lt stated, .inl ⟨key, entry.2, keyed, stated, fun other ref has => ?_⟩⟩
      exact noneBetter_of_not_before (least other (List.mem_range.mpr (refAt_lt has)) ref has)

end Capability

section Attached

def attachedAt (attach : Attach Number) (index : Nat) (attr : Attr) : Option (Number × Priority) :=
  (attach.lookup index).bind (·.lookup attr)

theorem attachedAt_attachGate (attach : Attach Number) (entry : Attr × Gate Number) (index : Nat)
    (attr : Attr) :
    attachedAt (attachGate scenario attach entry) index attr =
      if index = attachIndex scenario entry.1 entry.2 ∧ attr = entry.1 then
        some (entry.2.value, entry.2.priority)
      else attachedAt attach index attr := by
  unfold attachedAt attachGate
  dsimp only
  rw [Dict.lookup_set]
  by_cases here : index = attachIndex scenario entry.1 entry.2
  · rw [if_pos here, Option.bind_some, Dict.lookup_set, ← here]
    by_cases same : attr = entry.1
    · rw [if_pos same, if_pos ⟨rfl, same⟩]
    · rw [if_neg same, if_neg fun both => same both.2]
      cases attach.lookup index <;> rfl
  · rw [if_neg here, if_neg fun both => here both.1]

/-- A gate stays where it was attached. -/
theorem attachedAt_foldl (entries : List (Attr × Gate Number))
    (distinct : (entries.map Prod.fst).Nodup) (index : Nat) (attr : Attr) :
    attachedAt (entries.foldl (attachGate scenario) Dict.empty) index attr =
      (entries.lookup attr).bind fun gate =>
        if index = attachIndex scenario attr gate then some (gate.value, gate.priority)
        else none := by
  induction entries using List.reverseRecOn with
  | nil => rfl
  | append_singleton entries entry ih =>
    rw [List.map_append, List.nodup_append] at distinct
    rw [List.foldl_append, List.foldl_cons, List.foldl_nil, attachedAt_attachGate,
      List.lookup_append, ih distinct.1]
    by_cases same : attr = entry.1
    · have absent : entries.lookup attr = none := by
        refine List.lookup_eq_none_iff.mpr fun other member => bne_iff_ne.mpr fun equal => ?_
        exact distinct.2.2 other.1 (List.mem_map_of_mem member) entry.1
          (List.mem_singleton_self _) (equal.symm.trans same)
      rw [absent, Option.none_or, List.lookup_cons, beq_iff_eq.mpr same, Option.bind_none]
      dsimp only
      rw [Option.bind_some, same]
      simp
    · rw [if_neg fun both => same both.2, List.lookup_cons, beq_eq_false_iff_ne.mpr same]
      dsimp only
      rw [List.lookup_nil, Option.or_none]

theorem attachedAt_points (gates : Dict Attr (Gate Number)) (index : Nat) (attr : Attr) :
    attachedAt (capabilityAttachPoints scenario gates) index attr =
      (gates.lookup attr).bind fun gate =>
        if index = attachIndex scenario attr gate then some (gate.value, gate.priority)
        else none :=
  attachedAt_foldl gates.entries gates.distinct index attr

end Attached

section Gates

omit [LinearOrder Number] [Zero Number] in
theorem sloGates_lower {slo : Slo Number} (member : (attr, gate) ∈ sloGates slo) :
    gate.lowerIsBetter = true ∧ (attr = .ttftMs ∨ attr = .tpotMs ∨ attr = .e2elMs) := by
  obtain ⟨bar, there, made⟩ := List.mem_filterMap.mp member
  obtain ⟨value, -, same⟩ := Option.map_eq_some_iff.mp made
  cases same
  refine ⟨rfl, ?_⟩
  simp only [List.mem_cons, List.not_mem_nil, or_false] at there
  rcases there with rfl | rfl | rfl
  · exact .inl rfl
  · exact .inr (.inl rfl)
  · exact .inr (.inr rfl)

omit [LinearOrder Number] [Zero Number] in
theorem scalarGates_higher {targets : List (ScalarTarget Number)}
    (member : (attr, gate) ∈ scalarGates targets) :
    gate.lowerIsBetter = false ∧ (attr = .tputTotal ∨ attr = .goodput) := by
  obtain ⟨st, -, made⟩ := List.mem_filterMap.mp member
  obtain ⟨found, supported, same⟩ := Option.map_eq_some_iff.mp made
  cases same
  refine ⟨rfl, ?_⟩
  unfold scalarMetricAttr at supported
  split at supported <;> cases supported
  · exact .inl rfl
  · exact .inr rfl

omit [LinearOrder Number] [Zero Number] in
/-- Which way is better is a matter of the attribute. -/
theorem lower_of_stated {first second : Gate Number} (left : (attr, first) ∈ statedGates scenario)
    (right : (attr, second) ∈ statedGates scenario) :
    first.lowerIsBetter = second.lowerIsBetter := by
  unfold statedGates at left right
  cases slo : scenario.slo with
  | none =>
    rw [slo] at left right
    exact (scalarGates_higher left).1.trans (scalarGates_higher right).1.symm
  | some slo' =>
    rw [slo] at left right
    rcases List.mem_append.mp left with bar | target <;>
      rcases List.mem_append.mp right with bar' | target'
    · exact (sloGates_lower bar).1.trans (sloGates_lower bar').1.symm
    · rcases (sloGates_lower bar).2 with rfl | rfl | rfl <;>
        rcases (scalarGates_higher target').2 with same | same <;> cases same
    · rcases (sloGates_lower bar').2 with rfl | rfl | rfl <;>
        rcases (scalarGates_higher target).2 with same | same <;> cases same
    · exact (scalarGates_higher target).1.trans (scalarGates_higher target').1.symm

/-- The gates of the scenario hold at one point each. -/
def GatesAttached (scenario : Scenario Number) (attach : Attach Number) : Prop :=
  ∀ attr gate, (attr, gate) ∈ statedGates scenario → ∃ index,
    Capability scenario attr gate index ∧
    attachedAt attach index attr = some (gate.value, gate.priority) ∧
    ∀ other, other ≠ index → attachedAt attach other attr = none

/-- No two gates of one metric differ. -/
def GatesAgree (scenario : Scenario Number) : Prop :=
  ∀ attr first second, (attr, first) ∈ statedGates scenario →
    (attr, second) ∈ statedGates scenario →
    first.value = second.value ∧ first.priority = second.priority

theorem gatesAttached_iff :
    GatesAttached scenario (capabilityAttachPoints scenario (scenarioLevelGates scenario)) ↔
      (scenario.sweep = [] → statedGates scenario = []) ∧ GatesAgree scenario := by
  constructor
  · intro attached
    constructor
    · intro none_
      refine List.eq_nil_iff_forall_not_mem.mpr fun entry member => ?_
      obtain ⟨index, ⟨bound, -⟩, -⟩ := attached entry.1 entry.2 member
      rw [none_] at bound
      exact absurd bound (Nat.not_lt_zero index)
    · intro attr first second left right
      obtain ⟨index, -, here, -⟩ := attached attr first left
      obtain ⟨place, -, there, others⟩ := attached attr second right
      by_cases same : index = place
      · rw [same, there] at here
        injection here with here
        exact ⟨(congrArg Prod.fst here).symm, (congrArg Prod.snd here).symm⟩
      · rw [others index same] at here
        cases here
  · rintro ⟨points, agree⟩ attr gate member
    have some_ : scenario.sweep ≠ [] := fun none_ => by
      rw [points none_] at member
      cases member
    obtain ⟨last, held⟩ := Dict.mem_keys_iff_lookup.mp
      (Dict.mem_keys_ofList.mpr ⟨(attr, gate), member, rfl⟩)
    have stated : (attr, last) ∈ statedGates scenario :=
      Dict.mem_of_mem_ofList (Dict.mem_entries_iff.mpr held)
    have found : (scenarioLevelGates scenario).lookup attr = some last := held
    obtain ⟨value, priority⟩ := agree attr gate last member stated
    have lower := lower_of_stated member stated
    have capable := attachIndex_capability some_ attr last
    refine ⟨attachIndex scenario attr last, ?_, ?_, fun other different => ?_⟩
    · unfold Capability at capable ⊢
      rwa [lower]
    · rw [attachedAt_points, found, Option.bind_some, if_pos rfl, value, priority]
    · rw [attachedAt_points, found, Option.bind_some, if_neg different]

end Gates

section Points

variable [Sub Number] [Mul Number] [IntCast Number] {point : SweepPoint Number}

theorem fst_filterMap_sublist {Entry Value : Type} (value : Entry → Option Value)
    (key : Entry → Attr) (entries : List Entry) :
    ((entries.filterMap fun entry => (value entry).map fun found => (key entry, found)).map
      Prod.fst).Sublist (entries.map key) := by
  induction entries with
  | nil => exact .slnil
  | cons entry rest ih =>
    rw [List.filterMap_cons]
    cases value entry with
    | none => exact ih.cons _
    | some found => exact ih.cons_cons _

theorem ownTargets_distinct (scenario : Scenario Number) (point : SweepPoint Number) :
    ((ownTargets scenario point).map Prod.fst).Nodup := by
  have attrs : (referenceKeys.map Prod.snd).Nodup := by decide
  unfold ownTargets
  have shape : (referenceKeys.filterMap fun entry =>
      (referenceValue point entry.1).map fun value =>
        (entry.2, value, if entry.1 ∈ scenario.softMetrics then Priority.should else .must)) =
      referenceKeys.filterMap fun entry =>
        ((referenceValue point entry.1).map fun value =>
          (value, if entry.1 ∈ scenario.softMetrics then Priority.should else .must)).map
          fun found => (entry.2, found) := by
    refine List.filterMap_congr fun entry _ => ?_
    rw [Option.map_map]
    rfl
  rw [shape]
  exact attrs.sublist (fst_filterMap_sublist _ _ _)

theorem lookup_map_snd {Value Kept : Type} (kept : Value → Kept) (entries : List (Attr × Value))
    (attr : Attr) :
    (entries.map fun entry => (entry.1, kept entry.2)).lookup attr =
      (entries.lookup attr).map kept := by
  induction entries with
  | nil => rfl
  | cons entry rest ih =>
    rw [List.map_cons, List.lookup_cons, List.lookup_cons]
    split
    · rfl
    · exact ih

/-- A point is gated by what is attached to it, and else by what it states for itself. -/
theorem lookup_pointTargets {Kept : Type} (kept : Number × Priority → Kept)
    (attached : Dict Attr (Number × Priority)) (attr : Attr) :
    (pointTargets kept scenario attached point).lookup attr =
      ((attached.lookup attr).or ((ownTargets scenario point).lookup attr)).map kept := by
  have keys : ((ownTargets scenario point).map fun target => (target.1, kept target.2)).map
      Prod.fst = (ownTargets scenario point).map Prod.fst := by
    rw [List.map_map]
    rfl
  have attachedKeys : (attached.entries.map fun target => (target.1, kept target.2)).map Prod.fst =
      attached.entries.map Prod.fst := by
    rw [List.map_map]
    rfl
  rw [pointTargets, Dict.lookup_update (attachedKeys ▸ attached.distinct), Dict.ofList,
    Dict.lookup_update (keys ▸ ownTargets_distinct scenario point), Dict.lookup_empty,
    Option.or_none, lookup_map_snd, lookup_map_snd, Option.map_or]
  rfl

theorem lookup_orNone {Value : Type} (dict : Dict Attr Value) (attr : Attr) :
    (orNone dict).bind (·.lookup attr) = dict.lookup attr := by
  unfold orNone
  split
  · rename_i none_
    have empty : dict.entries = [] := List.isEmpty_iff.mp none_
    rw [Dict.lookup, empty]
    rfl
  · rfl

/-- The target of a metric and its priority. -/
def Targets (params : BenchmarkTaskParams Number) (attr : Attr)
    (target : Option (Number × Priority)) : Prop :=
  params.targets.bind (·.lookup attr) = target.map Prod.fst ∧
    params.targetPriorities.bind (·.lookup attr) = target.map Prod.snd

/-- The points of a scenario, each with its own targets but for what is attached to it. -/
theorem scenarioParams_targets (superCluster : Bool) (modelMaxConcurrency : Option Int)
    (here : scenario.sweep[index]? = some point) :
    ∃ params, (scenarioParams scenario superCluster modelMaxConcurrency)[index]? = some params ∧
      params.isl = point.isl ∧ params.osl = point.osl ∧ params.maxConcurrency = point.concurrency ∧
      ∀ attr, Targets params attr
        ((attachedAt (capabilityAttachPoints scenario (scenarioLevelGates scenario)) index
          attr).or ((ownTargets scenario point).lookup attr)) := by
  have some_ : scenario.sweep.isEmpty = false := by
    cases sweep : scenario.sweep with
    | nil => rw [sweep] at here; cases here
    | cons => rfl
  refine ⟨pointParams scenario (minNumPrompts superCluster modelMaxConcurrency)
    (capabilityAttachPoints scenario (scenarioLevelGates scenario)) index point, ?_, rfl, rfl, rfl,
    fun attr => ?_⟩
  · rw [scenarioParams, some_, if_neg Bool.false_ne_true, List.getElem?_mapIdx, here]
    rfl
  · have attached : ∀ attach : Attach Number,
        ((attach.lookup index).getD Dict.empty).lookup attr = attachedAt attach index attr := by
      intro attach
      unfold attachedAt
      cases attach.lookup index <;> rfl
    unfold Targets pointParams
    dsimp only
    rw [lookup_orNone, lookup_orNone, lookup_pointTargets, lookup_pointTargets, attached]
    exact ⟨rfl, rfl⟩

end Points

end InferenceServer.Requirements
