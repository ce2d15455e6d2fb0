import InferenceServer.Shards.MergedLeaves

/-! What the shards of a run log: every shard the rows of its own docs, in any order. All
shards together then log the rows of the whole task. -/
namespace InferenceServer.Shards
open Machine

variable {Number : Type} {plan : Plan} {leaf : String} {info : LeafInfo} {index count : Nat}
  {samples : Dict String (List Int)}

/-- One row with numbers for every task, filter and doc. -/
structure Choice (Number : Type) (plan : Plan) where
  filters : String → List String
  row : String → String → Int → Row Number
  filtered : ∀ leaf info, plan.leaves.lookup leaf = some info → filters leaf ≠ []
  distinct : ∀ leaf info, plan.leaves.lookup leaf = some info → (filters leaf).Nodup
  keyed : ∀ leaf info, plan.leaves.lookup leaf = some info →
    Keyed (leafDocIds info) (filters leaf) (row leaf)
  measured : ∀ leaf info, plan.leaves.lookup leaf = some info → ∀ filter ∈ filters leaf,
    ∀ doc ∈ leafDocIds info, ∀ metric ∈ info.aggregations.keys, (row leaf filter doc).Measures metric

/-- The shards log the rows of their samples, in any order. -/
structure Logs (choice : Choice Number plan) (count : Nat) (shardRows : ShardRows Number) :
    Prop where
  shards : shardRows.keys.Perm (rangeTo count)
  rows : ∀ index < count, ∃ samples, shardSamples plan index count = .ok samples ∧
    ∀ leaf ∈ plan.leaves.keys, (rowsOf shardRows index leaf).Perm
      ((choice.filters leaf).flatMap fun filter =>
        ((samples.lookup leaf).getD []).map (choice.row leaf filter))

theorem shardSamples_eq_ok_iff : shardSamples plan index count = .ok samples ↔
    checkPlan plan = .ok () ∧ samples = .ofList ((sortedByName plan.leaves).map fun leaf =>
      (leaf.1, shardDocIds (leafDocIds leaf.2) index count)) := by
  unfold shardSamples
  cases checked : checkPlan plan with
  | error error => exact iff_of_false nofun nofun
  | ok accepted =>
    constructor
    · intro done
      cases done
      exact ⟨rfl, rfl⟩
    · rintro ⟨_, rfl⟩
      rfl

/-- A shard has the docs at its own positions of every task. -/
theorem lookup_shardSamples (made : shardSamples plan index count = .ok samples)
    (held : plan.leaves.lookup leaf = some info) :
    samples.lookup leaf = some (shardDocIds (leafDocIds info) index count) := by
  obtain ⟨_, rfl⟩ := shardSamples_eq_ok_iff.mp made
  refine Dict.lookup_update_of_mem ?_ ?_
  · rw [List.map_map]
    exact nodup_sortedByName plan.leaves
  · exact List.mem_map.mpr ⟨(leaf, info), mem_sortedByName.mpr held, rfl⟩

variable {choice : Choice Number plan} {shardRows : ShardRows Number}

section

variable (logs : Logs choice count shardRows)
include logs

theorem Logs.perm (inside : index < count) (held : plan.leaves.lookup leaf = some info) :
    (rowsOf shardRows index leaf).Perm ((choice.filters leaf).flatMap fun filter =>
      (shardDocIds (leafDocIds info) index count).map (choice.row leaf filter)) := by
  obtain ⟨samples, made, rows⟩ := logs.rows index inside
  have here := rows leaf (Dict.mem_keys_iff_lookup.mpr ⟨info, held⟩)
  rwa [lookup_shardSamples made held] at here

theorem Logs.mem_rowsOf (inside : index < count) (held : plan.leaves.lookup leaf = some info)
    {row : Row Number} : row ∈ rowsOf shardRows index leaf ↔ ∃ filter ∈ choice.filters leaf,
      ∃ doc ∈ shardDocIds (leafDocIds info) index count, choice.row leaf filter doc = row := by
  rw [(logs.perm inside held).mem_iff]
  simp

theorem Logs.owned (held : plan.leaves.lookup leaf = some info) :
    Owned (leafDocIds info) count shardRows leaf := by
  intro index inside row member
  obtain ⟨filter, filtered, doc, own, rfl⟩ := (logs.mem_rowsOf inside held).mp member
  have whole : doc ∈ leafDocIds info := (mem_docIds_iff (by omega)).mpr ⟨index, inside, own⟩
  exact ⟨doc, own, congrArg Prod.snd (choice.keyed leaf info held filter filtered doc whole)⟩

/-- The keys of the rows of a shard are the filters and the docs of the shard. -/
theorem Logs.keys_perm (inside : index < count) (held : plan.leaves.lookup leaf = some info) :
    ((rowsOf shardRows index leaf).map Row.key).Perm ((choice.filters leaf).flatMap fun filter =>
      (shardDocIds (leafDocIds info) index count).map fun doc => (filter, some doc)) := by
  refine ((logs.perm inside held).map Row.key).trans (List.Perm.of_eq ?_)
  rw [List.map_flatMap]
  refine List.flatMap_congr fun filter filtered => ?_
  rw [List.map_map]
  refine List.map_congr_left fun doc own => ?_
  exact choice.keyed leaf info held filter filtered doc
    ((mem_docIds_iff (by omega)).mpr ⟨index, inside, own⟩)

theorem Logs.complete (positive : 0 < count) (held : plan.leaves.lookup leaf = some info)
    (docs : (leafDocIds info).Nodup) :
    Complete (leafDocIds info) (choice.filters leaf) (choice.row leaf)
      (allRows shardRows count leaf) where
  mem found := by
    rw [allRows, List.mem_flatMap]
    constructor
    · rintro ⟨index, member, logged⟩
      have inside := List.mem_range.mp member
      obtain ⟨filter, filtered, doc, own, same⟩ := (logs.mem_rowsOf inside held).mp logged
      exact ⟨filter, filtered, doc, (mem_docIds_iff positive).mpr ⟨index, inside, own⟩, same⟩
    · rintro ⟨filter, filtered, doc, whole, same⟩
      obtain ⟨index, inside, own⟩ := (mem_docIds_iff positive).mp whole
      exact ⟨index, List.mem_range.mpr inside,
        (logs.mem_rowsOf inside held).mpr ⟨filter, filtered, doc, own, same⟩⟩
  distinct := by
    rw [allRows, List.map_flatMap, List.nodup_flatMap]
    constructor
    · intro index member
      rw [(logs.keys_perm (List.mem_range.mp member) held).nodup_iff, List.nodup_flatMap]
      constructor
      · intro filter _
        refine (nodup_shardDocIds docs).map fun first second same => ?_
        exact Option.some.inj (Prod.mk.inj same).2
      · refine (choice.distinct leaf info held).pairwise_of_forall_ne fun first _ second _ other => ?_
        intro key here there
        obtain ⟨_, _, rfl⟩ := List.mem_map.mp here
        obtain ⟨_, _, same⟩ := List.mem_map.mp there
        exact other (Prod.mk.inj same).1.symm
    · refine List.nodup_range.pairwise_of_forall_ne fun first member second also other => ?_
      intro key here there
      rw [(logs.keys_perm (List.mem_range.mp member) held).mem_iff] at here
      rw [(logs.keys_perm (List.mem_range.mp also) held).mem_iff] at there
      simp only [List.mem_flatMap, List.mem_map] at here there
      obtain ⟨_, _, doc, own, rfl⟩ := here
      obtain ⟨_, _, another, foreign, same⟩ := there
      obtain rfl := Option.some.inj (Prod.mk.inj same).2
      exact disjoint_shardDocIds docs (List.mem_range.mp member) (List.mem_range.mp also) other
        own foreign

end

/-- The results of a task, however many shards log its rows. -/
theorem Logs.mergeLeaf [Field Number] (sqrt : Number → Number) (sha : String → String)
    (logs : Logs choice count shardRows) (positive : 0 < count)
    (held : plan.leaves.lookup leaf = some info) (docs : (leafDocIds info).Nodup)
    (any : leafDocIds info ≠ []) : mergeLeaf sqrt sha count shardRows leaf info =
      .ok (wholeLeaf sqrt sha (leafDocIds info) ((sortedByName info.aggregations).map Prod.fst)
        (choice.filters leaf) (choice.row leaf)) :=
  mergeLeaf_ok sqrt sha (choice.keyed leaf info held) (choice.measured leaf info held) any
    (choice.filtered leaf info held) (choice.distinct leaf info held) (logs.owned held)
    (logs.complete positive held docs)

end InferenceServer.Shards

/-! The results of the groups. A group is the mean over the tasks below it that report
a metric; a group in a group is taken apart and not averaged on its own. -/
namespace InferenceServer.Shards
open Machine

/-- The tasks below some tasks and groups, in order and once for every path. -/
inductive Flattens (plan : Plan) : List String → List String → Prop
  | nil : Flattens plan [] []
  | leaf {task : String} {tasks leaves : List String} (outside : task ∉ plan.groups.keys)
      (held : task ∈ plan.leaves.keys) (rest : Flattens plan tasks leaves) : Flattens plan (task :: tasks) (task :: leaves)
  | group {task : String} {info : GroupInfo} {tasks below leaves : List String}
      (held : plan.groups.lookup task = some info) (inner : Flattens plan info.subtasks below)
      (rest : Flattens plan tasks leaves) : Flattens plan (task :: tasks) (below ++ leaves)

variable {plan : Plan} {task group : String} {tasks leaves below stack : List String}
  {info : GroupInfo}

/-- A group is one of the subtasks of another. -/
def Within (plan : Plan) (inner outer : String) : Prop :=
  ∃ info, plan.groups.lookup outer = some info ∧ inner ∈ info.subtasks ∧ inner ∈ plan.groups.keys

/-- The groups are nested without a cycle over tasks of the plan. -/
structure Nested (plan : Plan) : Prop where
  acyclic : ∀ group, ¬ Relation.TransGen (Within plan) group group
  known : ∀ group info, plan.groups.lookup group = some info → ∀ task ∈ info.subtasks,
    task ∈ plan.groups.keys ∨ task ∈ plan.leaves.keys
  apart : ∀ group ∈ plan.groups.keys, group ∉ plan.leaves.keys

theorem Flattens.leaves_mem (flattens : Flattens plan tasks leaves) :
    ∀ leaf ∈ leaves, leaf ∈ plan.leaves.keys := by
  induction flattens with
  | nil => exact fun _ member => nomatch member
  | leaf _ held _ ih => exact List.forall_mem_cons.mpr ⟨held, ih⟩
  | group _ _ _ inner rest => exact List.forall_mem_append.mpr ⟨inner, rest⟩

theorem Flattens.unique {other : List String} (flattens : Flattens plan tasks leaves)
    (again : Flattens plan tasks other) : leaves = other := by
  induction flattens generalizing other with
  | nil =>
    cases again
    rfl
  | leaf outside _ _ ih =>
    cases again with
    | leaf _ _ rest => exact congrArg _ (ih rest)
    | group held _ _ => exact absurd (Dict.mem_keys_iff_lookup.mpr ⟨_, held⟩) outside
  | group held _ _ inner rest =>
    cases again with
    | leaf outside _ _ => exact absurd (Dict.mem_keys_iff_lookup.mpr ⟨_, held⟩) outside
    | group found below after =>
      obtain rfl := Option.some.inj (held.symm.trans found)
      rw [inner below, rest after]

/-- The groups on a path are different, so no path is longer than there are groups. -/
theorem leavesOf_ok (nested : Nested plan) (depth : Nat) (held : plan.groups.lookup group = some info)
    (distinct : stack.Nodup)
    (above : ∀ outer ∈ stack, outer ∈ plan.groups.keys ∧ Relation.TransGen (Within plan) group outer)
    (enough : plan.groups.length + 1 ≤ depth + stack.length) :
    ∃ leaves, leavesOf plan depth stack group = .ok leaves ∧ Flattens plan info.subtasks leaves := by
  induction depth generalizing stack group info with
  | zero =>
    have few := (List.subperm_of_subset distinct fun outer member =>
      (above outer member).1).length_le
    rw [← Dict.length_eq] at few
    omega
  | succ depth ih =>
    have new : group ∉ stack := fun member => nested.acyclic group (above group member).2
    have present := Dict.mem_keys_iff_lookup.mpr ⟨info, held⟩
    -- the list of subtasks is taken apart from its end, with the tasks found so far
    have all : ∀ tasks : List String, (∀ task ∈ tasks, task ∈ info.subtasks) →
        ∃ lists, (tasks.mapM fun task =>
          if task ∈ plan.groups.keys then leavesOf plan depth (stack ++ [group]) task
          else if task ∈ plan.leaves.keys then .ok [task]
          else .error (.unknownSubtask group task)) = .ok lists ∧
        Flattens plan tasks lists.flatten := by
      intro tasks inside
      induction tasks with
      | nil => exact ⟨[], rfl, .nil⟩
      | cons task rest later =>
        obtain ⟨lists, made, flattens⟩ := later fun other member =>
          inside other (List.mem_cons_of_mem _ member)
        have here := inside task List.mem_cons_self
        rw [List.mapM_cons, made]
        by_cases inner : task ∈ plan.groups.keys
        · obtain ⟨innerInfo, found⟩ := Dict.mem_keys_iff_lookup.mp inner
          have within : Within plan task group := ⟨info, held, here, inner⟩
          obtain ⟨leaves, ran, below⟩ := ih found
            (show (stack ++ [group]).Nodup from
              distinct.append (List.nodup_singleton _) (List.disjoint_singleton.mpr new))
            (fun outer member => by
              rcases List.mem_append.mp member with earlier | last
              · exact ⟨(above outer earlier).1, .head within (above outer earlier).2⟩
              · rw [List.mem_singleton.mp last]
                exact ⟨present, .single within⟩)
            (by rw [List.length_append, List.length_singleton]; omega)
          rw [if_pos inner, ran]
          exact ⟨leaves :: lists, rfl, .group found below flattens⟩
        · have leaf := (nested.known group info held task here).resolve_left inner
          rw [if_neg inner, if_pos leaf]
          exact ⟨[task] :: lists, rfl, .leaf inner leaf flattens⟩
    obtain ⟨lists, made, flattens⟩ := all info.subtasks fun _ member => member
    refine ⟨lists.flatten, ?_, flattens⟩
    rw [leavesOf, if_neg new, held]
    show (do let below ← info.subtasks.mapM _; return below.flatten) = _
    rw [made]
    rfl

section Aggregates

variable {Number : Type} {results start : Results Number} {name key other : String}
  {cell : Cell Number}

theorem lookup_writeCell :
    (writeCell results name key cell).lookup other =
      if other = name then some (((results.lookup name).getD .empty).set key cell)
      else results.lookup other :=
  Dict.lookup_set ..

theorem cellOf_writeCell {another : String} :
    cellOf (writeCell results name key cell) other another =
      if other = name ∧ another = key then some cell else cellOf results other another := by
  unfold cellOf
  rw [lookup_writeCell]
  by_cases same : other = name
  · subst same
    rw [if_pos rfl, Option.getD_some, Dict.lookup_set]
    simp
  · rw [if_neg same, if_neg fun both => same both.1]

theorem cellOf_congr (same : results.lookup other = start.lookup other) :
    cellOf results other key = cellOf start other key := by
  unfold cellOf
  rw [same]

variable [Field Number]

/-- The mean of tasks that have weights. -/
def weightedMean (weight : String → Nat) (value : String → Number) (tasks : List String) : Number :=
  (tasks.map fun task => value task * (weight task : Number)).sum / ((tasks.map weight).sum : Nat)

/-- What the tasks of the plan report. -/
structure Reporting (results : Results Number) (reports : String → String → String → Bool)
    (value : String → String → String → Number) (metric filter : String) (tasks : List String) :
    Prop where
  present : ∀ task ∈ tasks,
    (cellOf results task (resultKey metric filter)).isSome = reports metric filter task
  number : ∀ task ∈ tasks, reports metric filter task →
    cellOf results task (resultKey metric filter) = some (.number (value metric filter task))

variable {reports : String → String → String → Bool} {value : String → String → String → Number}
  {nSamples : Dict String Nat} {item : Aggregate} {filter : String} (sqrt : Number → Number)

/-- The weight of a task in a group. -/
def Aggregate.weight (item : Aggregate) (nSamples : Dict String Nat) (task : String) : Nat :=
  if item.weightBySize then (nSamples.lookup task).getD 0 else 1

theorem mergeAggregate_ok (nSamples : Dict String Nat) (group : String)
    (reporting : Reporting results reports value item.metric filter tasks)
    (any : ∃ task ∈ tasks, reports item.metric filter task) :
    ∃ stderr, mergeAggregate sqrt nSamples group tasks item results filter =
      .ok (writeCell (writeCell results group (resultKey item.metric filter)
        (.number (weightedMean (item.weight nSamples) (value item.metric filter)
          (tasks.filter (reports item.metric filter)))))
        group (stderrKey item.metric filter) stderr) := by
  have present : (tasks.filter fun task =>
      (cellOf results task (resultKey item.metric filter)).isSome) =
      tasks.filter (reports item.metric filter) :=
    List.filter_congr fun task member => reporting.present task member
  have some_ : (tasks.filter (reports item.metric filter)).isEmpty = false := by
    obtain ⟨task, member, reported⟩ := any
    exact List.isEmpty_eq_false_iff.mpr
      (List.ne_nil_of_mem (List.mem_filter.mpr ⟨member, reported⟩))
  have metrics : ((tasks.filter (reports item.metric filter)).mapM fun task =>
      reportedNumber results task (resultKey item.metric filter)) =
      .ok ((tasks.filter (reports item.metric filter)).map (value item.metric filter)) := by
    refine mapM_ok fun task member => ?_
    obtain ⟨inside, reported⟩ := List.mem_filter.mp member
    unfold reportedNumber
    rw [reporting.number task inside reported]
    rfl
  have weights : (if item.weightBySize then
        (tasks.filter (reports item.metric filter)).map fun task => (nSamples.lookup task).getD 0
      else List.replicate ((tasks.filter (reports item.metric filter)).map fun task =>
        (nSamples.lookup task).getD 0).length 1) =
      (tasks.filter (reports item.metric filter)).map (item.weight nSamples) := by
    unfold Aggregate.weight
    split
    · rfl
    · rw [List.length_map, List.map_const']
  unfold mergeAggregate
  simp only [present, some_, metrics, weights, bind, Except.bind, Bool.false_eq_true, ↓reduceIte]
  rw [List.zipWith_map, List.zipWith_self]
  exact ⟨_, rfl⟩

/-- The last of the aggregates of a group that have a metric and a filter. -/
def LastOf (writes : List (Aggregate × String)) (item : Aggregate) (filter : String) : Prop :=
  ∃ before after, writes = before ++ (item, filter) :: after ∧
    ∀ later ∈ after, (later.1.metric, later.2) ≠ (item.metric, filter)

theorem LastOf.mem {writes : List (Aggregate × String)} (last : LastOf writes item filter) :
    (item, filter) ∈ writes := by
  obtain ⟨before, after, rfl, _⟩ := last
  exact List.mem_append_right _ List.mem_cons_self

theorem lastOf_append {writes : List (Aggregate × String)} {write : Aggregate × String}
    (last : LastOf (writes ++ [write]) item filter) : write = (item, filter) ∨
      (write.1.metric, write.2) ≠ (item.metric, filter) ∧ LastOf writes item filter := by
  obtain ⟨before, after, whole, later⟩ := last
  rcases after.eq_nil_or_concat with rfl | ⟨earlier, end_, rfl⟩
  · exact .inl (List.append_singleton_inj.mp whole).2
  · rw [List.concat_eq_append, ← List.cons_append, ← List.append_assoc] at whole
    obtain ⟨split, rfl⟩ := List.append_singleton_inj.mp whole
    rw [List.concat_eq_append] at later
    refine .inr ⟨later _ (List.mem_append_right _ List.mem_cons_self), before, earlier, split, ?_⟩
    exact fun other member => later other (List.mem_append_left _ member)

def GroupInfo.writes (info : GroupInfo) : List (Aggregate × String) :=
  info.aggregateMetricList.flatMap fun item => item.filters.map fun filter => (item, filter)

omit [Field Number] in
theorem Reporting.congr {metric : String} (reporting : Reporting start reports value metric filter tasks)
    (same : ∀ task ∈ tasks, results.lookup task = start.lookup task) :
    Reporting results reports value metric filter tasks where
  present task member := by
    rw [cellOf_congr (same task member)]
    exact reporting.present task member
  number task member reported := by
    rw [cellOf_congr (same task member)]
    exact reporting.number task member reported

variable {Named : String → String → Prop}

theorem aggregates_ok (nSamples : Dict String Nat) (separate : Separate Named)
    {writes : List (Aggregate × String)} (named : ∀ write ∈ writes, Named write.1.metric write.2)
    (apart : group ∉ tasks)
    (reporting : ∀ write ∈ writes, Reporting start reports value write.1.metric write.2 tasks)
    (any : ∀ write ∈ writes, ∃ task ∈ tasks, reports write.1.metric write.2 task) :
    ∃ last, writes.foldlM (fun results write =>
        mergeAggregate sqrt nSamples group tasks write.1 results write.2) start = .ok last ∧
      (∀ name ≠ group, last.lookup name = start.lookup name) ∧
      ∀ item filter, LastOf writes item filter →
        cellOf last group (resultKey item.metric filter) =
          some (.number (weightedMean (item.weight nSamples) (value item.metric filter)
            (tasks.filter (reports item.metric filter)))) := by
  refine @foldlM_ok _ _ _ _ (fun (done : List (Aggregate × String)) results =>
    (∀ name ≠ group, results.lookup name = start.lookup name) ∧
      ∀ item filter, LastOf done item filter →
        cellOf results group (resultKey item.metric filter) =
          some (.number (weightedMean (item.weight nSamples) (value item.metric filter)
            (tasks.filter (reports item.metric filter))))) _ _ ⟨fun _ _ => rfl, ?_⟩ ?_
  · rintro item filter ⟨before, after, none_, _⟩
    exact absurd none_.symm (List.append_ne_nil_of_right_ne_nil _ (List.cons_ne_nil _ _))
  · rintro done write rest results whole ⟨frame, now⟩
    have member : write ∈ writes := whole ▸ List.mem_append_right _ List.mem_cons_self
    have agree : ∀ task ∈ tasks, results.lookup task = start.lookup task := fun task inside =>
      frame task fun same => apart (same ▸ inside)
    obtain ⟨stderr, ran⟩ := mergeAggregate_ok sqrt nSamples group
      ((reporting write member).congr agree) (any write member)
    refine ⟨_, ran, fun name other => ?_, fun item filter last => ?_⟩
    · rw [lookup_writeCell, if_neg other, lookup_writeCell, if_neg other]
      exact frame name other
    · have here : Named item.metric filter := by
        refine named (item, filter) (whole ▸ ?_)
        have inside := last.mem
        rcases List.mem_append.mp inside with earlier | last
        · exact List.mem_append_left _ earlier
        · rw [List.mem_singleton.mp last]
          exact List.mem_append_right _ List.mem_cons_self
      have fresh := separate.apart here (named write member)
      rw [cellOf_writeCell, if_neg fun both => fresh both.2, cellOf_writeCell]
      rcases lastOf_append last with rfl | ⟨other, earlier⟩
      · rw [if_pos ⟨rfl, rfl⟩]
      · rw [if_neg]
        · exact now item filter earlier
        · rintro ⟨_, same⟩
          obtain ⟨metric, filter⟩ := separate.result here (named write member) same
          exact other (Prod.ext metric.symm filter.symm)

theorem mergeGroup_ok (nSamples : Dict String Nat) (separate : Separate Named)
    (nested : Nested plan) (held : plan.groups.lookup group = some info)
    (flattens : Flattens plan info.subtasks tasks)
    (named : ∀ write ∈ info.writes, Named write.1.metric write.2)
    (reporting : ∀ write ∈ info.writes, Reporting start reports value write.1.metric write.2 tasks)
    (any : ∀ write ∈ info.writes, ∃ task ∈ tasks, reports write.1.metric write.2 task) :
    ∃ last, mergeGroup sqrt plan nSamples start (group, info) = .ok last ∧
      (∀ name ≠ group, last.lookup name = start.lookup name) ∧
      ∀ item filter, LastOf info.writes item filter →
        cellOf last group (resultKey item.metric filter) =
          some (.number (weightedMean (item.weight nSamples) (value item.metric filter)
            (tasks.filter (reports item.metric filter)))) := by
  by_cases none_ : info.aggregateMetricList = []
  · refine ⟨start, ?_, fun _ _ => rfl, fun item filter last => ?_⟩
    · unfold mergeGroup
      rw [none_]
      rfl
    · have member := last.mem
      rw [GroupInfo.writes, none_] at member
      cases member
  · obtain ⟨leaves, flattened, also⟩ := leavesOf_ok nested (plan.groups.length + 1) held
      List.nodup_nil (fun _ member => nomatch member) (Nat.le_refl _)
    obtain rfl := flattens.unique also
    have apart : group ∉ tasks := fun member =>
      nested.apart group (Dict.mem_keys_iff_lookup.mpr ⟨info, held⟩)
        (flattens.leaves_mem group member)
    obtain ⟨last, ran, frame, now⟩ := aggregates_ok sqrt nSamples separate named apart
      reporting any
    refine ⟨last, ?_, frame, now⟩
    unfold mergeGroup
    simp only [List.isEmpty_eq_false_iff.mpr none_, flattened, bind, Except.bind]
    rw [GroupInfo.writes, foldlM_flatMap] at ran
    simp only [List.foldlM_map] at ran
    exact ran

omit [Field Number] in
theorem Reporting.mono {metric : String} {all : List String}
    (reporting : Reporting results reports value metric filter all)
    (inside : ∀ task ∈ tasks, task ∈ all) : Reporting results reports value metric filter tasks where
  present task member := reporting.present task (inside task member)
  number task member := reporting.number task (inside task member)

/-- What every aggregate of a group is, over the tasks below the group. -/
def Averages (plan : Plan) (nSamples : Dict String Nat) (reports : String → String → String → Bool)
    (value : String → String → String → Number) (results : Results Number) (group : String)
    (info : GroupInfo) : Prop :=
  ∃ tasks, Flattens plan info.subtasks tasks ∧ ∀ item filter, LastOf info.writes item filter →
    cellOf results group (resultKey item.metric filter) =
      some (.number (weightedMean (item.weight nSamples) (value item.metric filter)
        (tasks.filter (reports item.metric filter))))

theorem mergeGroups_ok (nSamples : Dict String Nat) (separate : Separate Named)
    (nested : Nested plan)
    (named : ∀ group info, plan.groups.lookup group = some info → ∀ write ∈ info.writes,
      Named write.1.metric write.2)
    (any : ∀ group info, plan.groups.lookup group = some info → ∀ tasks,
      Flattens plan info.subtasks tasks → ∀ write ∈ info.writes,
        ∃ task ∈ tasks, reports write.1.metric write.2 task)
    (reporting : ∀ metric filter, Named metric filter →
      Reporting start reports value metric filter plan.leaves.keys) :
    ∃ last, (sortedByName plan.groups).foldlM (mergeGroup sqrt plan nSamples) start = .ok last ∧
      (∀ name, name ∉ plan.groups.keys → last.lookup name = start.lookup name) ∧
      ∀ group info, plan.groups.lookup group = some info →
        Averages plan nSamples reports value last group info := by
  have whole := @foldlM_ok _ _ _ (mergeGroup sqrt plan nSamples)
    (fun (done : List (String × GroupInfo)) results =>
      (∀ name, name ∉ done.map Prod.fst → results.lookup name = start.lookup name) ∧
        ∀ group info, (group, info) ∈ done →
          Averages plan nSamples reports value results group info)
    (sortedByName plan.groups) start ⟨fun _ _ => rfl, fun _ _ member => nomatch member⟩ ?_
  · obtain ⟨last, ran, frame, now⟩ := whole
    refine ⟨last, ran, fun name outside => frame name fun member => outside ?_, ?_⟩
    · rw [map_fst_sortedByName] at member
      exact (List.mem_insertionSort _).mp member
    · exact fun group info held => now group info (mem_sortedByName.mpr held)
  · rintro done ⟨group, info⟩ rest results split ⟨frame, now⟩
    have held : plan.groups.lookup group = some info := by
      refine mem_sortedByName.mp (split ▸ ?_)
      exact List.mem_append_right _ List.mem_cons_self
    have new : group ∉ done.map Prod.fst := by
      have once := nodup_sortedByName plan.groups
      rw [← split, List.map_append, List.map_cons] at once
      exact fun member => (List.nodup_append.mp once).2.2 _ member _ List.mem_cons_self rfl
    obtain ⟨tasks, -, flattens⟩ := leavesOf_ok nested (plan.groups.length + 1) held
      List.nodup_nil (fun _ member => nomatch member) (Nat.le_refl _)
    have leaves := flattens.leaves_mem
    have agree : ∀ task ∈ tasks, results.lookup task = start.lookup task := by
      refine fun task member => frame task fun there => ?_
      obtain ⟨⟨_, other⟩, earlier, rfl⟩ := List.mem_map.mp there
      refine nested.apart _ (Dict.mem_keys_iff_lookup.mpr ⟨other, mem_sortedByName.mp ?_⟩)
        (leaves _ member)
      exact split ▸ List.mem_append_left _ earlier
    obtain ⟨last, ran, outside, averages⟩ := mergeGroup_ok sqrt nSamples separate nested held
      flattens (named group info held)
      (fun write member => ((reporting _ _ (named group info held write member)).mono leaves).congr
        agree)
      (any group info held tasks flattens)
    refine ⟨last, ran, fun name absent => ?_, fun other otherInfo member => ?_⟩
    · rw [List.map_append, List.map_singleton, List.mem_append, List.mem_singleton, not_or] at absent
      exact (outside name absent.2).trans (frame name absent.1)
    · rcases List.mem_append.mp member with earlier | here
      · obtain ⟨tasks, flattens, cells⟩ := now other otherInfo earlier
        refine ⟨tasks, flattens, fun item filter last => ?_⟩
        have different : other ≠ group := fun same =>
          new (same ▸ List.mem_map.mpr ⟨_, earlier, rfl⟩)
        rw [cellOf_congr (outside other different)]
        exact cells item filter last
      · cases List.mem_singleton.mp here
        exact ⟨tasks, flattens, averages⟩

end Aggregates

end InferenceServer.Shards
