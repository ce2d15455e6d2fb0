import InferenceServer.Transport.KvTables

/-! What the plan for a host holds. A walk that stays within 32 bits visits each chunk once, and
then the plan has one entry for each chunk with a replica on the host, in the order of the walk,
with all these replicas as its targets. -/
namespace InferenceServer.Transport

/-- The last step of the walk stays within 32 bits. -/
def KvSlice.Bounded (slice : KvSlice) (step : UInt32) : Prop :=
  slice.positionEnd.toNat + step.toNat ≤ UInt32.size

/-- A bounded walk goes up in steps and stays below the end. -/
theorem KvSlice.positionsFrom_spec {slice : KvSlice} {step : UInt32} (bounded : slice.Bounded step)
    (walking : step ≠ 0) : ∀ {fuel : Nat} {pos : UInt32} {walked : List UInt32},
    slice.positionsFrom step fuel pos = some walked → walked.Pairwise (· < ·) ∧
      ∀ target ∈ walked, target < slice.positionEnd ∧
        ∃ ordinal : Nat, target.toNat = pos.toNat + ordinal * step.toNat := by
  have forward : 0 < step.toNat := by
    rw [← UInt32.toNat_zero]
    exact UInt32.lt_iff_toNat_lt.mp (UInt32.pos_iff_ne_zero.mpr walking)
  intro fuel
  induction fuel with
  | zero =>
    intro pos walked ended
    cases ended
  | succ fuel ih =>
    intro pos walked ended
    rw [positionsFrom] at ended
    split at ended
    · rename_i inside
      obtain ⟨others, rest, rfl⟩ := Option.map_eq_some_iff.mp ended
      have next : (pos + step).toNat = pos.toNat + step.toNat := by
        rw [UInt32.toNat_add]
        rw [UInt32.lt_iff_toNat_lt] at inside
        unfold Bounded UInt32.size at bounded
        exact Nat.mod_eq_of_lt (by omega)
      obtain ⟨sorted, each⟩ := ih rest
      refine ⟨List.pairwise_cons.mpr ⟨fun target member => ?_, sorted⟩, fun target member => ?_⟩
      · obtain ⟨_, ordinal, place⟩ := each target member
        rw [UInt32.lt_iff_toNat_lt]
        omega
      · rcases List.mem_cons.mp member with rfl | later
        · exact ⟨inside, 0, by omega⟩
        · obtain ⟨before, ordinal, place⟩ := each target later
          exact ⟨before, ordinal + 1, by rw [place, next, Nat.succ_mul]; omega⟩
    · cases ended
      exact ⟨.nil, fun _ member => absurd member List.not_mem_nil⟩

theorem KvSlice.nodup_layers (slice : KvSlice) : slice.layers.Nodup := by
  refine List.Nodup.map_on ?_ List.nodup_range'
  intro first firstMember second secondMember same
  have last := slice.layerEnd.toNat_lt
  have firstIn := List.mem_range'_1.mp firstMember
  have secondIn := List.mem_range'_1.mp secondMember
  have counted := congrArg UInt32.toNat same
  rwa [UInt32.toNat_ofNat_of_lt' (by unfold UInt32.size; omega),
    UInt32.toNat_ofNat_of_lt' (by unfold UInt32.size; omega)] at counted

/-- A replica as a target of its chunk. -/
def Replica.target (replica : Replica) : ChunkTarget where
  device := encodeDevice replica.node
  nocAddr := replica.loc.nocAddr
  sizeBytes := replica.loc.sizeBytes

namespace KvTable

variable {table : KvTable} {slice : KvSlice} {host : String}
variable {chunks : List (UInt32 × UInt32)} {slot : UInt32} {plan : List ChunkPlan}
  {replica : Replica} {chunk : UInt32 × UInt32}

/-- The walk over the layers repeats the walk over the positions. -/
theorem requestedChunks_cases (walking : table.chunkNTokens ≠ 0)
    (walked : table.requestedChunks slice = some chunks) :
    (slice.layers = [] ∧ chunks = []) ∨ ∃ positions,
      slice.positions table.chunkNTokens = some positions ∧
        chunks = slice.layers.flatMap fun layer => positions.map fun pos => (layer, pos) := by
  rw [requestedChunks, if_neg walking] at walked
  obtain ⟨parts, all, rfl⟩ := Option.map_eq_some_iff.mp walked
  cases ended : slice.positions table.chunkNTokens with
  | none =>
    cases known : slice.layers with
    | nil =>
      rw [known] at all
      cases all
      exact .inl ⟨rfl, rfl⟩
    | cons first rest =>
      rw [known, ended] at all
      simp at all
  | some positions =>
    rw [ended] at all
    have steps : slice.layers.mapM (m := Option) (fun layer =>
        some (positions.map fun pos => (layer, pos))) =
          some (slice.layers.map fun layer => positions.map fun pos => (layer, pos)) :=
      List.mapM_pure (m := Option)
    obtain rfl := Option.some.inj (steps.symm.trans all)
    exact .inr ⟨positions, rfl, List.flatMap_def.symm⟩

/-- A bounded walk visits each chunk once, and only chunks that the slice addresses. -/
theorem requestedChunks_spec (walking : table.chunkNTokens ≠ 0)
    (bounded : slice.Bounded table.chunkNTokens)
    (walked : table.requestedChunks slice = some chunks) :
    chunks.Nodup ∧ ∀ chunk ∈ chunks, slice.Addresses table.chunkNTokens chunk.1 chunk.2 := by
  rcases requestedChunks_cases walking walked with ⟨_, rfl⟩ | ⟨positions, ended, rfl⟩
  · exact ⟨.nil, nofun⟩
  · obtain ⟨sorted, each⟩ := KvSlice.positionsFrom_spec bounded walking ended
    have once : positions.Nodup := sorted.imp fun less => by
      rintro rfl
      exact UInt32.lt_irrefl _ less
    constructor
    · refine List.nodup_flatMap.mpr ⟨fun layer _ => once.map fun _ _ => congrArg Prod.snd, ?_⟩
      refine slice.nodup_layers.imp fun different => ?_
      intro chunk first second
      obtain ⟨_, _, rfl⟩ := List.mem_map.mp first
      obtain ⟨_, _, same⟩ := List.mem_map.mp second
      exact different (congrArg Prod.fst same).symm
    · intro chunk member
      obtain ⟨layer, layered, inner⟩ := List.mem_flatMap.mp member
      obtain ⟨pos, positioned, rfl⟩ := List.mem_map.mp inner
      obtain ⟨low, high⟩ := KvSlice.mem_layers.mp layered
      obtain ⟨before, ordinal, place⟩ := each pos positioned
      exact ⟨low, high, ordinal, place, before⟩

/-- Those of the replicas that are on a host, as targets. -/
def onHost (table : KvTable) (host : String) (replicas : List Replica) : List ChunkTarget :=
  (replicas.filter fun replica => table.hostOf replica.node = host).map Replica.target

/-- The replicas of a chunk on a host, as targets. -/
def targetsOn (table : KvTable) (host : String) (slot : UInt32) (chunk : UInt32 × UInt32) :
    List ChunkTarget :=
  table.onHost host (table.replicasOf slot chunk)

/-- The entry of a chunk in the plan for a host, if it has a replica there. -/
def planOf (table : KvTable) (host : String) (slot : UInt32) (chunk : UInt32 × UInt32) :
    Option ChunkPlan :=
  let targets := table.targetsOn host slot chunk
  if targets = [] then none else some { slot, layer := chunk.1, position := chunk.2, targets }

/-- The last entry of a plan is not for this chunk. -/
def Before (plan : List ChunkPlan) (chunk : UInt32 × UInt32) : Prop :=
  ∀ current ∈ plan.getLast?, (current.layer, current.position) ≠ chunk

theorem addToPlan_new (present : table.hostOf replica.node = host)
    (before : Before plan (replica.layer, replica.position)) :
    table.addToPlan host slot plan replica = plan ++ [{
      slot, layer := replica.layer, position := replica.position
      targets := [replica.target] }] := by
  rw [addToPlan, if_neg (not_not.mpr present)]
  cases last : plan.getLast? with
  | none =>
    rw [List.getLast?_eq_none_iff.mp last]
    rfl
  | some current =>
    have different : current.layer ≠ replica.layer ∨ current.position ≠ replica.position := by
      by_contra same
      rw [not_or, not_not, not_not] at same
      exact before current last (Prod.ext same.1 same.2)
    simp only [if_pos different]
    rfl

theorem addToPlan_more {current : ChunkPlan} (present : table.hostOf replica.node = host)
    (same : (current.layer, current.position) = (replica.layer, replica.position)) :
    table.addToPlan host slot (plan ++ [current]) replica = plan ++ [{
      current with targets := current.targets ++ [replica.target] }] := by
  obtain ⟨layer, position⟩ := Prod.mk.inj same
  rw [addToPlan, if_neg (not_not.mpr present), List.getLast?_concat]
  simp only [layer, position, ne_eq, not_true_eq_false, or_self, if_false, List.dropLast_concat]
  rfl

theorem addToPlan_elsewhere (elsewhere : table.hostOf replica.node ≠ host) :
    table.addToPlan host slot plan replica = plan := by
  rw [addToPlan, if_pos elsewhere]

theorem onHost_cons_of_pos {rest : List Replica} (present : table.hostOf replica.node = host) :
    table.onHost host (replica :: rest) = replica.target :: table.onHost host rest := by
  rw [onHost, List.filter_cons_of_pos (by simpa using present), List.map_cons]
  rfl

theorem onHost_cons_of_neg {rest : List Replica} (elsewhere : table.hostOf replica.node ≠ host) :
    table.onHost host (replica :: rest) = table.onHost host rest := by
  rw [onHost, List.filter_cons_of_neg (by simpa using elsewhere)]
  rfl

/-- More replicas of the last chunk of a plan. -/
theorem foldl_more {replicas : List Replica}
    (all : ∀ replica ∈ replicas, (replica.layer, replica.position) = chunk) {current : ChunkPlan}
    (last : (current.layer, current.position) = chunk) :
    replicas.foldl (table.addToPlan host slot) (plan ++ [current]) =
      plan ++ [{ current with targets := current.targets ++ table.onHost host replicas }] := by
  induction replicas generalizing current with
  | nil =>
    rw [List.foldl_nil]
    exact congrArg (fun targets => plan ++ [{ current with targets }]) (List.append_nil _).symm
  | cons replica rest ih =>
    have same := all replica List.mem_cons_self
    have others := fun replica member => all replica (List.mem_cons_of_mem _ member)
    rw [List.foldl_cons]
    by_cases present : table.hostOf replica.node = host
    · rw [addToPlan_more present (last.trans same.symm), onHost_cons_of_pos present]
      refine (@ih others { current with targets := current.targets ++ [replica.target] } last).trans ?_
      simp
    · rw [addToPlan_elsewhere present, ih others last, onHost_cons_of_neg present]

/-- The replicas of one chunk add its entry. -/
theorem foldl_chunk {replicas : List Replica}
    (all : ∀ replica ∈ replicas, (replica.layer, replica.position) = chunk)
    (before : Before plan chunk) :
    replicas.foldl (table.addToPlan host slot) plan =
      if table.onHost host replicas = [] then plan
      else plan ++ [{
        slot, layer := chunk.1, position := chunk.2, targets := table.onHost host replicas }] := by
  induction replicas with
  | nil => rfl
  | cons replica rest ih =>
    have same := all replica List.mem_cons_self
    have others := fun replica member => all replica (List.mem_cons_of_mem _ member)
    rw [List.foldl_cons]
    by_cases present : table.hostOf replica.node = host
    · rw [addToPlan_new present (same ▸ before), foldl_more others (by exact same),
        onHost_cons_of_pos present, if_neg (List.cons_ne_nil _ _)]
      obtain rfl := same
      rfl
    · rw [addToPlan_elsewhere present, ih others, onHost_cons_of_neg present]

/-- The plan for a host, entry by entry. -/
theorem foldl_chunks (once : chunks.Nodup) (before : ∀ chunk ∈ chunks, Before plan chunk) :
    (chunks.flatMap (table.replicasOf slot)).foldl (table.addToPlan host slot) plan =
      plan ++ chunks.filterMap (table.planOf host slot) := by
  induction chunks generalizing plan with
  | nil => simp
  | cons chunk rest ih =>
    obtain ⟨new, onceRest⟩ := List.nodup_cons.mp once
    have all : ∀ replica ∈ table.replicasOf slot chunk,
        (replica.layer, replica.position) = chunk := by
      intro replica member
      unfold replicasOf at member
      split at member
      · cases member
      · obtain ⟨node, _, rfl⟩ := List.mem_map.mp member
        rfl
    have first := before chunk List.mem_cons_self
    rw [List.flatMap_cons, List.foldl_append, foldl_chunk all first]
    by_cases none_ : table.onHost host (table.replicasOf slot chunk) = []
    · have skipped : table.planOf host slot chunk = none := if_pos none_
      rw [if_pos none_, List.filterMap_cons_none skipped]
      exact ih onceRest fun other member => before other (List.mem_cons_of_mem _ member)
    · have kept : table.planOf host slot chunk = some {
          slot, layer := chunk.1, position := chunk.2, targets := table.targetsOn host slot chunk } :=
        if_neg none_
      rw [if_neg none_, List.filterMap_cons_some kept]
      refine (ih onceRest ?_).trans (by rw [List.append_assoc]; rfl)
      intro other member current last
      rw [List.getLast?_concat] at last
      obtain rfl := Option.some.inj last
      rintro rfl
      exact new member

/-- The plan for a host has an entry for each addressed chunk with a replica there. -/
theorem buildHostPlan_spec (walking : table.chunkNTokens ≠ 0)
    (bounded : slice.Bounded table.chunkNTokens)
    (planned : table.buildHostPlan host slice = some plan) : ∃ chunks,
    table.requestedChunks slice = some chunks ∧
      plan = chunks.filterMap (table.planOf host slice.slot) := by
  obtain ⟨replicas, visited, rfl⟩ := Option.map_eq_some_iff.mp planned
  obtain ⟨chunks, walked, rfl⟩ := Option.map_eq_some_iff.mp visited
  exact ⟨chunks, walked,
    foldl_chunks (requestedChunks_spec walking bounded walked).1 fun _ _ => nofun⟩

/-- The entry of a chunk has all its replicas on the host, and there is one. -/
theorem planOf_spec {entry : ChunkPlan} :
    table.planOf host slot chunk = some entry ↔ table.targetsOn host slot chunk ≠ [] ∧
      entry = ⟨slot, chunk.1, chunk.2, table.targetsOn host slot chunk⟩ := by
  unfold planOf
  by_cases none_ : table.targetsOn host slot chunk = []
  · simp [none_]
  · simp [none_, eq_comm]

/-- The targets of a chunk on a host are those of the nodes of its group there. -/
theorem mem_targetsOn {target : ChunkTarget} :
    target ∈ table.targetsOn host slot chunk ↔ ∃ loc node,
      table.lookup slot chunk.1 chunk.2 = some loc ∧
        node ∈ table.deviceGroup loc.deviceGroupIndex ∧ table.hostOf node = host ∧
        target = ⟨encodeDevice node, loc.nocAddr, loc.sizeBytes⟩ := by
  simp only [targetsOn, onHost, replicasOf]
  cases found : table.lookup slot chunk.1 chunk.2 with
  | none => simp
  | some loc =>
    simp only [List.mem_map, List.mem_filter, decide_eq_true_eq, Option.some.injEq]
    constructor
    · rintro ⟨_, ⟨⟨node, member, rfl⟩, present⟩, rfl⟩
      exact ⟨loc, node, rfl, member, present, rfl⟩
    · rintro ⟨_, node, rfl, member, present, rfl⟩
      exact ⟨_, ⟨⟨node, member, rfl⟩, present⟩, rfl⟩

end KvTable

end InferenceServer.Transport
