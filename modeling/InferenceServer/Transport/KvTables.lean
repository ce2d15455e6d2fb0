import Mathlib.Data.List.Sort

/-! What is migrated and where the tables place it: the walk over the chunks of a request, the
replicas of each, and the plan and the hosts that are read off it. The walk counts positions in
32 bits, so it may never end. -/
namespace InferenceServer.Transport

/-- One side's coordinates; positions are in tokens. -/
structure KvSlice where
  slot : UInt32 := 0
  layerBegin : UInt32 := 0
  layerEnd : UInt32 := 0
  positionBegin : UInt32 := 0
  positionEnd : UInt32 := 0
  deriving DecidableEq

structure MigrationRequest where
  srcSlot : UInt32 := 0
  dstSlot : UInt32 := 0
  layerBegin : UInt32 := 0
  layerEnd : UInt32 := 0
  srcPositionBegin : UInt32 := 0
  srcPositionEnd : UInt32 := 0
  dstPositionBegin : UInt32 := 0
  dstPositionEnd : UInt32 := 0
  deriving DecidableEq

namespace MigrationRequest

def srcSlice (request : MigrationRequest) : KvSlice where
  slot := request.srcSlot
  layerBegin := request.layerBegin
  layerEnd := request.layerEnd
  positionBegin := request.srcPositionBegin
  positionEnd := request.srcPositionEnd

def dstSlice (request : MigrationRequest) : KvSlice where
  slot := request.dstSlot
  layerBegin := request.layerBegin
  layerEnd := request.layerEnd
  positionBegin := request.dstPositionBegin
  positionEnd := request.dstPositionEnd

end MigrationRequest

structure FabricNode where
  meshId : UInt32
  chipId : UInt32
  deriving DecidableEq

def encodeDevice (node : FabricNode) : UInt32 := (node.meshId <<< 16) ||| node.chipId

structure ChunkLoc where
  nocAddr : UInt64
  sizeBytes : UInt64
  deviceGroupIndex : UInt32
  deriving DecidableEq

/-- A table as its readers see it. The host of a node is empty where it is unknown. -/
structure KvTable where
  chunkNTokens : UInt32 := 32
  deviceGroup : UInt32 → List FabricNode
  hostOf : FabricNode → String
  lookup : UInt32 → UInt32 → UInt32 → Option ChunkLoc

structure ChunkTarget where
  device : UInt32
  nocAddr : UInt64
  sizeBytes : UInt64
  deriving DecidableEq

structure ChunkPlan where
  slot : UInt32
  layer : UInt32
  position : UInt32
  targets : List ChunkTarget := []
  deriving DecidableEq

def chunkStart (start step : UInt32) : UInt32 := start - start % step

namespace KvSlice

def layers (slice : KvSlice) : List UInt32 :=
  (List.range' slice.layerBegin.toNat (slice.layerEnd.toNat - slice.layerBegin.toNat)).map
    UInt32.ofNat

/-- The positions of the inner loop from one on; nothing where the loop has not ended. -/
def positionsFrom (slice : KvSlice) (step : UInt32) : Nat → UInt32 → Option (List UInt32)
  | 0, _ => none
  | fuel + 1, pos =>
    if pos < slice.positionEnd then (slice.positionsFrom step fuel (pos + step)).map (pos :: ·)
    else some []

/-- A loop that has not ended once it has had every position never does. -/
def positions (slice : KvSlice) (step : UInt32) : Option (List UInt32) :=
  slice.positionsFrom step (UInt32.size + 1) (chunkStart slice.positionBegin step)

end KvSlice

/-- A replica of a chunk, as the walk over the replicas visits it. -/
structure Replica where
  layer : UInt32
  position : UInt32
  loc : ChunkLoc
  node : FabricNode
  deriving DecidableEq

namespace KvTable

variable (table : KvTable) (slice : KvSlice)

/-- The chunks of a request, each layer after the other, whether the table has them or not. -/
def requestedChunks : Option (List (UInt32 × UInt32)) :=
  if table.chunkNTokens = 0 then some []
  else (slice.layers.mapM fun layer =>
    (slice.positions table.chunkNTokens).map (·.map fun pos => (layer, pos))).map List.flatten

/-- The replicas of a chunk; none where the table does not have it. -/
def replicasOf (slot : UInt32) (chunk : UInt32 × UInt32) : List Replica :=
  match table.lookup slot chunk.1 chunk.2 with
  | none => []
  | some loc => (table.deviceGroup loc.deviceGroupIndex).map fun node =>
    { layer := chunk.1, position := chunk.2, loc, node }

def requestedReplicas : Option (List Replica) :=
  (table.requestedChunks slice).map (·.flatMap (table.replicasOf slice.slot))

def addToPlan (host : String) (slot : UInt32) (plan : List ChunkPlan) (replica : Replica) :
    List ChunkPlan :=
  if table.hostOf replica.node ≠ host then plan
  else
    let target : ChunkTarget := {
      device := encodeDevice replica.node
      nocAddr := replica.loc.nocAddr
      sizeBytes := replica.loc.sizeBytes }
    match plan.getLast? with
    | none => [{ slot, layer := replica.layer, position := replica.position, targets := [target] }]
    | some current =>
      if current.layer ≠ replica.layer ∨ current.position ≠ replica.position then
        plan ++ [{
          slot, layer := replica.layer, position := replica.position, targets := [target] }]
      else plan.dropLast ++ [{ current with targets := current.targets ++ [target] }]

def buildHostPlan (host : String) (slice : KvSlice) : Option (List ChunkPlan) :=
  (table.requestedReplicas slice).map fun replicas =>
    replicas.foldl (table.addToPlan host slice.slot) []

/-- The first requested chunk that the table does not have. -/
def firstUnresolvedChunk : Option (Option (UInt32 × UInt32)) :=
  (table.requestedChunks slice).map fun chunks =>
    chunks.find? fun chunk => (table.lookup slice.slot chunk.1 chunk.2).isNone

/-- One host more of an ordered set. -/
def addHost (hosts : List String) (host : String) : List String :=
  if host.isEmpty ∨ host ∈ hosts then hosts else hosts.orderedInsert (· ≤ ·) host

def hostsForRequest : Option (List String) :=
  (table.requestedReplicas slice).map fun replicas =>
    replicas.foldl (fun hosts replica => addHost hosts (table.hostOf replica.node)) []

end KvTable

/-- The position is one that the slice addresses, counted without a bound. -/
def KvSlice.Addresses (slice : KvSlice) (step layer pos : UInt32) : Prop :=
  slice.layerBegin ≤ layer ∧ layer < slice.layerEnd ∧ ∃ ordinal : Nat,
    pos.toNat = (chunkStart slice.positionBegin step).toNat + ordinal * step.toNat ∧
      pos < slice.positionEnd

theorem KvSlice.mem_layers {slice : KvSlice} {layer : UInt32} :
    layer ∈ slice.layers ↔ slice.layerBegin ≤ layer ∧ layer < slice.layerEnd := by
  have bound := layer.toNat_lt
  simp only [layers, List.mem_map, List.mem_range'_1, UInt32.le_iff_toNat_le,
    UInt32.lt_iff_toNat_lt]
  constructor
  · rintro ⟨number, within, rfl⟩
    have fits : number < UInt32.size := by
      have last := slice.layerEnd.toNat_lt
      unfold UInt32.size
      omega
    rw [UInt32.toNat_ofNat_of_lt' fits]
    omega
  · rintro ⟨low, high⟩
    exact ⟨layer.toNat, by omega, UInt32.ofNat_toNat⟩

/-- A walk that ends has been at every position that the slice addresses. -/
theorem KvSlice.mem_positionsFrom {slice : KvSlice} {step : UInt32} : ∀ {fuel : Nat}
    {pos target : UInt32} {walked : List UInt32} (ordinal : Nat),
    slice.positionsFrom step fuel pos = some walked →
    target.toNat = pos.toNat + ordinal * step.toNat → target < slice.positionEnd →
    target ∈ walked := by
  intro fuel
  induction fuel with
  | zero =>
    intro pos target walked ordinal ended
    cases ended
  | succ fuel ih =>
    intro pos target walked ordinal ended place before
    have last := target.toNat_lt
    have inside : pos < slice.positionEnd := by
      rw [UInt32.lt_iff_toNat_lt] at before ⊢
      exact Nat.lt_of_le_of_lt (by omega) before
    rw [positionsFrom, if_pos inside] at ended
    obtain ⟨others, rest, rfl⟩ := Option.map_eq_some_iff.mp ended
    cases ordinal with
    | zero =>
      obtain rfl : target = pos := UInt32.toNat_inj.mp (by omega)
      exact List.mem_cons_self
    | succ ordinal =>
      rw [Nat.succ_mul] at place
      have forward : (pos + step).toNat = pos.toNat + step.toNat := by
        rw [UInt32.toNat_add]
        exact Nat.mod_eq_of_lt (by omega)
      exact List.mem_cons_of_mem _ (ih ordinal rest (by omega) before)

theorem KvTable.mem_requestedChunks {table : KvTable} {slice : KvSlice}
    {chunks : List (UInt32 × UInt32)} {layer pos : UInt32} (walking : table.chunkNTokens ≠ 0)
    (walked : table.requestedChunks slice = some chunks)
    (addressed : slice.Addresses table.chunkNTokens layer pos) : (layer, pos) ∈ chunks := by
  obtain ⟨low, high, ordinal, place, before⟩ := addressed
  have layered : layer ∈ slice.layers := KvSlice.mem_layers.mpr ⟨low, high⟩
  rw [requestedChunks, if_neg walking] at walked
  obtain ⟨parts, all, rfl⟩ := Option.map_eq_some_iff.mp walked
  cases ended : slice.positions table.chunkNTokens with
  | none =>
    cases known : slice.layers with
    | nil => rw [known] at layered; cases layered
    | cons first rest =>
      rw [known, ended] at all
      simp at all
  | some walked =>
    have steps : slice.layers.mapM (m := Option) (fun layer =>
        some (walked.map fun pos => (layer, pos))) =
          some (slice.layers.map fun layer => walked.map fun pos => (layer, pos)) :=
      List.mapM_pure (m := Option)
    rw [ended] at all
    obtain rfl := Option.some.inj (steps.symm.trans all)
    refine List.mem_flatten.mpr ⟨_, List.mem_map.mpr ⟨layer, layered, rfl⟩, ?_⟩
    exact List.mem_map.mpr ⟨pos, KvSlice.mem_positionsFrom ordinal ended place before, rfl⟩

end InferenceServer.Transport
