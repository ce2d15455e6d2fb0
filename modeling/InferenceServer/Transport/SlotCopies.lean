import InferenceServer.Transport.SlotPlacement

/-! A transfer that succeeds has copied the slot. What it does to the devices is written down once,
chunk by chunk, and the rest follows from where the chunks lie. -/
namespace InferenceServer.Transport

open Machine
open Migration (BounceGeometry)

section Transfer

variable {sender : MooncakeKvSender} {prefillTable decodeTable : KvTable}
variable {sort : List PlannedChunk → List PlannedChunk} {outcomes : TransferOutcomes}
variable {request : MigrationRequest} {geometry : BounceGeometry}
variable {prefill devices after : DeviceMemory} {staging : Nat → ByteMemory} {bounce : ByteMemory}
variable {prefillPlan plan : List ChunkPlan} {srcStart dstStart step device : UInt32}
  {sectionCap : Nat} {place : UInt64} {value : UInt8} {planned : List PlannedChunk}

/-- A transfer that succeeds has planned every chunk and written every segment. -/
theorem transferSlot_spec (prefillPresent : sender.prefillTable = some prefillTable)
    (decodePresent : sender.decodeTable = some decodeTable)
    (permutes : ∀ planned, (sort planned).Perm planned)
    (bounded : request.dstSlice.Bounded decodeTable.chunkNTokens)
    (fine : sender.transferSlot sort outcomes request geometry prefill devices staging bounce =
      some (true, after)) : ∃ decodePlan prefillPlan planned, ∃ sectionCap < UInt64.size,
      decodeTable.chunkNTokens ≠ 0 ∧
      decodeTable.buildHostPlan sender.decodeHost request.dstSlice = some decodePlan ∧
      prefillTable.buildHostPlan sender.prefillHost request.srcSlice = some prefillPlan ∧
      List.Forall₂ (Paired prefillPlan
        (chunkStart request.srcPositionBegin decodeTable.chunkNTokens)
        (chunkStart request.dstPositionBegin decodeTable.chunkNTokens)
        decodeTable.chunkNTokens sectionCap) decodePlan planned ∧ after = writeAll devices
        ((mergeSegments sectionCap (sort planned)).flatMap (segmentWrites prefill)) := by
  unfold MooncakeKvSender.transferSlot at fine
  rw [prefillPresent, decodePresent] at fine
  cases buffers : sender.bufferBytes with
  | none => simp [buffers] at fine
  | some bufferBytes =>
    simp only [buffers] at fine
    split at fine
    · cases fine
    split at fine
    · cases fine
    rename_i walking
    split at fine
    · cases fine
    obtain ⟨decodePlan, decodeBuilt, fine⟩ := Option.bind_eq_some_iff.mp fine
    split at fine
    · cases fine
    rename_i filled
    obtain ⟨prefillPlan, prefillBuilt, fine⟩ := Option.bind_eq_some_iff.mp fine
    split at fine
    · cases fine
    rename_i ok planned planning
    have entries : ∀ chunk ∈ decodePlan, chunk.targets ≠ [] := by
      obtain ⟨chunks, _, rfl⟩ := KvTable.buildHostPlan_spec walking bounded decodeBuilt
      intro chunk member
      obtain ⟨_, _, listed⟩ := List.mem_filterMap.mp member
      obtain ⟨some_, rfl⟩ := KvTable.planOf_spec.mp listed
      exact some_
    have capped : min geometry.sectionSize bufferBytes.toNat < UInt64.size :=
      Nat.lt_of_le_of_lt (Nat.min_le_right _ _) bufferBytes.toNat_lt
    split at fine
    · rename_i none_
      obtain ⟨rfl, -⟩ := Prod.mk.inj (Option.some.inj fine)
      have paired := planChunks_spec entries planning
      rw [none_, List.forall₂_nil_right_iff] at paired
      exact absurd paired filled
    · split at fine
      · cases fine
      obtain ⟨going, rfl⟩ := Prod.mk.inj (Option.some.inj fine)
      have flat := flatten_planWindows geometry.sectionCount bufferBytes.toNat
        (mergeSegments (min geometry.sectionSize bufferBytes.toNat) (sort planned))
      have sizes : ∀ seg ∈ (planWindows geometry.sectionCount bufferBytes.toNat
          (mergeSegments (min geometry.sectionSize bufferBytes.toNat) (sort planned))).flatten,
          seg.size ≤ geometry.sectionSize := by
        rw [flat]
        intro seg member
        refine Nat.le_trans (size_mergeSegments (fun pc listed => ?_) seg member)
          (Nat.min_le_left _ _)
        exact planChunks_capped planning pc ((permutes planned).mem_iff.mp listed)
      obtain ⟨rfl, written⟩ := runWindows_devices sizes going
      rw [flat] at written
      exact ⟨decodePlan, prefillPlan, planned, _, capped, walking, decodeBuilt, prefillBuilt,
        planChunks_spec entries planning, written⟩

/-- A planned chunk lands on the places of the replicas of its destination. -/
theorem Paired.lands {chunk : ChunkPlan} {pc : PlannedChunk}
    (paired : Paired prefillPlan srcStart dstStart step sectionCap chunk pc) :
    Lands prefill pc device place value ↔ ∃ source, findSource prefillPlan srcStart step
        (loKey chunk.layer ((chunk.position - dstStart) / step)) = some source ∧
      ∃ target ∈ chunk.targets, target.Covers device place ∧
        value = prefill source.device (source.nocAddr + (place - target.nocAddr)) := by
  obtain ⟨src, found, srcDevice, srcNoc, size, sizes⟩ := paired.source
  rw [Lands, paired.targets, size, srcDevice, srcNoc]
  constructor
  · rintro ⟨_, member, here, inside, rfl⟩
    obtain ⟨target, listed, rfl⟩ := List.mem_map.mp member
    exact ⟨src, found, target, listed, ⟨here, by rwa [sizes target listed]⟩, rfl⟩
  · rintro ⟨source, same, target, listed, ⟨here, inside⟩, rfl⟩
    obtain rfl := Option.some.inj (found.symm.trans same)
    exact ⟨_, List.mem_map.mpr ⟨target, listed, rfl⟩, here,
      by rwa [sizes target listed] at inside, rfl⟩

/-- What a list of chunks puts on the devices, when each of another list tells what one puts. -/
theorem landsOf_forall₂ {Plans : ChunkPlan → PlannedChunk → Prop} {Puts : ChunkPlan → Prop}
    (matched : List.Forall₂ Plans plan planned)
    (each : ∀ chunk pc, Plans chunk pc → (Lands prefill pc device place value ↔ Puts chunk)) :
    LandsOf prefill planned device place value ↔ ∃ chunk ∈ plan, Puts chunk := by
  induction matched with
  | nil => exact ⟨fun ⟨_, member, _⟩ => (nomatch member), fun ⟨_, member, _⟩ => (nomatch member)⟩
  | @cons chunk pc _ rest same _ ih =>
    rw [← List.singleton_append, landsOf_append, landsOf_singleton, ih, each chunk pc same]
    simp [or_and_right, exists_or]

/-- Every chunk of a plan has a source of its size. -/
theorem sources_of_forall₂
    (matched : List.Forall₂ (Paired prefillPlan srcStart dstStart step sectionCap) plan planned) :
    ∀ chunk ∈ plan, ∃ source, findSource prefillPlan srcStart step
        (loKey chunk.layer ((chunk.position - dstStart) / step)) = some source ∧
      ∀ target ∈ chunk.targets, target.sizeBytes = source.sizeBytes := by
  induction matched with
  | nil => exact nofun
  | cons same _ ih =>
    intro chunk member
    rcases List.mem_cons.mp member with rfl | later
    · obtain ⟨source, found, _, _, _, sizes⟩ := same.source
      exact ⟨source, found, sizes⟩
    · exact ih chunk later

/-- The value that a transfer has for a place: that of the source at the same distance. -/
def MooncakeKvSender.Sends (sender : MooncakeKvSender) (prefillTable decodeTable : KvTable)
    (request : MigrationRequest) (prefill : DeviceMemory) (device : UInt32) (place : UInt64)
    (value : UInt8) : Prop :=
  ∃ layer pos source target, request.dstSlice.Addresses decodeTable.chunkNTokens layer pos ∧
    sender.SourceOf prefillTable request decodeTable.chunkNTokens layer pos source ∧
    target ∈ decodeTable.targetsOn sender.decodeHost request.dstSlot (layer, pos) ∧
    target.Covers device place ∧
    value = prefill source.device (source.nocAddr + (place - target.nocAddr))

/-- A transfer that succeeds has a source of the same size for each replica of a destination chunk,
and what it writes is what it is to send. -/
theorem transferSlot_sends (prefillPresent : sender.prefillTable = some prefillTable)
    (decodePresent : sender.decodeTable = some decodeTable)
    (sameChunks : prefillTable.chunkNTokens = decodeTable.chunkNTokens)
    (permutes : ∀ planned, (sort planned).Perm planned)
    (srcBounded : request.srcSlice.Bounded decodeTable.chunkNTokens)
    (dstBounded : request.dstSlice.Bounded decodeTable.chunkNTokens)
    (fine : sender.transferSlot sort outcomes request geometry prefill devices staging bounce =
      some (true, after)) : decodeTable.chunkNTokens ≠ 0 ∧
    (∀ layer pos, request.dstSlice.Addresses decodeTable.chunkNTokens layer pos →
      ∀ target ∈ decodeTable.targetsOn sender.decodeHost request.dstSlot (layer, pos),
      ∃ source, sender.SourceOf prefillTable request decodeTable.chunkNTokens layer pos source ∧
        target.sizeBytes = source.sizeBytes) ∧
    ∃ writes, after = writeAll devices writes ∧ ∀ device place value,
      (∃ put ∈ writes, Puts put device place value) ↔
        sender.Sends prefillTable decodeTable request prefill device place value := by
  obtain ⟨decodePlan, prefillPlan, planned, sectionCap, capped, walking, decodeBuilt, prefillBuilt,
    paired, written⟩ := transferSlot_spec prefillPresent decodePresent permutes dstBounded fine
  obtain ⟨chunks, walked, rfl⟩ := KvTable.buildHostPlan_spec walking dstBounded decodeBuilt
  have sourceOf : ∀ {layer pos source}, request.dstSlice.Addresses decodeTable.chunkNTokens layer pos →
      findSource prefillPlan (chunkStart request.srcPositionBegin decodeTable.chunkNTokens)
        decodeTable.chunkNTokens (loKey layer ((pos -
          chunkStart request.dstPositionBegin decodeTable.chunkNTokens) /
            decodeTable.chunkNTokens)) = some source →
      sender.SourceOf prefillTable request decodeTable.chunkNTokens layer pos source := by
    rintro layer pos source ⟨_, _, ordinal, place, _⟩ found
    rw [← sameChunks] at walking srcBounded place found ⊢
    exact findSource_spec walking srcBounded prefillBuilt place found
  have planEntry : ∀ {layer pos target}, request.dstSlice.Addresses decodeTable.chunkNTokens layer pos →
      target ∈ decodeTable.targetsOn sender.decodeHost request.dstSlot (layer, pos) →
      (⟨request.dstSlot, layer, pos,
        decodeTable.targetsOn sender.decodeHost request.dstSlot (layer, pos)⟩ : ChunkPlan) ∈
        chunks.filterMap (decodeTable.planOf sender.decodeHost request.dstSlice.slot) := by
    intro layer pos target addressed member
    refine List.mem_filterMap.mpr
      ⟨(layer, pos), KvTable.mem_requestedChunks walking walked addressed, ?_⟩
    exact KvTable.planOf_spec.mpr ⟨List.ne_nil_of_mem member, rfl⟩
  refine ⟨walking, fun layer pos addressed target member => ?_, _, written, ?_⟩
  · obtain ⟨source, found, sizes⟩ := sources_of_forall₂ paired _ (planEntry addressed member)
    exact ⟨source, sourceOf addressed found, sizes target member⟩
  · intro device place value
    have sorted : LandsOf prefill (sort planned) device place value ↔
        LandsOf prefill planned device place value := by
      simp only [LandsOf, (permutes planned).mem_iff]
    rw [puts_segments, landsOf_mergeSegments capped, sorted,
      landsOf_forall₂ paired fun _ _ same => same.lands]
    constructor
    · rintro ⟨chunk, member, source, found, target, listed, covers, rfl⟩
      obtain ⟨key, visited, entry⟩ := List.mem_filterMap.mp member
      obtain ⟨_, rfl⟩ := KvTable.planOf_spec.mp entry
      have addressed := (KvTable.requestedChunks_spec walking dstBounded walked).2 key visited
      exact ⟨key.1, key.2, source, target, addressed, sourceOf addressed found, listed, covers, rfl⟩
    · rintro ⟨layer, pos, source, target, addressed, ordinal, listed, covers, rfl⟩
      obtain ⟨other, found, _⟩ := sources_of_forall₂ paired _ (planEntry addressed listed)
      obtain rfl := ordinal.unique walking (sourceOf addressed found)
      exact ⟨_, planEntry addressed listed, source, found, target, listed, covers, rfl⟩

/-- A transfer that succeeds has copied to every replica of a destination chunk the source chunk
with its ordinal, and has changed nothing else, where the destination chunks do not overlap. -/
theorem transferSlot_copies (prefillPresent : sender.prefillTable = some prefillTable)
    (decodePresent : sender.decodeTable = some decodeTable)
    (sameChunks : prefillTable.chunkNTokens = decodeTable.chunkNTokens)
    (permutes : ∀ planned, (sort planned).Perm planned)
    (srcBounded : request.srcSlice.Bounded decodeTable.chunkNTokens)
    (dstBounded : request.dstSlice.Bounded decodeTable.chunkNTokens)
    (apart : decodeTable.ChunksApart sender.decodeHost request.dstSlice)
    (fine : sender.transferSlot sort outcomes request geometry prefill devices staging bounce =
      some (true, after)) :
    (∀ layer pos, request.dstSlice.Addresses decodeTable.chunkNTokens layer pos →
      ∀ target ∈ decodeTable.targetsOn sender.decodeHost request.dstSlot (layer, pos),
      ∃ source, sender.SourceOf prefillTable request decodeTable.chunkNTokens layer pos source ∧
        target.sizeBytes = source.sizeBytes ∧
        after.read target.device target.nocAddr target.sizeBytes.toNat =
          prefill.read source.device source.nocAddr source.sizeBytes.toNat) ∧
    ∀ device place, (∀ layer pos,
        request.dstSlice.Addresses decodeTable.chunkNTokens layer pos →
        ∀ target ∈ decodeTable.targetsOn sender.decodeHost request.dstSlot (layer, pos),
          ¬ target.Covers device place) →
      after device place = devices device place := by
  obtain ⟨walking, sources, writes, rfl, sends⟩ := transferSlot_sends prefillPresent decodePresent
    sameChunks permutes srcBounded dstBounded fine
  constructor
  · intro layer pos addressed target member
    obtain ⟨source, ordinal, sizes⟩ := sources layer pos addressed target member
    refine ⟨source, ordinal, sizes, ?_⟩
    rw [← sizes]
    refine List.map_congr_left fun index within => ?_
    have inside := List.mem_range.mp within
    have distance : target.nocAddr + UInt64.ofNat index - target.nocAddr = UInt64.ofNat index := by
      rw [UInt64.add_comm, UInt64.add_sub_cancel]
    have covers : target.Covers target.device (target.nocAddr + UInt64.ofNat index) := by
      refine ⟨rfl, ?_⟩
      rw [distance, UInt64.toNat_ofNat_of_lt' (Nat.lt_trans inside target.sizeBytes.toNat_lt)]
      exact inside
    refine writeAll_agree (fun put listed value puts => ?_) (.inr ?_)
    · obtain ⟨otherLayer, otherPos, otherSource, other, otherAddressed, otherOrdinal, otherMember,
        otherCovers, rfl⟩ := (sends _ _ _).mp ⟨put, listed, puts⟩
      obtain ⟨rfl, rfl⟩ := apart layer pos otherLayer otherPos addressed otherAddressed target member
        other otherMember _ _ covers otherCovers
      obtain rfl := ordinal.unique walking otherOrdinal
      obtain ⟨loc, _, found, _, _, rfl⟩ := KvTable.mem_targetsOn.mp member
      obtain ⟨_, _, same, _, _, rfl⟩ := KvTable.mem_targetsOn.mp otherMember
      obtain rfl := Option.some.inj (found.symm.trans same)
      rw [distance]
    · refine (sends _ _ _).mpr ⟨layer, pos, source, target, addressed, ordinal, member, covers, ?_⟩
      rw [distance]
  · intro device place uncovered
    refine writeAll_elsewhere fun put listed value puts => ?_
    obtain ⟨layer, pos, _, target, addressed, _, member, covers, _⟩ :=
      (sends _ _ _).mp ⟨put, listed, puts⟩
    exact uncovered layer pos addressed target member covers

end Transfer

/-- A table of one slot with two chunks of two tokens of a byte each, the second where it says. -/
def twoChunks (host : String) (second : UInt64) : KvTable where
  chunkNTokens := 2
  deviceGroup := fun _ => [⟨0, 0⟩]
  hostOf := fun _ => host
  lookup := fun _ _ pos =>
    if pos = 0 then some ⟨0, 2, 0⟩ else if pos = 2 then some ⟨second, 2, 0⟩ else none

def twoChunksSender (second : UInt64) : MooncakeKvSender where
  prefillTable := some (twoChunks "prefill" 2)
  decodeTable := some (twoChunks "decode" second)
  prefillHost := "prefill"
  decodeHost := "decode"
  bufferBytes := some 64

def sortBySource (planned : List PlannedChunk) : List PlannedChunk :=
  planned.insertionSort fun pc other =>
    pc.srcDevice < other.srcDevice ∨ (pc.srcDevice = other.srcDevice ∧ pc.srcNoc ≤ other.srcNoc)

def allFine : TransferOutcomes where
  opened := true
  read := fun _ _ => true
  submitted := fun _ => true
  completed := fun _ => true
  placedEarly := fun _ _ => true
  deviceWrite := fun _ _ _ => true
  acked := fun _ => true

/-- The tokens of the source are 10 to 13. -/
def fourTokens : DeviceMemory := fun _ place => 10 + place.toUInt8

def sendTwoChunks (second : UInt64) (request : MigrationRequest) : Option (Bool × DeviceMemory) :=
  (twoChunksSender second).transferSlot sortBySource allFine request
    { sectionCount := 2, sectionSize := 4 } fourTokens
    (fun _ _ => 0) (fun _ _ => 0) (fun _ => 0)

/-- Both ranges have two chunks, but only the source starts inside one. -/
def shiftedRequest : MigrationRequest :=
  { layerEnd := 1, srcPositionBegin := 1, srcPositionEnd := 4, dstPositionEnd := 3 }

theorem shifted_addresses {layer pos : UInt32} (addressed : shiftedRequest.dstSlice.Addresses 2 layer pos) :
    layer = 0 ∧ (pos = 0 ∨ pos = 2) := by
  obtain ⟨_, first, ordinal, place, before⟩ := addressed
  rw [show (chunkStart shiftedRequest.dstSlice.positionBegin 2).toNat = 0 from rfl,
    show (2 : UInt32).toNat = 2 from rfl] at place
  rw [UInt32.lt_iff_toNat_lt] at first before
  change layer.toNat < 1 at first
  change pos.toNat < 3 at before
  refine ⟨UInt32.toNat_inj.mp (Nat.lt_one_iff.mp first), ?_⟩
  rcases (by omega : pos.toNat = 0 ∨ pos.toNat = 2) with zero | two
  · exact .inl (UInt32.toNat_inj.mp zero)
  · exact .inr (UInt32.toNat_inj.mp two)

/-- Chunks at places 0 and 2 that are two bytes large lie apart. -/
theorem shifted_chunksApart :
    (twoChunks "decode" 2).ChunksApart "decode" shiftedRequest.dstSlice := by
  intro layer pos otherLayer otherPos addressed otherAddressed target member other otherMember
    device place covers otherCovers
  obtain ⟨rfl, positions⟩ := shifted_addresses addressed
  obtain ⟨rfl, otherPositions⟩ := shifted_addresses otherAddressed
  refine ⟨rfl, ?_⟩
  have targets : (twoChunks "decode" 2).targetsOn "decode" 0 (0, 0) = [⟨0, 0, 2⟩] ∧
      (twoChunks "decode" 2).targetsOn "decode" 0 (0, 2) = [⟨0, 2, 2⟩] := by decide
  have disjoint : ¬ ((place - 0).toNat < 2 ∧ (place - 2).toNat < 2) := by
    rw [UInt64.toNat_sub, UInt64.toNat_sub, show (0 : UInt64).toNat = 0 from rfl,
      show (2 : UInt64).toNat = 2 from rfl]
    have bound := place.toNat_lt
    omega
  change target ∈ (twoChunks "decode" 2).targetsOn "decode" 0 (0, pos) at member
  change other ∈ (twoChunks "decode" 2).targetsOn "decode" 0 (0, otherPos) at otherMember
  rcases positions with rfl | rfl <;> rcases otherPositions with rfl | rfl
  · rfl
  · rw [targets.1, List.mem_singleton] at member
    rw [targets.2, List.mem_singleton] at otherMember
    subst member otherMember
    exact absurd ⟨covers.2, otherCovers.2⟩ disjoint
  · rw [targets.2, List.mem_singleton] at member
    rw [targets.1, List.mem_singleton] at otherMember
    subst member otherMember
    exact absurd ⟨otherCovers.2, covers.2⟩ disjoint
  · rfl

theorem shifted_succeeds : (sendTwoChunks 2 shiftedRequest).map Prod.fst = some true := by
  decide +kernel

/-- The transfer of two chunks that overlap in nothing. -/
theorem transferSlot_copies_shifted : ∃ after, sendTwoChunks 2 shiftedRequest = some (true, after) ∧
    ((∀ layer pos, shiftedRequest.dstSlice.Addresses 2 layer pos →
      ∀ target ∈ (twoChunks "decode" 2).targetsOn "decode" 0 (layer, pos),
      ∃ source, (twoChunksSender 2).SourceOf (twoChunks "prefill" 2) shiftedRequest 2 layer pos
          source ∧
        target.sizeBytes = source.sizeBytes ∧
        after.read target.device target.nocAddr target.sizeBytes.toNat =
          fourTokens.read source.device source.nocAddr source.sizeBytes.toNat) ∧
    ∀ device place, (∀ layer pos, shiftedRequest.dstSlice.Addresses 2 layer pos →
        ∀ target ∈ (twoChunks "decode" 2).targetsOn "decode" 0 (layer, pos),
          ¬ target.Covers device place) → after device place = 0) := by
  obtain ⟨⟨ok, after⟩, ran, rfl⟩ := Option.map_eq_some_iff.mp shifted_succeeds
  have prefillPresent : (twoChunksSender 2).prefillTable = some (twoChunks "prefill" 2) := rfl
  have decodePresent : (twoChunksSender 2).decodeTable = some (twoChunks "decode" 2) := rfl
  have srcBounded : shiftedRequest.srcSlice.Bounded (twoChunks "decode" 2).chunkNTokens := by
    unfold KvSlice.Bounded
    decide
  have dstBounded : shiftedRequest.dstSlice.Bounded (twoChunks "decode" 2).chunkNTokens := by
    unfold KvSlice.Bounded
    decide
  exact ⟨after, ran, transferSlot_copies prefillPresent decodePresent rfl
    (fun planned => List.perm_insertionSort _ planned) srcBounded dstBounded shifted_chunksApart
    ran⟩

/-- The replicas of a position of the destination range have the chunk of the source position at
the same distance from its start. -/
def CopiesByPosition (sender : MooncakeKvSender) (prefillTable decodeTable : KvTable)
    (request : MigrationRequest) (prefill after : DeviceMemory) : Prop :=
  ∀ layer i, request.layerBegin ≤ layer → layer < request.layerEnd →
    i < request.dstPositionEnd - request.dstPositionBegin →
    ∀ target ∈ decodeTable.targetsOn sender.decodeHost request.dstSlot
      (layer, chunkStart (request.dstPositionBegin + i) decodeTable.chunkNTokens),
    ∃ source ∈ prefillTable.targetsOn sender.prefillHost request.srcSlot
      (layer, chunkStart (request.srcPositionBegin + i) prefillTable.chunkNTokens),
      after.read target.device target.nocAddr target.sizeBytes.toNat =
        prefill.read source.device source.nocAddr source.sizeBytes.toNat

def alignedRequest : MigrationRequest := { layerEnd := 1, srcPositionEnd := 4, dstPositionEnd := 4 }

/-- Ranges that start at different places of a chunk, and chunks of the decode table that overlap:
both transfers succeed, and a position does not have what the source has for it. -/
theorem not_copiesByPosition :
    (∃ after, sendTwoChunks 2 shiftedRequest = some (true, after) ∧
      ¬ CopiesByPosition (twoChunksSender 2) (twoChunks "prefill" 2) (twoChunks "decode" 2)
        shiftedRequest fourTokens after) ∧
    ∃ after, sendTwoChunks 0 alignedRequest = some (true, after) ∧
      ¬ CopiesByPosition (twoChunksSender 0) (twoChunks "prefill" 2) (twoChunks "decode" 0)
        alignedRequest fourTokens after := by
  constructor
  · have result : (sendTwoChunks 2 shiftedRequest).map (fun r => (r.1, r.2.read 0 0 2)) =
        some (true, [10, 11]) := by decide +kernel
    obtain ⟨⟨ok, after⟩, ran, same⟩ := Option.map_eq_some_iff.mp result
    obtain ⟨rfl, bytes⟩ := Prod.mk.inj same
    refine ⟨after, ran, fun copies => ?_⟩
    -- the token at offset 1 is in the second chunk of the source and the first of the destination
    obtain ⟨source, member, copied⟩ :=
      copies 0 1 (by decide) (by decide) (by decide) ⟨0, 0, 2⟩ (by decide)
    have second : (twoChunks "prefill" 2).targetsOn "prefill" 0 (0, 2) = [⟨0, 2, 2⟩] := by decide
    change source ∈ (twoChunks "prefill" 2).targetsOn "prefill" 0 (0, 2) at member
    rw [second, List.mem_singleton] at member
    subst member
    exact absurd (bytes.symm.trans copied) (by decide)
  · have result : (sendTwoChunks 0 alignedRequest).map (fun r => (r.1, r.2.read 0 0 2)) =
        some (true, [12, 13]) := by decide +kernel
    obtain ⟨⟨ok, after⟩, ran, same⟩ := Option.map_eq_some_iff.mp result
    obtain ⟨rfl, bytes⟩ := Prod.mk.inj same
    refine ⟨after, ran, fun copies => ?_⟩
    -- both chunks went to the same place, the second after the first
    obtain ⟨source, member, copied⟩ :=
      copies 0 0 (by decide) (by decide) (by decide) ⟨0, 0, 2⟩ (by decide)
    have first : (twoChunks "prefill" 2).targetsOn "prefill" 0 (0, 0) = [⟨0, 0, 2⟩] := by decide
    change source ∈ (twoChunks "prefill" 2).targetsOn "prefill" 0 (0, 0) at member
    rw [first, List.mem_singleton] at member
    subst member
    exact absurd (bytes.symm.trans copied) (by decide)

end InferenceServer.Transport
