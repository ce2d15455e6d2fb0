import InferenceServer.Transport.HostPlan
import InferenceServer.Transport.TransferPipeline

/-! What merging and the windows keep. The bytes that a list of chunks puts on the devices of the
decode host are the same when runs of them are merged, and the windows hold the segments in their
order. A segment is never larger than a section. -/
namespace InferenceServer.Transport

open Machine

/-- A chunk puts the value of its source at this place of a device. -/
def Lands (prefill : DeviceMemory) (pc : PlannedChunk) (device : UInt32) (place : UInt64)
    (value : UInt8) : Prop :=
  ∃ t ∈ pc.targets, device = t.device ∧ (place - t.nocAddr).toNat < pc.size ∧
    value = prefill pc.srcDevice (pc.srcNoc + (place - t.nocAddr))

/-- A run that is extended lands where its parts do. -/
theorem lands_extend {prefill : DeviceMemory} {sectionCap : Nat} {seg pc : PlannedChunk}
    {device : UInt32} {place : UInt64} {value : UInt8} (capped : sectionCap < UInt64.size)
    (follows : canExtend sectionCap seg pc) :
    Lands prefill { seg with size := seg.size + pc.size } device place value ↔
      Lands prefill seg device place value ∨ Lands prefill pc device place value := by
  obtain ⟨srcDevice, srcNoc, targets, fits⟩ := follows
  have small : seg.size + pc.size < UInt64.size := by omega
  have length : (UInt64.ofNat seg.size).toNat = seg.size :=
    UInt64.toNat_ofNat_of_lt' (by omega)
  have shifted : ∀ nocAddr, place - (nocAddr + UInt64.ofNat seg.size) =
      place - nocAddr - UInt64.ofNat seg.size := fun nocAddr => by
    rw [UInt64.sub_eq_iff_eq_add, UInt64.add_comm nocAddr, ← UInt64.add_assoc,
      UInt64.sub_add_cancel, UInt64.sub_add_cancel]
  have source : ∀ offset : UInt64, pc.srcNoc + (offset - UInt64.ofNat seg.size) =
      seg.srcNoc + offset := fun offset => by
    rw [← srcNoc, UInt64.add_assoc, UInt64.add_comm (UInt64.ofNat seg.size),
      UInt64.sub_add_cancel]
  constructor
  · rintro ⟨t, member, rfl, inside, rfl⟩
    by_cases first : (place - t.nocAddr).toNat < seg.size
    · exact .inl ⟨t, member, rfl, first, rfl⟩
    · refine .inr ⟨⟨t.device, t.nocAddr + UInt64.ofNat seg.size⟩,
        targets ▸ List.mem_map.mpr ⟨t, member, rfl⟩, rfl, ?_, ?_⟩
      · have less : UInt64.ofNat seg.size ≤ place - t.nocAddr := by
          rw [UInt64.le_iff_toNat_le, length]
          omega
        rw [shifted, UInt64.toNat_sub_of_le _ _ less, length]
        dsimp only at inside
        omega
      · rw [shifted, source, srcDevice]
  · rintro (⟨t, member, rfl, inside, rfl⟩ | ⟨u, member, rfl, inside, rfl⟩)
    · exact ⟨t, member, rfl, Nat.lt_add_right _ inside, rfl⟩
    · rw [← targets] at member
      obtain ⟨t, base, rfl⟩ := List.mem_map.mp member
      refine ⟨t, base, rfl, ?_, by rw [shifted, source, srcDevice]⟩
      rw [shifted] at inside
      have whole : place - t.nocAddr =
          (place - t.nocAddr - UInt64.ofNat seg.size) + UInt64.ofNat seg.size := by
        rw [UInt64.sub_add_cancel]
      have bound := (place - t.nocAddr - UInt64.ofNat seg.size).toNat_lt
      rw [whole, UInt64.toNat_add, length]
      unfold UInt64.size at small
      rw [Nat.mod_eq_of_lt (by omega)]
      dsimp only
      omega

/-- What a list of chunks puts on the devices. -/
def LandsOf (prefill : DeviceMemory) (chunks : List PlannedChunk) (device : UInt32)
    (place : UInt64) (value : UInt8) : Prop :=
  ∃ pc ∈ chunks, Lands prefill pc device place value

section Merging

variable {prefill : DeviceMemory} {sectionCap : Nat} {device : UInt32} {place : UInt64}
variable {value : UInt8}

theorem landsOf_append {first second : List PlannedChunk} :
    LandsOf prefill (first ++ second) device place value ↔
      LandsOf prefill first device place value ∨ LandsOf prefill second device place value := by
  simp [LandsOf, or_and_right, exists_or]

theorem landsOf_singleton {pc : PlannedChunk} :
    LandsOf prefill [pc] device place value ↔ Lands prefill pc device place value := by
  simp only [LandsOf, List.mem_singleton, exists_eq_left]

theorem landsOf_addSegment (capped : sectionCap < UInt64.size) (segments : List Segment)
    (pc : PlannedChunk) : LandsOf prefill (addSegment sectionCap segments pc) device place value ↔
      LandsOf prefill (segments ++ [pc]) device place value := by
  unfold addSegment
  split
  · rename_i none_
    rw [List.getLast?_eq_none_iff.mp none_, List.nil_append]
  · rename_i back last
    split
    · rename_i follows
      obtain ⟨front, rfl⟩ := List.getLast?_eq_some_iff.mp last
      rw [List.dropLast_concat, landsOf_append, landsOf_append, landsOf_append, landsOf_singleton,
        landsOf_singleton, landsOf_singleton, lands_extend capped follows, or_assoc]
    · rfl

/-- Merging changes nothing of what lands. -/
theorem landsOf_mergeSegments (capped : sectionCap < UInt64.size) (planned : List PlannedChunk) :
    LandsOf prefill (mergeSegments sectionCap planned) device place value ↔
      LandsOf prefill planned device place value := by
  suffices grown : ∀ segments : List Segment,
      LandsOf prefill (planned.foldl (addSegment sectionCap) segments) device place value ↔
        LandsOf prefill (segments ++ planned) device place value from grown []
  induction planned with
  | nil =>
    intro segments
    rw [List.append_nil]
    rfl
  | cons pc rest ih =>
    intro segments
    rw [List.foldl_cons, ih, landsOf_append, landsOf_addSegment capped, ← landsOf_append,
      List.append_assoc, List.singleton_append]

/-- No segment is larger than the cap when no chunk is. -/
theorem size_mergeSegments {planned : List PlannedChunk}
    (sizes : ∀ pc ∈ planned, pc.size ≤ sectionCap) :
    ∀ seg ∈ mergeSegments sectionCap planned, seg.size ≤ sectionCap := by
  suffices grown : ∀ segments : List Segment, (∀ seg ∈ segments, seg.size ≤ sectionCap) →
      ∀ seg ∈ planned.foldl (addSegment sectionCap) segments, seg.size ≤ sectionCap from
    grown [] nofun
  induction planned with
  | nil => exact fun segments small => small
  | cons pc rest ih =>
    intro segments small
    refine ih (fun other member => sizes other (List.mem_cons_of_mem _ member)) _ ?_
    have appended : ∀ seg ∈ segments ++ [pc], seg.size ≤ sectionCap := by
      intro seg member
      rcases List.mem_append.mp member with earlier | new
      · exact small seg earlier
      · obtain rfl := List.mem_singleton.mp new
        exact sizes _ List.mem_cons_self
    intro seg member
    unfold addSegment at member
    split at member
    · exact appended seg (List.mem_append_right _ member)
    · split at member
      · rename_i follows
        rcases List.mem_append.mp member with earlier | new
        · exact small seg (List.dropLast_subset _ earlier)
        · obtain rfl := List.mem_singleton.mp new
          exact follows.2.2.2
      · exact appended seg member

end Merging

/-- The windows hold the segments in their order. -/
theorem flatten_planWindows (sectionCount bufBytes : Nat) (segments : List Segment) :
    (planWindows sectionCount bufBytes segments).flatten = segments := by
  suffices grown : ∀ windows : List (List Segment),
      (segments.foldl (addToWindows sectionCount bufBytes) windows).flatten =
        windows.flatten ++ segments from grown []
  induction segments with
  | nil =>
    intro windows
    rw [List.append_nil]
    rfl
  | cons seg rest ih =>
    intro windows
    have added : (addToWindows sectionCount bufBytes windows seg).flatten =
        windows.flatten ++ [seg] := by
      unfold addToWindows
      split
      · rename_i none_
        rw [List.getLast?_eq_none_iff.mp none_]
        rfl
      · rename_i back last
        obtain ⟨front, rfl⟩ := List.getLast?_eq_some_iff.mp last
        split
        · rw [List.flatten_append, List.flatten_singleton]
        · rw [List.dropLast_concat, List.flatten_append, List.flatten_append,
            List.flatten_singleton, List.flatten_singleton, List.append_assoc]
    rw [List.foldl_cons, ih, added, List.append_assoc, List.singleton_append]

end InferenceServer.Transport

/-! Where a transfer puts what. Source and destination ranges are both snapped down to the start
of a chunk and paired chunk by chunk from there; when the transfer succeeds, every replica of a
destination chunk on the decode host holds the bytes of the source chunk with the same ordinal,
and the devices are as they were outside these chunks. -/
namespace InferenceServer.Transport

open Machine
open Migration (BounceGeometry)

/-- The place of a device is one that the data covers, with this value. -/
def Puts (put : DrainTarget × List UInt8) (device : UInt32) (place : UInt64) (value : UInt8) :
    Prop :=
  device = put.1.device ∧ put.2[(place - put.1.nocAddr).toNat]? = some value

section Writes

variable {devices : DeviceMemory} {put : DrainTarget × List UInt8} {device : UInt32}
variable {place : UInt64} {value : UInt8}

theorem write_of_puts (puts : Puts put device place value) :
    devices.write put.1 put.2 device place = value := by
  rw [DeviceMemory.write, if_pos puts.1, List.getD_eq_getElem?_getD, puts.2, Option.getD_some]

theorem write_elsewhere (none_ : ∀ value, ¬ Puts put device place value) :
    devices.write put.1 put.2 device place = devices device place := by
  unfold DeviceMemory.write
  split
  · rename_i same
    cases found : put.2[(place - put.1.nocAddr).toNat]? with
    | none => rw [List.getD_eq_getElem?_getD, found, Option.getD_none]
    | some value => exact absurd ⟨same, found⟩ (none_ value)
  · rfl

theorem writeAll_elsewhere {writes : List (DrainTarget × List UInt8)}
    (none_ : ∀ put ∈ writes, ∀ value, ¬ Puts put device place value) :
    writeAll devices writes device place = devices device place := by
  induction writes generalizing devices with
  | nil => rfl
  | cons put rest ih =>
    have later := @ih (devices.write put.1 put.2)
      fun other member => none_ other (List.mem_cons_of_mem _ member)
    exact later.trans (write_elsewhere (none_ put List.mem_cons_self))

/-- Writes that agree on a place leave it with their value, whatever their order. -/
theorem writeAll_agree {writes : List (DrainTarget × List UInt8)}
    (agree : ∀ put ∈ writes, ∀ other, Puts put device place other → other = value)
    (covered : devices device place = value ∨ ∃ put ∈ writes, Puts put device place value) :
    writeAll devices writes device place = value := by
  induction writes generalizing devices with
  | nil => exact covered.resolve_right fun ⟨_, member, _⟩ => nomatch member
  | cons put rest ih =>
    refine ih (fun other member => agree other (List.mem_cons_of_mem _ member)) ?_
    by_cases here : ∃ other, Puts put device place other
    · obtain ⟨other, puts⟩ := here
      obtain rfl := agree put List.mem_cons_self other puts
      exact .inl (write_of_puts puts)
    · rw [not_exists] at here
      rcases covered with before | ⟨other, member, puts⟩
      · exact .inl ((write_elsewhere here).trans before)
      · rcases List.mem_cons.mp member with rfl | later
        · exact absurd puts (here value)
        · exact .inr ⟨other, later, puts⟩

end Writes

variable {prefill : DeviceMemory} {device srcStart dstStart step layer dstPos : UInt32}
  {place : UInt64} {value : UInt8} {prefillPlan plan : List ChunkPlan} {sectionCap ordinal : Nat}
  {sender : MooncakeKvSender} {table : KvTable} {request : MigrationRequest} {source : ChunkTarget}

/-- The writes of a segment put its bytes where it lands. -/
theorem puts_segmentWrites {seg : Segment} :
    (∃ put ∈ segmentWrites prefill seg, Puts put device place value) ↔
      Lands prefill seg device place value := by
  have byte : ∀ (t : DrainTarget),
      (prefill.read seg.srcDevice seg.srcNoc seg.size)[(place - t.nocAddr).toNat]? = some value ↔
        (place - t.nocAddr).toNat < seg.size ∧
          value = prefill seg.srcDevice (seg.srcNoc + (place - t.nocAddr)) := by
    intro t
    by_cases inside : (place - t.nocAddr).toNat < seg.size
    · rw [DeviceMemory.read, List.getElem?_map, List.getElem?_range inside, Option.map_some,
        UInt64.ofNat_toNat, Option.some.injEq]
      exact ⟨fun same => ⟨inside, same.symm⟩, fun same => same.2.symm⟩
    · rw [List.getElem?_eq_none (by rw [length_deviceRead]; omega)]
      exact ⟨by rintro ⟨⟩, fun outside => absurd outside.1 inside⟩
  constructor
  · rintro ⟨_, member, same, found⟩
    obtain ⟨t, target, rfl⟩ := List.mem_map.mp member
    exact ⟨t, target, same, (byte t).mp found⟩
  · rintro ⟨t, target, same, found⟩
    exact ⟨_, List.mem_map.mpr ⟨t, target, rfl⟩, same, (byte t).mpr found⟩

theorem puts_segments {segments : List Segment} :
    (∃ put ∈ segments.flatMap (segmentWrites prefill), Puts put device place value) ↔
      LandsOf prefill segments device place value := by
  constructor
  · rintro ⟨put, member, puts⟩
    obtain ⟨seg, listed, inner⟩ := List.mem_flatMap.mp member
    exact ⟨seg, listed, puts_segmentWrites.mp ⟨put, inner, puts⟩⟩
  · rintro ⟨seg, listed, lands⟩
    obtain ⟨put, inner, puts⟩ := puts_segmentWrites.mpr lands
    exact ⟨put, List.mem_flatMap.mpr ⟨seg, listed, inner⟩, puts⟩

/-- A chunk of the decode plan with what it is planned as. -/
structure Paired (prefillPlan : List ChunkPlan) (srcStart dstStart step : UInt32)
    (sectionCap : Nat) (chunk : ChunkPlan) (pc : PlannedChunk) : Prop where
  targets : pc.targets = chunk.targets.map fun dst => ⟨dst.device, dst.nocAddr⟩
  capped : pc.size ≤ sectionCap
  source : ∃ src, findSource prefillPlan srcStart step
      (loKey chunk.layer ((chunk.position - dstStart) / step)) = some src ∧
    pc.srcDevice = src.device ∧ pc.srcNoc = src.nocAddr ∧ pc.size = src.sizeBytes.toNat ∧
      ∀ t ∈ chunk.targets, t.sizeBytes = src.sizeBytes

/-- Planning that succeeds leaves no chunk out and no replica of one. -/
theorem planChunks_spec (filled : ∀ chunk ∈ plan, chunk.targets ≠ []) :
    ∀ {planned : List PlannedChunk},
      planChunks prefillPlan srcStart dstStart step sectionCap plan = some (true, planned) →
      List.Forall₂ (Paired prefillPlan srcStart dstStart step sectionCap) plan planned := by
  induction plan with
  | nil =>
    intro planned ran
    cases ran
    exact .nil
  | cons chunk rest ih =>
    intro planned ran
    rw [planChunks] at ran
    cases found : findSource prefillPlan srcStart step
        (loKey chunk.layer ((chunk.position - dstStart) / step)) with
    | none =>
      simp only [found] at ran
      obtain ⟨_, _, false_⟩ := Option.map_eq_some_iff.mp ran
      cases congrArg Prod.fst false_
    | some src =>
      simp only [found] at ran
      split at ran
      · cases ran
      · rename_i small
        obtain ⟨⟨ok, others⟩, later, same⟩ := Option.map_eq_some_iff.mp ran
        obtain ⟨fine, rfl⟩ := Prod.mk.inj same
        obtain ⟨sizes, rfl⟩ := Bool.and_eq_true_iff.mp fine
        rw [List.all_eq_true] at sizes
        have matching : chunk.targets.filter (·.sizeBytes = src.sizeBytes) = chunk.targets :=
          List.filter_eq_self.mpr sizes
        rw [matching, if_neg (filled chunk List.mem_cons_self)]
        refine .cons ⟨rfl, Nat.le_of_not_lt small, src, found, rfl, rfl, rfl, fun t member => ?_⟩
          (ih (fun other member => filled other (List.mem_cons_of_mem _ member)) later)
        exact of_decide_eq_true (sizes t member)

/-- No chunk that is planned is larger than a section. -/
theorem planChunks_capped : ∀ {result : Bool × List PlannedChunk},
      planChunks prefillPlan srcStart dstStart step sectionCap plan = some result →
      ∀ pc ∈ result.2, pc.size ≤ sectionCap := by
  induction plan with
  | nil =>
    intro result ran
    cases ran
    exact nofun
  | cons chunk rest ih =>
    intro result ran
    rw [planChunks] at ran
    split at ran
    · obtain ⟨others, later, rfl⟩ := Option.map_eq_some_iff.mp ran
      exact @ih others later
    · split at ran
      · cases ran
      · rename_i small
        obtain ⟨others, later, rfl⟩ := Option.map_eq_some_iff.mp ran
        intro pc member
        rcases List.mem_append.mp member with new | old
        · split at new
          · cases new
          · obtain rfl := List.mem_singleton.mp new
            exact Nat.le_of_not_lt small
        · exact ih later pc old

/-- A key tells its layer and its ordinal. -/
theorem loKey_inj {ordinal other otherOrdinal : UInt32}
    (same : loKey layer ordinal = loKey other otherOrdinal) :
    layer = other ∧ ordinal = otherOrdinal := by
  have number : ∀ layer ordinal : UInt32,
      (loKey layer ordinal).toNat = layer.toNat * 2 ^ 32 + ordinal.toNat := by
    intro layer ordinal
    have high := layer.toNat_lt
    have low := ordinal.toNat_lt
    rw [loKey, UInt64.toNat_or, UInt64.toNat_shiftLeft, UInt32.toNat_toUInt64,
      UInt32.toNat_toUInt64, show (32 : UInt64).toNat % 64 = 32 from rfl, Nat.shiftLeft_eq,
      Nat.mod_eq_of_lt (by omega), Nat.mul_comm, ← Nat.two_pow_add_eq_or_of_lt low]
  have numbers := congrArg UInt64.toNat same
  rw [number, number] at numbers
  have low := ordinal.toNat_lt
  have otherLow := otherOrdinal.toNat_lt
  exact ⟨UInt32.toNat_inj.mp (by omega), UInt32.toNat_inj.mp (by omega)⟩

/-- The ordinal of a chunk, from its position. -/
theorem ordinal_toNat {start pos : UInt32} (walking : step ≠ 0)
    (place : pos.toNat = start.toNat + ordinal * step.toNat) :
    ((pos - start) / step).toNat = ordinal := by
  have forward : 0 < step.toNat := by
    rw [← UInt32.toNat_zero]
    exact UInt32.lt_iff_toNat_lt.mp (UInt32.pos_iff_ne_zero.mpr walking)
  have least : start ≤ pos := by
    rw [UInt32.le_iff_toNat_le]
    omega
  rw [UInt32.toNat_div, UInt32.toNat_sub_of_le _ _ least, place, Nat.add_sub_cancel_left,
    Nat.mul_div_cancel _ forward]

/-- The first replica, on the prefill host, of the source chunk that has the ordinal of a
destination chunk. -/
def MooncakeKvSender.SourceOf (sender : MooncakeKvSender) (prefillTable : KvTable)
    (request : MigrationRequest) (step layer dstPos : UInt32) (source : ChunkTarget) : Prop :=
  ∃ (ordinal : Nat) (srcPos : UInt32),
    dstPos.toNat = (chunkStart request.dstPositionBegin step).toNat + ordinal * step.toNat ∧
      srcPos.toNat = (chunkStart request.srcPositionBegin step).toNat + ordinal * step.toNat ∧
      srcPos < request.srcPositionEnd ∧
      (prefillTable.targetsOn sender.prefillHost request.srcSlot (layer, srcPos)).head? =
        some source

/-- A source that is found under the key of a chunk is its source by ordinal. -/
theorem findSource_spec (walking : table.chunkNTokens ≠ 0)
    (bounded : request.srcSlice.Bounded table.chunkNTokens)
    (planned : table.buildHostPlan sender.prefillHost request.srcSlice = some plan)
    (place : dstPos.toNat = (chunkStart request.dstPositionBegin table.chunkNTokens).toNat +
        ordinal * table.chunkNTokens.toNat)
    (found : findSource plan (chunkStart request.srcPositionBegin table.chunkNTokens)
      table.chunkNTokens (loKey layer ((dstPos -
        chunkStart request.dstPositionBegin table.chunkNTokens) / table.chunkNTokens)) =
          some source) : sender.SourceOf table request table.chunkNTokens layer dstPos source := by
  obtain ⟨chunks, walked, rfl⟩ := KvTable.buildHostPlan_spec walking bounded planned
  obtain ⟨entry, first, head⟩ := Option.bind_eq_some_iff.mp found
  have keyed := List.find?_some first
  simp only [decide_eq_true_eq] at keyed
  obtain ⟨chunk, member, listed⟩ := List.mem_filterMap.mp (List.mem_of_find?_eq_some first)
  obtain ⟨_, rfl⟩ := KvTable.planOf_spec.mp listed
  obtain ⟨rfl, sameOrdinal⟩ := loKey_inj keyed
  obtain ⟨_, _, srcOrdinal, srcPlace, before⟩ :=
    (KvTable.requestedChunks_spec walking bounded walked).2 chunk member
  obtain rfl : srcOrdinal = ordinal :=
    (ordinal_toNat walking srcPlace).symm.trans
      ((congrArg UInt32.toNat sameOrdinal).trans (ordinal_toNat walking place))
  exact ⟨srcOrdinal, chunk.2, place, srcPlace, before, head⟩

theorem MooncakeKvSender.SourceOf.unique {other : ChunkTarget} (walking : step ≠ 0)
    (first : sender.SourceOf table request step layer dstPos source)
    (second : sender.SourceOf table request step layer dstPos other) : source = other := by
  obtain ⟨ordinal, srcPos, place, srcPlace, _, head⟩ := first
  obtain ⟨otherOrdinal, otherPos, otherPlace, otherSrcPlace, _, otherHead⟩ := second
  obtain rfl : ordinal = otherOrdinal :=
    (ordinal_toNat walking place).symm.trans (ordinal_toNat walking otherPlace)
  obtain rfl : srcPos = otherPos := UInt32.toNat_inj.mp (srcPlace.trans otherSrcPlace.symm)
  exact Option.some.inj (head.symm.trans otherHead)

/-- The place of a device is one of the replica's. -/
def ChunkTarget.Covers (target : ChunkTarget) (device : UInt32) (place : UInt64) : Prop :=
  device = target.device ∧ (place - target.nocAddr).toNat < target.sizeBytes.toNat

/-- Different chunks of a slice have no place in common on the devices of a host. -/
def KvTable.ChunksApart (table : KvTable) (host : String) (slice : KvSlice) : Prop :=
  ∀ layer pos otherLayer otherPos,
    slice.Addresses table.chunkNTokens layer pos →
    slice.Addresses table.chunkNTokens otherLayer otherPos →
    ∀ target ∈ table.targetsOn host slice.slot (layer, pos),
    ∀ other ∈ table.targetsOn host slice.slot (otherLayer, otherPos),
    ∀ device place, target.Covers device place → other.Covers device place →
      layer = otherLayer ∧ pos = otherPos

end InferenceServer.Transport
