import InferenceServer.Migration.BounceBuffer
import InferenceServer.Transport.ControlMessage
import InferenceServer.Transport.KvTables

/-! The transfer of a slot from the devices of a prefill host to those of a decode host: chunks
paired by ordinal, merged into segments, parted into windows, staged, written into the bounce
buffer and drained from there. How the engine, the devices and the receiver answer is left open,
and so is whether the engine places the bytes of a batch at its submission or only at its end. -/
namespace InferenceServer.Transport

open Machine
open Migration (BounceGeometry BounceSectionAllocator)

/-- The DRAM of the devices of a host. -/
abbrev DeviceMemory := UInt32 → UInt64 → UInt8

namespace DeviceMemory

def read (memory : DeviceMemory) (device : UInt32) (nocAddr : UInt64) (size : Nat) : List UInt8 :=
  (List.range size).map fun index => memory device (nocAddr + UInt64.ofNat index)

def write (memory : DeviceMemory) (target : DrainTarget) (data : List UInt8) : DeviceMemory :=
  fun device place =>
    if device = target.device then data.getD (place - target.nocAddr).toNat (memory device place)
    else memory device place

end DeviceMemory

/-- How many chunks a range of tokens covers. -/
def numChunks (start stop step : UInt32) : UInt32 :=
  if step = 0 then 0
  else if stop ≤ chunkStart start step then 0
  else (stop - chunkStart start step + step - 1) / step

def loKey (layer ordinal : UInt32) : UInt64 := (layer.toUInt64 <<< 32) ||| ordinal.toUInt64

structure PlannedChunk where
  srcDevice : UInt32
  srcNoc : UInt64
  size : Nat
  targets : List DrainTarget
  deriving DecidableEq

/-- A run of chunks that follow each other at the source; it has the fields of a chunk. -/
abbrev Segment := PlannedChunk

/-- The source replica for a key: the first of the first chunk that has it. -/
def findSource (prefillPlan : List ChunkPlan) (srcStart step : UInt32) (key : UInt64) :
    Option ChunkTarget :=
  (prefillPlan.find? fun chunk =>
    loKey chunk.layer ((chunk.position - srcStart) / step) = key).bind (·.targets.head?)

/-- The planned chunks, with `false` where a source is missing or a size differs; nothing where a
chunk is too large. -/
def planChunks (prefillPlan : List ChunkPlan) (srcStart dstStart step : UInt32)
    (sectionCap : Nat) : List ChunkPlan → Option (Bool × List PlannedChunk)
  | [] => some (true, [])
  | chunk :: rest =>
    let ordinal := (chunk.position - dstStart) / step
    match findSource prefillPlan srcStart step (loKey chunk.layer ordinal) with
    | none =>
      (planChunks prefillPlan srcStart dstStart step sectionCap rest).map fun later =>
        (false, later.2)
    | some src =>
      if src.sizeBytes.toNat > sectionCap then none
      else
        let matching := chunk.targets.filter (·.sizeBytes = src.sizeBytes)
        let planned : List PlannedChunk := if matching = [] then [] else [{
          srcDevice := src.device
          srcNoc := src.nocAddr
          size := src.sizeBytes.toNat
          targets := matching.map fun dst => ⟨dst.device, dst.nocAddr⟩ }]
        (planChunks prefillPlan srcStart dstStart step sectionCap rest).map fun later =>
          (chunk.targets.all (·.sizeBytes = src.sizeBytes) && later.1, planned ++ later.2)

/-- The chunk follows the segment at the source and at every replica, and both fit a section. -/
def canExtend (sectionCap : Nat) (seg : Segment) (pc : PlannedChunk) : Prop :=
  seg.srcDevice = pc.srcDevice ∧ seg.srcNoc + UInt64.ofNat seg.size = pc.srcNoc ∧
    seg.targets.map (fun t => ⟨t.device, t.nocAddr + UInt64.ofNat seg.size⟩) = pc.targets ∧
    seg.size + pc.size ≤ sectionCap

instance (sectionCap : Nat) (seg : Segment) (pc : PlannedChunk) :
    Decidable (canExtend sectionCap seg pc) :=
  inferInstanceAs (Decidable (_ ∧ _ ∧ _ ∧ _))

def addSegment (sectionCap : Nat) (segments : List Segment) (pc : PlannedChunk) : List Segment :=
  match segments.getLast? with
  | none => [pc]
  | some back =>
    if canExtend sectionCap back pc then
      segments.dropLast ++ [{ back with size := back.size + pc.size }]
    else segments ++ [pc]

def mergeSegments (sectionCap : Nat) (planned : List PlannedChunk) : List Segment :=
  planned.foldl (addSegment sectionCap) []

def addToWindows (sectionCount bufBytes : Nat) (windows : List (List Segment)) (seg : Segment) :
    List (List Segment) :=
  match windows.getLast? with
  | none => [[seg]]
  | some back =>
    if back.length ≥ sectionCount ∨ (back.map (·.size)).sum + seg.size > bufBytes then
      windows ++ [[seg]]
    else windows.dropLast ++ [back ++ [seg]]

def planWindows (sectionCount bufBytes : Nat) (segments : List Segment) : List (List Segment) :=
  segments.foldl (addToWindows sectionCount bufBytes) []

/-- A section of a window: where it lies in the staging buffer and in the bounce buffer, its
bytes' number and the devices that it drains to. -/
structure FilledSection where
  stagingOffset : Nat
  sectionOffset : Nat
  size : Nat
  targets : List DrainTarget
  deriving DecidableEq

/-- A window whose WRITEs are under way from one of the two staging buffers. -/
structure Batch where
  window : Nat
  buffer : Nat
  sections : List FilledSection

/-- What the world answers: whether the reads of a window succeed, its batch is accepted and
completes, each write to a device succeeds and the ack comes, and which sections are placed early. -/
structure TransferOutcomes where
  opened : Bool
  read : Nat → Nat → Bool
  submitted : Nat → Bool
  completed : Nat → Bool
  placedEarly : Nat → Nat → Bool
  deviceWrite : Nat → Nat → Nat → Bool
  acked : Nat → Bool

/-- The state of the pipeline; `bounce` and `devices` are the decode host's. -/
structure TransferState where
  ok : Bool := true
  staging : Nat → ByteMemory := fun _ _ => 0
  allocator : BounceSectionAllocator
  inflight : Option Batch := none
  bounce : ByteMemory := fun _ => 0
  devices : DeviceMemory

/-- The reads of a window go to the buffer one after the other; nothing when one fails. -/
def stageReads (prefill : DeviceMemory) (readOk : Nat → Bool) :
    List Segment → Nat → Nat → ByteMemory → Option (ByteMemory × List (Nat × Segment))
  | [], _, _, buffer => some (buffer, [])
  | seg :: rest, index, offset, buffer =>
    if readOk index then
      (stageReads prefill readOk rest (index + 1) (offset + seg.size)
        (buffer.write offset (prefill.read seg.srcDevice seg.srcNoc seg.size))).map fun later =>
          (later.1, (offset, seg) :: later.2)
    else none

/-- Sections of the bounce buffer for what is staged. -/
def assignSections (allocator : BounceSectionAllocator) :
    List (Nat × Segment) → Option (BounceSectionAllocator × List FilledSection)
  | [] => some (allocator, [])
  | (stagingOffset, seg) :: rest => do
    let (sectionOffset, allocator) ← allocator.alloc
    let (allocator, sections) ← assignSections allocator rest
    return (allocator,
      { stagingOffset, sectionOffset, size := seg.size, targets := seg.targets } :: sections)

/-- The engine places some sections of a batch, from the staging buffer as it is. -/
def placeSections (buffer : ByteMemory) (placed : Nat → Bool) (sections : List FilledSection)
    (bounce : ByteMemory) : ByteMemory :=
  (sections.zipIdx.filter fun entry => placed entry.2).foldl
    (fun bounce entry => bounce.write entry.1.sectionOffset
      (buffer.read entry.1.stagingOffset entry.1.size)) bounce

/-- A section goes to each of its targets; what a device refuses makes the drain fail. -/
def drainTargets (data : List UInt8) (deviceWrite : Nat → Bool) (targets : List DrainTarget)
    (drain : Bool × DeviceMemory) : Bool × DeviceMemory :=
  targets.zipIdx.foldl (fun drain entry =>
    if deviceWrite entry.2 then (drain.1, drain.2.write entry.1 data) else (false, drain.2)) drain

/-- The receiver drains a window; a section outside its buffer is refused. -/
def drainWindow (capacity : Nat) (bounce : ByteMemory) (deviceWrite : Nat → Nat → Bool)
    (sections : List FilledSection) (devices : DeviceMemory) : Bool × DeviceMemory :=
  sections.zipIdx.foldl (fun drain entry =>
    if entry.1.sectionOffset + entry.1.size > capacity then (false, drain.2)
    else drainTargets (bounce.read entry.1.sectionOffset entry.1.size) (deviceWrite entry.2)
      entry.1.targets drain) (true, devices)

namespace TransferState

/-- The window under way is waited for, drained and its sections are released. -/
def retireInflight (outcomes : TransferOutcomes) (state : TransferState) : TransferState :=
  match state.inflight with
  | none => state
  | some batch =>
    if outcomes.completed batch.window then
      let bounce := placeSections (state.staging batch.buffer)
        (fun index => !outcomes.placedEarly batch.window index) batch.sections state.bounce
      let drained := drainWindow state.allocator.geometry.capacity bounce
        (outcomes.deviceWrite batch.window) batch.sections state.devices
      { state with
        ok := drained.1 && outcomes.acked batch.window
        allocator := state.allocator.release batch.sections.length
        inflight := none
        bounce
        devices := drained.2 }
    else { state with ok := false, inflight := none }

/-- One round of the pipeline: the window is staged while the one before it is under way. -/
def runWindow (prefill : DeviceMemory) (outcomes : TransferOutcomes) (state : TransferState)
    (entry : List Segment × Nat) : TransferState :=
  let (win, i) := entry
  if !state.ok then state
  else
    match stageReads prefill (outcomes.read i) win 0 0 (state.staging (i % 2)) with
    | none => { state with ok := false }
    | some (buffer, staged) =>
      let state := { state with staging := Function.update state.staging (i % 2) buffer }
      let state := state.retireInflight outcomes
      if !state.ok then state
      else
        match assignSections state.allocator staged with
        | none => { state with ok := false }
        | some (allocator, sections) =>
          if outcomes.submitted i then { state with
            allocator
            inflight := some { window := i, buffer := i % 2, sections }
            bounce := placeSections (state.staging (i % 2)) (outcomes.placedEarly i) sections
              state.bounce }
          else { state with allocator, ok := false }

/-- All windows, and then the last one under way. -/
def runWindows (prefill : DeviceMemory) (outcomes : TransferOutcomes)
    (windows : List (List Segment)) (state : TransferState) : TransferState :=
  let state := windows.zipIdx.foldl (runWindow prefill outcomes) state
  if state.ok then state.retireInflight outcomes else state

end TransferState

/-- The prefill side of a transfer to one decode host. The size is that of a staging buffer, where
these are registered. -/
structure MooncakeKvSender where
  prefillTable : Option KvTable
  decodeTable : Option KvTable
  prefillHost : String
  decodeHost : String
  bufferBytes : Option UInt64

/-- What `transferSlot` returns and how it leaves the devices of the decode host; nothing where a
walk of a table never ends. `sort` puts the chunks in order of their source. -/
def MooncakeKvSender.transferSlot (sender : MooncakeKvSender)
    (sort : List PlannedChunk → List PlannedChunk) (outcomes : TransferOutcomes)
    (request : MigrationRequest) (geometry : BounceGeometry) (prefill devices : DeviceMemory)
    (staging : Nat → ByteMemory) (bounce : ByteMemory) : Option (Bool × DeviceMemory) :=
  match sender.prefillTable, sender.decodeTable, sender.bufferBytes with
  | some prefillTable, some decodeTable, some bufferBytes =>
    if !geometry.valid then some (false, devices)
    else
      let step := decodeTable.chunkNTokens
      if step = 0 then some (false, devices)
      else if numChunks request.srcPositionBegin request.srcPositionEnd step ≠
          numChunks request.dstPositionBegin request.dstPositionEnd step then
        some (false, devices)
      else do
        let srcStart := chunkStart request.srcPositionBegin step
        let dstStart := chunkStart request.dstPositionBegin step
        let decodePlan ← decodeTable.buildHostPlan sender.decodeHost request.dstSlice
        if decodePlan = [] then return (false, devices)
        let prefillPlan ← prefillTable.buildHostPlan sender.prefillHost request.srcSlice
        let sectionCap := min geometry.sectionSize bufferBytes.toNat
        match planChunks prefillPlan srcStart dstStart step sectionCap decodePlan with
        | none => return (false, devices)
        | some (ok, planned) =>
          if planned = [] then return (ok, devices)
          let segments := mergeSegments sectionCap (sort planned)
          if !outcomes.opened then return (false, devices)
          let windows := planWindows geometry.sectionCount bufferBytes.toNat segments
          let state := TransferState.runWindows prefill outcomes windows
            { ok, staging, allocator := { geometry }, bounce, devices }
          return (state.ok, state.devices)
  | _, _, _ => some (false, devices)

end InferenceServer.Transport
