import InferenceServer.Transport.SlotPlacement

/-! The pipeline of a transfer, call by call. The reads of a window fill one staging buffer in the
background while the WRITEs of the window before it leave the other one; a window gets its sections
of the bounce buffer once the window before it is drained. What the device, the engine and the
receiver answer is left open. -/
namespace InferenceServer.Transport

open Machine
open Migration (BounceGeometry BounceSectionAllocator)

/-- A read that the device has under way: the bytes of a staging buffer that it fills. -/
structure StagedRead where
  buffer : Nat
  offset : Nat
  size : Nat
  deriving DecidableEq

/-- Where the pipeline is. Once the reads of a window are all issued, they are drained; the last
retirement comes after the loop. -/
inductive PipelinePhase
  | issuing (rest : List Segment)
  | popping (rest : List Segment)
  | waiting (last : Bool)
  | sinking (last : Bool)
  | assigning
  | abandoning
  | returned (ok : Bool)

/-- What becomes of an issued read. -/
inductive ReadAnswer
  | refused
  | completed
  | underway

/-- The calls that the pipeline makes, with their answers. A poll leaves some reads under way. -/
inductive PipelineCall
  | readAsync (answer : ReadAnswer)
  | tryPopCompleted (left : List StagedRead)
  | asyncInFlight
  | waitBatch (completed : Bool)
  | sink (drained : Bool)
  | submitBatch (accepted : Bool)

/-- The pipeline with what it has under way: reads in the device and batches in the engine that are
not waited for. It is recorded which sections are handed out and not drained, by window. -/
structure Pipeline where
  windows : List (List Segment)
  round : Nat := 0
  phase : PipelinePhase
  staged : List (Nat × Segment) := []
  offset : Nat := 0
  allocator : BounceSectionAllocator
  inflight : Option Batch := none
  reads : List StagedRead := []
  batches : List Batch := []
  undrained : List (Nat × List FilledSection) := []

namespace Pipeline

variable (pipeline : Pipeline)

/-- The next round of the loop, or its end. -/
def proceed : Pipeline :=
  match pipeline.windows with
  | [] => { pipeline with
      phase := if pipeline.inflight.isSome then .waiting true else .returned true }
  | win :: windows => { pipeline with windows, staged := [], offset := 0, phase := .issuing win }

/-- The loop is left; a batch under way is still waited for. -/
def abort : Pipeline :=
  { pipeline with phase := if pipeline.inflight.isSome then .abandoning else .returned false }

def stage (seg : Segment) (rest : List Segment) : Pipeline :=
  { pipeline with
    staged := pipeline.staged ++ [(pipeline.offset, seg)]
    offset := pipeline.offset + seg.size
    phase := .issuing rest }

def step (maxInFlight : Nat) (pipeline : Pipeline) : PipelineCall → Option Pipeline
  | .readAsync answer => match pipeline.phase, answer with
    | .issuing (seg :: rest), .refused => some { pipeline with phase := .popping (seg :: rest) }
    | .issuing (seg :: rest), .completed => some (pipeline.stage seg rest)
    | .issuing (seg :: rest), .underway =>
      if pipeline.reads.length < maxInFlight then some { pipeline.stage seg rest with
        reads := pipeline.reads ++ [⟨pipeline.round % 2, pipeline.offset, seg.size⟩] }
      else none
    | _, _ => none
  | .tryPopCompleted left =>
    if left.Sublist pipeline.reads then
      match pipeline.phase with
      | .popping rest =>
        if pipeline.reads = [] then some pipeline.abort
        else some { pipeline with reads := left, phase := .issuing rest }
      | .issuing [] => if pipeline.reads = [] then none else some { pipeline with reads := left }
      | _ => none
    else none
  | .asyncInFlight => match pipeline.phase with
    | .issuing [] =>
      if pipeline.reads = [] then some { pipeline with
        phase := if pipeline.inflight.isSome then .waiting false else .assigning }
      else none
    | _ => none
  | .waitBatch completed => match pipeline.phase, pipeline.inflight with
    | .waiting last, some batch =>
      let batches := pipeline.batches.filter (·.window ≠ batch.window)
      if completed then some { pipeline with batches, phase := .sinking last }
      else some { pipeline with batches, inflight := none, phase := .returned false }
    | .abandoning, some batch => some { pipeline with
      batches := pipeline.batches.filter (·.window ≠ batch.window)
      phase := .returned false }
    | _, _ => none
  | .sink drained => match pipeline.phase, pipeline.inflight with
    | .sinking last, some batch =>
      let pipeline := { pipeline with
        allocator := pipeline.allocator.release batch.sections.length
        inflight := none }
      if drained then some { pipeline with
        undrained := pipeline.undrained.filter (·.1 ≠ batch.window)
        phase := if last then .returned true else .assigning }
      else some { pipeline with phase := .returned false }
    | _, _ => none
  | .submitBatch accepted => match pipeline.phase with
    | .assigning => match assignSections pipeline.allocator pipeline.staged with
      | none => some pipeline.abort
      | some (allocator, sections) =>
        let batch : Batch :=
          { window := pipeline.round, buffer := pipeline.round % 2, sections }
        if accepted then some (proceed { pipeline with
          allocator
          round := pipeline.round + 1
          inflight := some batch
          batches := pipeline.batches ++ [batch]
          undrained := pipeline.undrained ++ [(pipeline.round, sections)] })
        else some { pipeline with allocator, phase := .returned false }
    | _ => none

/-- The pipeline for chunks that are planned and sorted. -/
def start (geometry : BounceGeometry) (bufferBytes : Nat) (ok opened : Bool)
    (planned : List PlannedChunk) : Pipeline :=
  let segments := mergeSegments (min geometry.sectionSize bufferBytes) planned
  let pipeline : Pipeline := {
    windows := planWindows geometry.sectionCount bufferBytes segments
    allocator := { geometry }
    phase := .returned (planned = [] && ok) }
  if planned ≠ [] ∧ opened ∧ ok then pipeline.proceed else pipeline

end Pipeline

def sizes (segs : List Segment) : Nat := (segs.map (·.size)).sum

/-- A window fits the bounce buffer and a staging buffer. -/
structure FitsWindow (geometry : BounceGeometry) (bufferBytes : Nat) (win : List Segment) :
    Prop where
  count : win.length ≤ geometry.sectionCount
  bytes : sizes win ≤ bufferBytes
  each : ∀ seg ∈ win, seg.size ≤ geometry.sectionSize

/-- A section lies within its slot of the bounce buffer and within the staging buffer. -/
structure FilledSection.Fits (geometry : BounceGeometry) (bufferBytes : Nat) (s : FilledSection) :
    Prop where
  size : s.size ≤ geometry.sectionSize
  staging : s.stagingOffset + s.size ≤ bufferBytes
  bounce : s.sectionOffset + geometry.sectionSize ≤ geometry.capacity

/-- The batch under way is that of the window before, and holds all the sections that are out. -/
structure Batch.Sends (geometry : BounceGeometry) (bufferBytes round outstanding : Nat)
    (undrained : List (Nat × List FilledSection)) (batch : Batch) : Prop where
  window : batch.window + 1 = round
  buffer : batch.buffer = batch.window % 2
  outstanding : outstanding = batch.sections.length
  undrained : undrained = [(batch.window, batch.sections)]
  fits : ∀ s ∈ batch.sections, s.Fits geometry bufferBytes

namespace Pipeline

/-- No section is out. -/
def Free (pipeline : Pipeline) : Prop :=
  pipeline.allocator.outstanding = 0 ∧ pipeline.undrained = []

/-- What is under way, by where the pipeline is. -/
def Here (geometry : BounceGeometry) (bufferBytes : Nat) (pipeline : Pipeline) : Prop :=
  match pipeline.phase with
  | .issuing rest | .popping rest =>
    FitsWindow geometry bufferBytes (pipeline.staged.map Prod.snd ++ rest) ∧
      pipeline.batches = pipeline.inflight.toList ∧ (pipeline.inflight = none → pipeline.Free)
  | .waiting _ | .abandoning =>
    pipeline.reads = [] ∧ pipeline.batches = pipeline.inflight.toList
  | .assigning => pipeline.reads = [] ∧ pipeline.batches = [] ∧ pipeline.inflight = none ∧
    pipeline.Free
  | .sinking _ | .returned _ => pipeline.reads = [] ∧ pipeline.batches = []

/-- What holds of the pipeline after every call. -/
structure Sound (geometry : BounceGeometry) (bufferBytes : Nat) (pipeline : Pipeline) :
    Prop where
  allocator : pipeline.allocator.geometry = geometry
  windows : ∀ win ∈ pipeline.windows, FitsWindow geometry bufferBytes win
  offset : pipeline.offset = sizes (pipeline.staged.map Prod.snd)
  fits : FitsWindow geometry bufferBytes (pipeline.staged.map Prod.snd)
  staged : ∀ entry ∈ pipeline.staged, entry.1 + entry.2.size ≤ pipeline.offset
  reads : ∀ read ∈ pipeline.reads,
    read.buffer = pipeline.round % 2 ∧ read.offset + read.size ≤ pipeline.offset
  inflight : ∀ batch ∈ pipeline.inflight, batch.Sends geometry bufferBytes pipeline.round
    pipeline.allocator.outstanding pipeline.undrained
  here : pipeline.Here geometry bufferBytes

end Pipeline

section Windows

variable {geometry : BounceGeometry} {bufferBytes : Nat}

theorem sizes_append (first second : List Segment) :
    sizes (first ++ second) = sizes first + sizes second := by
  rw [sizes, List.map_append, List.sum_append]
  rfl

theorem FitsWindow.of_append {first second : List Segment}
    (fits : FitsWindow geometry bufferBytes (first ++ second)) :
    FitsWindow geometry bufferBytes first := by
  have bytes := fits.bytes
  rw [sizes_append] at bytes
  refine ⟨?_, Nat.le_trans (Nat.le_add_right _ _) bytes, fun seg member => ?_⟩
  · exact Nat.le_trans (by simp) fits.count
  · exact fits.each seg (List.mem_append_left _ member)

theorem fitsWindow_planWindows (positive : 0 < geometry.sectionCount) {segments : List Segment}
    (capped : ∀ seg ∈ segments, seg.size ≤ min geometry.sectionSize bufferBytes) :
    ∀ win ∈ planWindows geometry.sectionCount bufferBytes segments,
      FitsWindow geometry bufferBytes win := by
  suffices grown : ∀ windows : List (List Segment),
      (∀ win ∈ windows, FitsWindow geometry bufferBytes win) →
      ∀ win ∈ segments.foldl (addToWindows geometry.sectionCount bufferBytes) windows,
        FitsWindow geometry bufferBytes win from
      grown [] (List.forall_mem_nil _)
  induction segments with
  | nil => exact fun _ fits => fits
  | cons seg rest ih =>
    intro windows fits
    refine ih (fun other member => capped other (List.mem_cons_of_mem _ member)) _ ?_
    have small := Nat.le_min.mp (capped seg List.mem_cons_self)
    have alone : FitsWindow geometry bufferBytes [seg] := by
      refine ⟨positive, ?_, fun other member => List.mem_singleton.mp member ▸ small.1⟩
      rw [sizes, List.map_singleton, List.sum_singleton]
      exact small.2
    unfold addToWindows
    split
    · intro win member
      exact List.mem_singleton.mp member ▸ alone
    · rename_i back last
      split
      · intro win member
        rcases List.mem_append.mp member with earlier | new
        · exact fits win earlier
        · exact List.mem_singleton.mp new ▸ alone
      · rename_i room
        obtain ⟨short, light⟩ := not_or.mp room
        have backFits := fits back (List.mem_of_getLast? last)
        intro win member
        rcases List.mem_append.mp member with earlier | new
        · exact fits win (List.mem_of_mem_dropLast earlier)
        · rw [List.mem_singleton.mp new]
          refine ⟨?_, ?_, fun other member => ?_⟩
          · rw [List.length_append, List.length_singleton]
            exact Nat.lt_of_not_ge short
          · rw [sizes_append]
            exact Nat.le_of_not_gt light
          · rcases List.mem_append.mp member with earlier | own
            · exact backFits.each other earlier
            · exact List.mem_singleton.mp own ▸ small.1

/-- An allocator with so many free sections gives one to each staged segment. -/
theorem assignSections_enough {staged : List (Nat × Segment)} :
    ∀ {allocator : BounceSectionAllocator},
      allocator.outstanding + staged.length ≤ allocator.geometry.sectionCount →
      ∃ sections, assignSections allocator staged = some
          ({ allocator with outstanding := allocator.outstanding + staged.length }, sections) ∧
        sections.length = staged.length ∧
        ∀ s ∈ sections, (∃ entry ∈ staged, s.stagingOffset = entry.1 ∧ s.size = entry.2.size) ∧
          s.sectionOffset + allocator.geometry.sectionSize ≤ allocator.geometry.capacity := by
  induction staged with
  | nil => exact fun _ => ⟨[], rfl, rfl, List.forall_mem_nil _⟩
  | cons entry rest ih =>
    intro allocator room
    rw [List.length_cons] at room
    obtain ⟨sections, assigned, length, within⟩ :=
      @ih { allocator with outstanding := allocator.outstanding + 1 } (by dsimp only; omega)
    have open_ : ¬ (allocator.geometry.sectionCount = 0 ∨
        allocator.outstanding ≥ allocator.geometry.sectionCount) := by omega
    refine ⟨{
      stagingOffset := entry.1
      sectionOffset := allocator.outstanding * allocator.geometry.sectionSize
      size := entry.2.size
      targets := entry.2.targets } :: sections, ?_, congrArg (· + 1) length, fun s member => ?_⟩
    · rw [assignSections, BounceSectionAllocator.alloc, if_neg open_]
      dsimp only [bind, Option.bind]
      rw [assigned]
      dsimp only [pure]
      rw [List.length_cons, Nat.add_right_comm, Nat.add_assoc]
    · rcases List.mem_cons.mp member with rfl | later
      · refine ⟨⟨entry, List.mem_cons_self, rfl, rfl⟩, ?_⟩
        dsimp only
        rw [← Nat.succ_mul]
        exact Nat.mul_le_mul_right _ (by omega)
      · obtain ⟨⟨other, held, same⟩, inside⟩ := within s later
        exact ⟨⟨other, List.mem_cons_of_mem _ held, same⟩, inside⟩

end Windows

namespace Pipeline

variable {geometry : BounceGeometry} {bufferBytes maxInFlight : Nat} {pipeline after : Pipeline}

section

variable (sound : pipeline.Sound geometry bufferBytes)
include sound

/-- What is under way at a place that is known. -/
theorem Sound.here_at {phase : PipelinePhase} (at_ : pipeline.phase = phase) :
    Here geometry bufferBytes { pipeline with phase } :=
  at_ ▸ sound.here

/-- The next round starts when no reads are under way. -/
theorem Sound.proceed (at_ : pipeline.phase = .waiting true)
    (free : pipeline.inflight = none → pipeline.Free) :
    pipeline.proceed.Sound geometry bufferBytes := by
  obtain ⟨reads, batches⟩ := sound.here_at at_
  unfold Pipeline.proceed
  split
  · refine { sound with here := ?_ }
    cases flying : pipeline.inflight with
    | none => exact ⟨reads, batches.trans (congrArg Option.toList flying)⟩
    | some batch => exact ⟨reads, batches.trans (congrArg Option.toList flying)⟩
  · rename_i win rest split_
    have fits := sound.windows
    rw [split_] at fits
    exact { sound with
      windows := fun other member => fits other (List.mem_cons_of_mem _ member)
      offset := rfl
      fits := ⟨Nat.zero_le _, Nat.zero_le _, List.forall_mem_nil _⟩
      staged := List.forall_mem_nil _
      reads := reads ▸ List.forall_mem_nil _
      here := ⟨fits win List.mem_cons_self, batches, free⟩ }

/-- Leaving the loop with no reads under way keeps the rest. -/
theorem Sound.abort (reads : pipeline.reads = [])
    (batches : pipeline.batches = pipeline.inflight.toList) :
    pipeline.abort.Sound geometry bufferBytes := by
  refine { sound with here := ?_ }
  unfold Here Pipeline.abort
  cases flying : pipeline.inflight with
  | none | some => exact ⟨reads, batches.trans (congrArg Option.toList flying)⟩

/-- A read that is issued is staged behind the others. -/
theorem Sound.stage {seg : Segment} {rest : List Segment}
    (at_ : pipeline.phase = .issuing (seg :: rest)) :
    (pipeline.stage seg rest).Sound geometry bufferBytes := by
  obtain ⟨fits, batches, free⟩ := sound.here_at at_
  have more : FitsWindow geometry bufferBytes
      ((pipeline.staged ++ [(pipeline.offset, seg)]).map Prod.snd ++ rest) := by
    rw [List.map_append, List.append_assoc]
    exact fits
  exact { sound with
    offset := by
      change pipeline.offset + seg.size = sizes ((pipeline.staged ++ [_]).map Prod.snd)
      rw [List.map_append, sizes_append, ← sound.offset]
      rfl
    fits := more.of_append
    staged := fun entry member => by
      rcases List.mem_append.mp member with earlier | last
      · exact Nat.le_add_right_of_le (sound.staged entry earlier)
      · rw [List.mem_singleton.mp last]
        exact Nat.le_refl _
    reads := fun read member =>
      ⟨(sound.reads read member).1, Nat.le_add_right_of_le (sound.reads read member).2⟩
    here := ⟨more, batches, free⟩ }

theorem Sound.readAsync {answer : ReadAnswer}
    (stepped : pipeline.step maxInFlight (.readAsync answer) = some after) :
    after.Sound geometry bufferBytes := by
  unfold Pipeline.step at stepped
  dsimp only at stepped
  split at stepped
  · rename_i at_
    have here := sound.here_at at_
    cases stepped
    exact { sound with here }
  · rename_i at_
    cases stepped
    exact sound.stage at_
  · rename_i at_
    split at stepped
    · cases stepped
      have staged := sound.stage at_
      refine { staged with reads := fun read member => ?_ }
      rcases List.mem_append.mp member with earlier | last
      · exact staged.reads read earlier
      · rw [List.mem_singleton.mp last]
        exact ⟨rfl, Nat.le_refl _⟩
    · cases stepped
  · cases stepped

theorem Sound.tryPopCompleted {left : List StagedRead}
    (stepped : pipeline.step maxInFlight (.tryPopCompleted left) = some after) :
    after.Sound geometry bufferBytes := by
  unfold Pipeline.step at stepped
  dsimp only at stepped
  split at stepped
  swap
  · cases stepped
  rename_i fewer
  split at stepped
  · rename_i at_
    have here := sound.here_at at_
    split at stepped
    · cases stepped
      exact sound.abort ‹_› here.2.1
    · cases stepped
      exact { sound with here, reads := fun read member => sound.reads read (fewer.subset member) }
  · rename_i at_
    split at stepped
    · cases stepped
    · cases stepped
      exact { sound with
        here := at_ ▸ sound.here_at at_
        reads := fun read member => sound.reads read (fewer.subset member) }
  · cases stepped

/-- Once all reads have landed, the window before is retired. -/
theorem Sound.asyncInFlight (stepped : pipeline.step maxInFlight .asyncInFlight = some after) :
    after.Sound geometry bufferBytes := by
  unfold Pipeline.step at stepped
  dsimp only at stepped
  split at stepped
  swap
  · cases stepped
  rename_i at_
  obtain ⟨-, batches, free⟩ := sound.here_at at_
  split at stepped
  swap
  · cases stepped
  rename_i reads
  cases stepped
  refine { sound with here := ?_ }
  unfold Here
  cases flying : pipeline.inflight with
  | none => exact ⟨reads, batches.trans (congrArg Option.toList flying), rfl, free flying⟩
  | some batch => exact ⟨reads, batches.trans (congrArg Option.toList flying)⟩

theorem Sound.waitBatch {completed : Bool}
    (stepped : pipeline.step maxInFlight (.waitBatch completed) = some after) :
    after.Sound geometry bufferBytes := by
  have gone : ∀ batch, pipeline.inflight = some batch →
      pipeline.batches = pipeline.inflight.toList →
      pipeline.batches.filter (fun other => decide (other.window ≠ batch.window)) = [] := by
    intro batch flying batches
    rw [batches, flying]
    simp
  unfold Pipeline.step at stepped
  dsimp only at stepped
  split at stepped
  · rename_i batch at_ flying
    obtain ⟨reads, batches⟩ := sound.here_at at_
    split at stepped
    · cases stepped
      exact { sound with here := ⟨reads, gone batch flying batches⟩ }
    · cases stepped
      exact { sound with inflight := by rintro _ ⟨⟩, here := ⟨reads, gone batch flying batches⟩ }
  · rename_i batch at_ flying
    obtain ⟨reads, batches⟩ := sound.here_at at_
    cases stepped
    exact { sound with here := ⟨reads, gone batch flying batches⟩ }
  · cases stepped

theorem Sound.sink {drained : Bool}
    (stepped : pipeline.step maxInFlight (.sink drained) = some after) :
    after.Sound geometry bufferBytes := by
  unfold Pipeline.step at stepped
  dsimp only at stepped
  split at stepped
  swap
  · cases stepped
  rename_i last batch at_ flying
  have sends := sound.inflight batch flying
  obtain ⟨reads, batches⟩ := sound.here_at at_
  split at stepped
  · cases stepped
    refine { sound with inflight := by rintro _ ⟨⟩, here := ?_ }
    cases last with
    | true => exact ⟨reads, batches⟩
    | false =>
      refine ⟨reads, batches, rfl, ?_, ?_⟩
      · simp [BounceSectionAllocator.release, sends.outstanding]
      · simp [sends.undrained]
  · cases stepped
    exact { sound with inflight := by rintro _ ⟨⟩, here := ⟨reads, batches⟩ }

/-- The sections that a staged window is given. -/
theorem Sound.assigns (free : pipeline.Free) :
    ∃ sections, assignSections pipeline.allocator pipeline.staged =
        some ({ pipeline.allocator with outstanding := sections.length }, sections) ∧
      (∀ s ∈ sections, s.Fits geometry bufferBytes) ∧ sections.Pairwise FilledSection.Apart := by
  obtain ⟨sections, assigned, length, within⟩ :=
    @assignSections_enough pipeline.staged pipeline.allocator (by
      rw [free.1, Nat.zero_add, sound.allocator]
      exact Nat.le_trans (by simp) sound.fits.count)
  have small : ∀ entry ∈ pipeline.staged, entry.2.size ≤ geometry.sectionSize :=
    fun entry member => sound.fits.each entry.2 (List.mem_map_of_mem member)
  obtain ⟨-, apart, -, -⟩ := assignSections_spec (sound.allocator ▸ small) assigned
  rw [free.1, Nat.zero_add, ← length] at assigned
  refine ⟨sections, assigned, fun s member => ?_, apart⟩
  obtain ⟨⟨entry, held, offset, size⟩, inside⟩ := within s member
  refine ⟨size ▸ small entry held, ?_, sound.allocator ▸ inside⟩
  rw [offset, size]
  refine Nat.le_trans (sound.staged entry held) ?_
  rw [sound.offset]
  exact sound.fits.bytes

theorem Sound.submitBatch {accepted : Bool}
    (stepped : pipeline.step maxInFlight (.submitBatch accepted) = some after) :
    after.Sound geometry bufferBytes := by
  unfold Pipeline.step at stepped
  dsimp only at stepped
  split at stepped
  swap
  · cases stepped
  rename_i at_
  obtain ⟨reads, batches, none_, free⟩ := sound.here_at at_
  obtain ⟨sections, assigned, fits, -⟩ := sound.assigns free
  rw [assigned] at stepped
  dsimp only at stepped
  split at stepped
  · cases stepped
    have sent : Sound geometry bufferBytes { pipeline with
        allocator := { pipeline.allocator with outstanding := sections.length }
        round := pipeline.round + 1
        inflight := some ⟨pipeline.round, pipeline.round % 2, sections⟩
        batches := pipeline.batches ++ [⟨pipeline.round, pipeline.round % 2, sections⟩]
        undrained := pipeline.undrained ++ [(pipeline.round, sections)]
        phase := .waiting true } := by
      refine { sound with reads := ?_, inflight := fun batch flying => ?_, here := ⟨reads, ?_⟩ }
      · exact reads ▸ List.forall_mem_nil _
      · obtain rfl := Option.some.inj flying
        exact ⟨rfl, rfl, rfl, congrArg (· ++ _) free.2, fits⟩
      · exact congrArg (· ++ _) batches
    exact sent.proceed rfl (by rintro ⟨⟩)
  · cases stepped
    refine { sound with inflight := fun batch flying => ?_, here := ⟨reads, batches⟩ }
    cases none_.symm.trans flying

theorem Sound.step {call : PipelineCall} (stepped : pipeline.step maxInFlight call = some after) :
    after.Sound geometry bufferBytes := by
  cases call with
  | readAsync answer => exact sound.readAsync stepped
  | tryPopCompleted left => exact sound.tryPopCompleted stepped
  | asyncInFlight => exact sound.asyncInFlight stepped
  | waitBatch completed => exact sound.waitBatch stepped
  | sink drained => exact sound.sink stepped
  | submitBatch accepted => exact sound.submitBatch stepped

end

theorem sound_start (positive : 0 < geometry.sectionCount) {planned : List PlannedChunk}
    (capped : ∀ pc ∈ planned, pc.size ≤ min geometry.sectionSize bufferBytes) (ok opened : Bool) :
    (start geometry bufferBytes ok opened planned).Sound geometry bufferBytes := by
  have windows := fitsWindow_planWindows positive (size_mergeSegments capped)
  have empty : FitsWindow geometry bufferBytes [] := ⟨Nat.zero_le _, Nat.zero_le _, List.forall_mem_nil _⟩
  have fresh : ∀ phase : PipelinePhase, Here geometry bufferBytes
      { windows := [], phase, allocator := { geometry } } → Sound geometry bufferBytes {
        windows := planWindows geometry.sectionCount bufferBytes
          (mergeSegments (min geometry.sectionSize bufferBytes) planned)
        phase
        allocator := { geometry } } :=
    fun phase here => ⟨rfl, windows, rfl, empty, List.forall_mem_nil _, List.forall_mem_nil _, by rintro _ ⟨⟩, here⟩
  unfold start
  dsimp only
  split
  · exact (fresh (.waiting true) ⟨rfl, rfl⟩).proceed rfl fun _ => ⟨rfl, rfl⟩
  · exact fresh _ ⟨rfl, rfl⟩

/-- What is safe of a pipeline. -/
structure Safe (geometry : BounceGeometry) (bufferBytes : Nat) (pipeline : Pipeline) : Prop where
  windows : ∀ win ∈ pipeline.windows, sizes win ≤ bufferBytes
  staged : sizes (pipeline.staged.map Prod.snd) ≤ bufferBytes
  issues : ∀ seg rest, pipeline.phase = .issuing (seg :: rest) →
    pipeline.offset + seg.size ≤ bufferBytes ∧
      ∀ batch ∈ pipeline.batches, pipeline.round % 2 ≠ batch.buffer
  reads : ∀ read ∈ pipeline.reads, read.offset + read.size ≤ bufferBytes ∧
    ∀ batch ∈ pipeline.batches, read.buffer ≠ batch.buffer
  sends : ∀ batch ∈ pipeline.inflight, ∀ s ∈ batch.sections, s.Fits geometry bufferBytes
  assigns : pipeline.phase = .assigning → ∃ allocator sections,
    assignSections pipeline.allocator pipeline.staged = some (allocator, sections) ∧
      (∀ s ∈ sections, s.Fits geometry bufferBytes) ∧ sections.Pairwise FilledSection.Apart ∧
      pipeline.undrained = []
  returns : ∀ ok, pipeline.phase = .returned ok → pipeline.reads = [] ∧ pipeline.batches = []

/-- The batch under way leaves the buffer that the next window is staged in alone. -/
theorem Sound.other_buffer (sound : pipeline.Sound geometry bufferBytes) :
    ∀ batch ∈ pipeline.batches, pipeline.round % 2 ≠ batch.buffer := by
  intro batch member
  have flying : batch ∈ pipeline.inflight := by
    have here := sound.here
    unfold Here at here
    split at here
    case h_1 | h_2 => exact Option.mem_toList.mp (here.2.1 ▸ member)
    case h_3 | h_4 => exact Option.mem_toList.mp (here.2 ▸ member)
    case h_5 => cases here.2.1 ▸ member
    case h_6 | h_7 => cases here.2 ▸ member
  have sends := sound.inflight batch flying
  have next := sends.window
  rw [sends.buffer]
  omega

theorem Sound.safe (sound : pipeline.Sound geometry bufferBytes) :
    pipeline.Safe geometry bufferBytes where
  windows win member := (sound.windows win member).bytes
  staged := sound.fits.bytes
  issues seg rest at_ := by
    have bytes := (sound.here_at at_).1.bytes
    rw [sizes_append, ← sound.offset] at bytes
    refine ⟨Nat.le_trans ?_ bytes, sound.other_buffer⟩
    exact Nat.add_le_add_left (Nat.le_add_right _ _) _
  reads read member := by
    obtain ⟨buffer, within⟩ := sound.reads read member
    have bytes := sound.fits.bytes
    rw [← sound.offset] at bytes
    refine ⟨Nat.le_trans within bytes, fun batch sent => ?_⟩
    rw [buffer]
    exact sound.other_buffer batch sent
  sends batch flying := (sound.inflight batch flying).fits
  assigns at_ := by
    obtain ⟨-, -, -, free⟩ := sound.here_at at_
    obtain ⟨sections, assigned, fits, apart⟩ := sound.assigns free
    exact ⟨_, sections, assigned, fits, apart, free.2⟩
  returns _ at_ := sound.here_at at_

/-- **Staging**: whatever the device, the engine and the receiver answer, windows and sections keep
within their bounds, sections are always there and are never those of a window that is not drained,
no read targets a buffer that a batch still sends, and nothing is under way at the end. -/
theorem transferSlot_stages_safely {prefillPlan decodePlan : List ChunkPlan}
    {srcStart dstStart step : UInt32} {ok opened : Bool} {planned sorted : List PlannedChunk}
    (valid : geometry.valid = true)
    (plan : planChunks prefillPlan srcStart dstStart step (min geometry.sectionSize bufferBytes)
      decodePlan = some (ok, planned))
    (permuted : sorted.Perm planned)
    (reached : Reaches (Pipeline.step maxInFlight) (fun _ _ => True)
      (start geometry bufferBytes ok opened sorted) pipeline) :
    pipeline.Safe geometry bufferBytes := by
  have positive : 0 < geometry.sectionCount := (of_decide_eq_true valid).1
  have capped : ∀ pc ∈ sorted, pc.size ≤ min geometry.sectionSize bufferBytes :=
    fun pc member => planChunks_capped plan pc (permuted.subset member)
  refine Sound.safe (reached.invariant (·.Sound geometry bufferBytes) ?_ ?_)
  · exact sound_start positive capped ok opened
  · exact fun _ _ _ sound _ stepped => sound.step stepped

/-- Three chunks that do not follow each other. -/
def threeChunks : List ChunkPlan :=
  [(0, 0), (2, 8), (4, 16)].map fun (position, nocAddr) =>
    { slot := 0, layer := 0, position, targets := [⟨1, nocAddr, 4⟩] }

/-- The first two are sent while the third is read, and the receiver then refuses the last. -/
def lastRefused : List PipelineCall :=
  [.readAsync .underway, .readAsync .refused, .tryPopCompleted [], .readAsync .underway,
    .tryPopCompleted [], .asyncInFlight, .submitBatch true, .readAsync .completed, .asyncInFlight,
    .waitBatch true, .sink true, .submitBatch true, .waitBatch true, .sink false]

/-- The chunks as they are planned. -/
def plannedChunks : List PlannedChunk :=
  [0, 8, 16].map fun nocAddr => ⟨1, nocAddr, 4, [⟨1, nocAddr⟩]⟩

theorem lastRefused_runs : (runWithin (Pipeline.step 1) (fun _ _ => True)
    (start ⟨2, 4⟩ 8 true true plannedChunks) lastRefused).isSome = true := by
  decide +kernel

/-- Such a run is safe. -/
theorem transferSlot_stages_safely_lastRefused : ((runWithin (Pipeline.step 1) (fun _ _ => True)
    (start ⟨2, 4⟩ 8 true true plannedChunks) lastRefused).get lastRefused_runs).Safe ⟨2, 4⟩ 8 :=
  @transferSlot_stages_safely ⟨2, 4⟩ 8 1 _ threeChunks threeChunks 0 0 2 true true plannedChunks
    plannedChunks (by decide) (by decide +kernel) (List.Perm.refl _)
    (reaches_get lastRefused_runs)

end Pipeline

end InferenceServer.Transport
