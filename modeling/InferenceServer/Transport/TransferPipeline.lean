import InferenceServer.Migration.BounceExclusivity
import InferenceServer.Transport.SlotTransfer

/-! What the pipeline leaves on the devices. A transfer that succeeds has written every segment to
each of its targets, window by window: the sections of a window lie apart in the bounce buffer,
and the buffer that a window is staged in is not touched while the window is under way. -/
namespace InferenceServer.Transport

open Machine
open Migration (BounceGeometry BounceSectionAllocator)

/-- Data that goes to devices, in order. -/
def writeAll (devices : DeviceMemory) (writes : List (DrainTarget × List UInt8)) : DeviceMemory :=
  writes.foldl (fun devices put => devices.write put.1 put.2) devices

theorem writeAll_append (devices : DeviceMemory) (first second : List (DrainTarget × List UInt8)) :
    writeAll devices (first ++ second) = writeAll (writeAll devices first) second :=
  List.foldl_append

/-- The writes of a segment: its bytes at the source, to each target. -/
def segmentWrites (prefill : DeviceMemory) (seg : Segment) : List (DrainTarget × List UInt8) :=
  seg.targets.map (·, prefill.read seg.srcDevice seg.srcNoc seg.size)

theorem length_deviceRead (memory : DeviceMemory) (device : UInt32) (nocAddr : UInt64)
    (size : Nat) : (memory.read device nocAddr size).length = size := by
  rw [DeviceMemory.read, List.length_map, List.length_range]

theorem length_read (memory : ByteMemory) (offset size : Nat) :
    (memory.read offset size).length = size := by
  rw [ByteMemory.read, List.length_map, List.length_range]

section Draining

/-- A drain that succeeds has written the section to each target. -/
theorem drainTargets_spec {data : List UInt8} {deviceWrite : Nat → Bool}
    {targets : List DrainTarget} {drain : Bool × DeviceMemory}
    (drained : (drainTargets data deviceWrite targets drain).1 = true) :
    drain.1 = true ∧ (drainTargets data deviceWrite targets drain).2 =
      writeAll drain.2 (targets.map (·, data)) := by
  unfold drainTargets at drained ⊢
  generalize 0 = index at drained ⊢
  induction targets generalizing index drain with
  | nil => exact ⟨drained, rfl⟩
  | cons t rest ih =>
    rw [List.zipIdx_cons, List.foldl_cons] at drained ⊢
    obtain ⟨fine, rest⟩ := ih _ drained
    by_cases written : deviceWrite index = true
    · simp only [written, if_true] at fine rest ⊢
      exact ⟨fine, rest⟩
    · simp only [written, if_false, Bool.false_eq_true] at fine

/-- A window that is drained has had each of its sections written to its targets, as the bounce
buffer holds them. -/
theorem drainWindow_spec {capacity : Nat} {bounce : ByteMemory} {deviceWrite : Nat → Nat → Bool}
    {sections : List FilledSection} {devices : DeviceMemory}
    (drained : (drainWindow capacity bounce deviceWrite sections devices).1 = true) :
    (drainWindow capacity bounce deviceWrite sections devices).2 = writeAll devices
      (sections.flatMap fun s => s.targets.map (·, bounce.read s.sectionOffset s.size)) := by
  suffices each : ∀ (index : Nat) (drain : Bool × DeviceMemory),
      ((sections.zipIdx index).foldl (fun drain entry =>
        if entry.1.sectionOffset + entry.1.size > capacity then (false, drain.2)
        else drainTargets (bounce.read entry.1.sectionOffset entry.1.size) (deviceWrite entry.2)
          entry.1.targets drain) drain).1 = true →
      drain.1 = true ∧ ((sections.zipIdx index).foldl (fun drain entry =>
        if entry.1.sectionOffset + entry.1.size > capacity then (false, drain.2)
        else drainTargets (bounce.read entry.1.sectionOffset entry.1.size) (deviceWrite entry.2)
          entry.1.targets drain) drain).2 = writeAll drain.2 (sections.flatMap fun s =>
            s.targets.map (·, bounce.read s.sectionOffset s.size)) from (each 0 _ drained).2
  clear drained
  induction sections with
  | nil => exact fun index drain fine => ⟨fine, rfl⟩
  | cons s rest ih =>
    intro index drain fine
    rw [List.zipIdx_cons, List.foldl_cons] at fine ⊢
    obtain ⟨first, others⟩ := ih _ _ fine
    by_cases escapes : s.sectionOffset + s.size > capacity
    · simp only [if_pos escapes, Bool.false_eq_true] at first
    · simp only [if_neg escapes] at first others ⊢
      obtain ⟨before, written⟩ := drainTargets_spec first
      rw [others, written, List.flatMap_cons, writeAll_append]
      exact ⟨before, rfl⟩

end Draining

section Bounce

def FilledSection.Apart (s other : FilledSection) : Prop :=
  ByteMemory.Apart s.sectionOffset s.size other.sectionOffset other.size

instance : Std.Symm FilledSection.Apart := ⟨fun _ _ => Or.symm⟩

/-- Sections that lie apart all hold what is placed in them. -/
theorem placed_holds {buffer : ByteMemory} {sections : List FilledSection}
    (apart : sections.Pairwise FilledSection.Apart) (bounce : ByteMemory) :
    ∀ s ∈ sections, (sections.foldl (fun bounce s =>
        bounce.write s.sectionOffset (buffer.read s.stagingOffset s.size)) bounce).read
      s.sectionOffset s.size = buffer.read s.stagingOffset s.size := by
  have kept : ∀ (others : List FilledSection) (bounce : ByteMemory) (s : FilledSection),
      (∀ other ∈ others, s.Apart other) → (others.foldl (fun bounce s =>
        bounce.write s.sectionOffset (buffer.read s.stagingOffset s.size)) bounce).read
          s.sectionOffset s.size = bounce.read s.sectionOffset s.size := by
    intro others
    induction others with
    | nil => exact fun _ _ _ => rfl
    | cons other rest ih =>
      intro bounce s away
      rw [List.foldl_cons, ih _ s fun later member => away later (List.mem_cons_of_mem _ member)]
      refine ByteMemory.read_write_apart _ ?_
      rw [length_read]
      exact (away other List.mem_cons_self).symm
  induction sections generalizing bounce with
  | nil => exact nofun
  | cons first rest ih =>
    obtain ⟨away, apartRest⟩ := List.pairwise_cons.mp apart
    intro s member
    rw [List.foldl_cons]
    rcases List.mem_cons.mp member with rfl | later
    · rw [kept rest _ s away]
      have written := ByteMemory.read_write bounce s.sectionOffset
        (buffer.read s.stagingOffset s.size)
      rwa [length_read] at written
    · exact ih apartRest _ s later

/-- Once the early and the late sections are placed, each holds its bytes. -/
theorem placeSections_holds {buffer : ByteMemory} {sections : List FilledSection}
    {early : Nat → Bool} (apart : sections.Pairwise FilledSection.Apart) (bounce : ByteMemory) :
    ∀ s ∈ sections, (placeSections buffer (fun index => !early index) sections
      (placeSections buffer early sections bounce)).read s.sectionOffset s.size =
        buffer.read s.stagingOffset s.size := by
  have asList : ∀ (placed : Nat → Bool) (bounce : ByteMemory),
      placeSections buffer placed sections bounce =
        ((sections.zipIdx.filter fun entry => placed entry.2).map Prod.fst).foldl
          (fun bounce s => bounce.write s.sectionOffset (buffer.read s.stagingOffset s.size))
          bounce := by
    intro placed bounce
    rw [List.foldl_map]
    rfl
  have permuted := (List.filter_append_perm (fun entry => early entry.2) sections.zipIdx).map
    Prod.fst
  rw [List.map_append, List.zipIdx_map_fst] at permuted
  have holds := @placed_holds buffer _ ((permuted.pairwise_iff Or.symm).mpr apart) bounce
  intro s member
  rw [asList, asList, ← List.foldl_append]
  exact holds s (permuted.mem_iff.mpr member)

end Bounce

section Staging

variable {prefill : DeviceMemory}

/-- Reads that all succeed lie one after the other in the staging buffer. -/
theorem stageReads_spec {readOk : Nat → Bool} {segs : List Segment} :
    ∀ {index offset : Nat} {buffer after : ByteMemory} {staged : List (Nat × Segment)},
      stageReads prefill readOk segs index offset buffer = some (after, staged) →
      staged.map Prod.snd = segs ∧ (∀ entry ∈ staged, after.read entry.1 entry.2.size =
          prefill.read entry.2.srcDevice entry.2.srcNoc entry.2.size) ∧
        ∀ place size, place + size ≤ offset → after.read place size = buffer.read place size := by
  induction segs with
  | nil =>
    intro index offset buffer after staged ran
    cases ran
    exact ⟨rfl, nofun, fun _ _ _ => rfl⟩
  | cons seg rest ih =>
    intro index offset buffer after staged ran
    rw [stageReads] at ran
    split at ran
    · obtain ⟨⟨last, others⟩, later, same⟩ := Option.map_eq_some_iff.mp ran
      cases same
      obtain ⟨segs, holds, kept⟩ := ih later
      refine ⟨congrArg (seg :: ·) segs, fun entry member => ?_, fun place size before => ?_⟩
      · rcases List.mem_cons.mp member with rfl | earlier
        · have written := ByteMemory.read_write buffer offset
            (prefill.read seg.srcDevice seg.srcNoc seg.size)
          rw [length_deviceRead] at written
          exact (kept offset seg.size (Nat.le_refl _)).trans written
        · exact holds entry earlier
      · rw [kept place size (by omega)]
        refine ByteMemory.read_write_apart _ ?_
        exact .inr before
    · cases ran

/-- Sections are given out in order, apart from each other, one for each staged segment. -/
theorem assignSections_spec {staged : List (Nat × Segment)} :
    ∀ {allocator after : BounceSectionAllocator} {sections : List FilledSection},
      (∀ entry ∈ staged, entry.2.size ≤ allocator.geometry.sectionSize) →
      assignSections allocator staged = some (after, sections) →
      after.geometry = allocator.geometry ∧ sections.Pairwise FilledSection.Apart ∧
        (∀ s ∈ sections, allocator.outstanding * allocator.geometry.sectionSize ≤
          s.sectionOffset) ∧
        List.Forall₂ (fun entry s => s.stagingOffset = entry.1 ∧ s.size = entry.2.size ∧
          s.targets = entry.2.targets) staged sections := by
  induction staged with
  | nil =>
    intro allocator after sections _ assigned
    cases assigned
    exact ⟨rfl, .nil, nofun, .nil⟩
  | cons entry rest ih =>
    intro allocator after sections sizes assigned
    obtain ⟨⟨sectionOffset, middle⟩, allocated, later⟩ := Option.bind_eq_some_iff.mp assigned
    obtain ⟨⟨last, others⟩, assignedRest, made⟩ := Option.bind_eq_some_iff.mp later
    cases made
    obtain ⟨offset, geometry, outstanding⟩ := Migration.alloc_spec allocated
    obtain ⟨same, apart, beyond, matched⟩ := ih (fun other member => by
      rw [geometry]
      exact sizes other (List.mem_cons_of_mem _ member)) assignedRest
    have small := sizes entry List.mem_cons_self
    rw [geometry, outstanding, Nat.succ_mul] at beyond
    refine ⟨same.trans geometry, List.pairwise_cons.mpr ⟨fun other member => ?_, apart⟩, ?_, ?_⟩
    · have after := beyond other member
      refine .inl ?_
      dsimp only
      omega
    · intro s member
      rcases List.mem_cons.mp member with rfl | earlier
      · exact Nat.le_of_eq offset.symm
      · exact Nat.le_trans (Nat.le_add_right _ _) (beyond s earlier)
    · exact .cons ⟨rfl, rfl, rfl⟩ matched

/-- What sections of a staged window put on the devices is what its segments are to put there. -/
theorem staged_writes {buffer : ByteMemory} {staged : List (Nat × Segment)}
    {sections : List FilledSection}
    (holds : ∀ entry ∈ staged, buffer.read entry.1 entry.2.size =
      prefill.read entry.2.srcDevice entry.2.srcNoc entry.2.size)
    (matched : List.Forall₂ (fun (entry : Nat × Segment) s => s.stagingOffset = entry.1 ∧
      s.size = entry.2.size ∧ s.targets = entry.2.targets) staged sections) :
    sections.flatMap (fun s => s.targets.map (·, buffer.read s.stagingOffset s.size)) =
      (staged.map Prod.snd).flatMap (segmentWrites prefill) := by
  induction matched with
  | nil => rfl
  | @cons entry s _ _ same _ ih =>
    obtain ⟨offset, size, targets⟩ := same
    rw [List.flatMap_cons, List.map_cons, List.flatMap_cons,
      ih fun other member => holds other (List.mem_cons_of_mem _ member), offset, size, targets,
      holds entry List.mem_cons_self]
    rfl

end Staging

/-- The window under way: its sections lie apart, its staging buffer has its bytes, and so far
the early sections are placed. -/
structure Underway (prefill : DeviceMemory) (outcomes : TransferOutcomes) (state : TransferState)
    (batch : Batch) (segs : List Segment) : Prop where
  buffer : batch.buffer = batch.window % 2
  apart : batch.sections.Pairwise FilledSection.Apart
  carries : batch.sections.flatMap (fun s => s.targets.map
      (·, (state.staging batch.buffer).read s.stagingOffset s.size)) =
    segs.flatMap (segmentWrites prefill)
  placed : ∃ bounce, state.bounce = placeSections (state.staging batch.buffer)
    (outcomes.placedEarly batch.window) batch.sections bounce

/-- After so many rounds all segments but those under way are on the devices. -/
structure Piped (prefill : DeviceMemory) (outcomes : TransferOutcomes) (geometry : BounceGeometry)
    (devices : DeviceMemory) (rounds : Nat) (done : List Segment) (state : TransferState) :
    Prop where
  geometry : state.allocator.geometry = geometry
  idle : state.inflight = none →
    state.devices = writeAll devices (done.flatMap (segmentWrites prefill))
  busy : ∀ batch, state.inflight = some batch → batch.window + 1 = rounds ∧ ∃ front segs,
    done = front ++ segs ∧
      state.devices = writeAll devices (front.flatMap (segmentWrites prefill)) ∧
      Underway prefill outcomes state batch segs

section Pipeline

variable {prefill devices : DeviceMemory} {outcomes : TransferOutcomes} {geometry : BounceGeometry}
variable {rounds : Nat} {done : List Segment} {state : TransferState}

section

variable (piped : Piped prefill outcomes geometry devices rounds done state)
include piped

/-- Retiring the window under way, when it succeeds, brings all segments to the devices. -/
theorem Piped.retire (fine : (state.retireInflight outcomes).ok = true) :
    (state.retireInflight outcomes).inflight = none ∧
      (state.retireInflight outcomes).staging = state.staging ∧
      (state.retireInflight outcomes).allocator.geometry = geometry ∧
      (state.retireInflight outcomes).devices =
        writeAll devices (done.flatMap (segmentWrites prefill)) := by
  cases flying : state.inflight with
  | none =>
    have same : state.retireInflight outcomes = state := by
      simp only [TransferState.retireInflight, flying]
    rw [same]
    exact ⟨flying, rfl, piped.geometry, piped.idle flying⟩
  | some batch =>
    obtain ⟨_, front, segs, rfl, written, underway⟩ := piped.busy batch flying
    obtain ⟨bounce, placed⟩ := underway.placed
    simp only [TransferState.retireInflight, flying] at fine ⊢
    by_cases completed : outcomes.completed batch.window = true
    · rw [if_pos completed] at fine ⊢
      refine ⟨rfl, rfl, piped.geometry, ?_⟩
      have drained := drainWindow_spec (Bool.and_eq_true_iff.mp fine).1
      have holds : batch.sections.flatMap (fun s => s.targets.map (·, (placeSections
            (state.staging batch.buffer)
            (fun index => !outcomes.placedEarly batch.window index) batch.sections
            state.bounce).read s.sectionOffset s.size)) =
          segs.flatMap (segmentWrites prefill) := by
        rw [← underway.carries, placed]
        refine List.flatMap_congr fun s member => ?_
        rw [placeSections_holds underway.apart bounce s member]
      rw [holds] at drained
      rw [List.flatMap_append, writeAll_append, ← written]
      exact drained
    · rw [if_neg completed] at fine
      cases fine

/-- The buffer that the next window is staged in is not the one under way. -/
theorem Piped.restage (buffer : ByteMemory) : Piped prefill outcomes geometry devices rounds done
      { state with staging := Function.update state.staging (rounds % 2) buffer } := by
  refine ⟨piped.geometry, piped.idle, fun batch flying => ?_⟩
  obtain ⟨last, front, segs, whole, written, underway⟩ := piped.busy batch flying
  have other : Function.update state.staging (rounds % 2) buffer batch.buffer =
      state.staging batch.buffer :=
    Function.update_of_ne (by rw [underway.buffer]; omega) _ _
  refine ⟨last, front, segs, whole, written, underway.buffer, underway.apart, ?_, ?_⟩
  all_goals
    dsimp only
    rw [other]
  · exact underway.carries
  · exact underway.placed

/-- One round: while it goes on, the new window is under way and the others are on the devices. -/
theorem Piped.runWindow {win : List Segment} (sizes : ∀ seg ∈ win, seg.size ≤ geometry.sectionSize)
    (fine : (state.runWindow prefill outcomes (win, rounds)).ok = true) :
    state.ok = true ∧ Piped prefill outcomes geometry devices (rounds + 1) (done ++ win)
      (state.runWindow prefill outcomes (win, rounds)) := by
  unfold TransferState.runWindow at fine ⊢
  by_cases running : state.ok = true
  swap
  · simp only [Bool.not_eq_true] at running
    simp only [running, Bool.not_false, if_true, Bool.false_eq_true] at fine
  refine ⟨running, ?_⟩
  simp only [running, Bool.not_true, Bool.false_eq_true, if_false] at fine ⊢
  cases ran : stageReads prefill (outcomes.read rounds) win 0 0 (state.staging (rounds % 2)) with
  | none => simp only [ran, Bool.false_eq_true] at fine
  | some read =>
    obtain ⟨buffer, staged⟩ := read
    obtain ⟨rfl, holds, _⟩ := stageReads_spec ran
    simp only [ran] at fine ⊢
    have retired := (piped.restage buffer).retire
    have current : Function.update state.staging (rounds % 2) buffer (rounds % 2) = buffer :=
      Function.update_self _ _ _
    simp only [running] at retired
    generalize TransferState.retireInflight outcomes _ = after at fine retired ⊢
    by_cases going : after.ok = true
    swap
    · simp only [Bool.not_eq_true] at going
      simp only [going, Bool.not_false, if_true, Bool.false_eq_true] at fine
    obtain ⟨_, staging, same, written⟩ := retired going
    simp only [going, Bool.not_true, Bool.false_eq_true, if_false] at fine ⊢
    cases assigned : assignSections after.allocator staged with
    | none => simp only [assigned, Bool.false_eq_true] at fine
    | some given =>
      obtain ⟨allocator, sections⟩ := given
      obtain ⟨kept, apart, _, matched⟩ := assignSections_spec (fun entry member => by
        rw [same]
        exact sizes entry.2 (List.mem_map.mpr ⟨entry, member, rfl⟩)) assigned
      simp only [assigned] at fine ⊢
      by_cases submitted : outcomes.submitted rounds = true
      · simp only [submitted, if_true] at fine ⊢
        refine ⟨kept.trans same, nofun, fun batch flying => ?_⟩
        obtain rfl := Option.some.inj flying
        refine ⟨rfl, done, staged.map Prod.snd, rfl, written, rfl, apart, ?_, after.bounce, rfl⟩
        dsimp only
        rw [staging, current]
        exact staged_writes holds matched
      · simp only [submitted, if_false, Bool.false_eq_true] at fine

end

/-- A transfer that succeeds has written every segment to each of its targets. -/
theorem runWindows_devices {windows : List (List Segment)} {staging : Nat → ByteMemory}
    {bounce : ByteMemory} {ok : Bool}
    (sizes : ∀ seg ∈ windows.flatten, seg.size ≤ geometry.sectionSize)
    (fine : (TransferState.runWindows prefill outcomes windows
      { ok, staging, allocator := { geometry }, bounce, devices }).ok = true) :
    ok = true ∧ (TransferState.runWindows prefill outcomes windows
      { ok, staging, allocator := { geometry }, bounce, devices }).devices =
        writeAll devices (windows.flatten.flatMap (segmentWrites prefill)) := by
  have rounds : ∀ (windows : List (List Segment)) (round : Nat) (done : List Segment)
      (state : TransferState), (∀ seg ∈ windows.flatten, seg.size ≤ geometry.sectionSize) →
      Piped prefill outcomes geometry devices round done state →
      ((windows.zipIdx round).foldl (TransferState.runWindow prefill outcomes) state).ok = true →
      state.ok = true ∧ ∃ last, Piped prefill outcomes geometry devices last (done ++ windows.flatten)
        ((windows.zipIdx round).foldl (TransferState.runWindow prefill outcomes) state) := by
    intro windows
    induction windows with
    | nil =>
      intro round done state _ piped fine
      rw [List.flatten_nil, List.append_nil]
      exact ⟨fine, round, piped⟩
    | cons win rest ih =>
      intro round done state sizes piped fine
      rw [List.zipIdx_cons, List.foldl_cons] at fine ⊢
      rw [List.flatten_cons] at sizes ⊢
      by_cases going : (state.runWindow prefill outcomes (win, round)).ok = true
      · obtain ⟨running, piped⟩ := piped.runWindow
          (fun seg member => sizes seg (List.mem_append_left _ member)) going
        obtain ⟨_, finished⟩ := ih (round + 1) (done ++ win) _
          (fun seg member => sizes seg (List.mem_append_right _ member)) piped fine
        rw [List.append_assoc] at finished
        exact ⟨running, finished⟩
      · have stays : ∀ (entries : List (List Segment × Nat)) (state : TransferState),
            state.ok = false →
            (entries.foldl (TransferState.runWindow prefill outcomes) state).ok = false := by
          intro entries
          induction entries with
          | nil => exact fun _ stopped => stopped
          | cons entry rest ih =>
            intro state stopped
            refine ih _ ?_
            simp [TransferState.runWindow, stopped]
        rw [stays _ _ (Bool.eq_false_iff.mpr going)] at fine
        cases fine
  have start : Piped prefill outcomes geometry devices 0 []
      { ok, staging, allocator := { geometry }, bounce, devices } := ⟨rfl, fun _ => rfl, nofun⟩
  unfold TransferState.runWindows at fine ⊢
  dsimp only at fine ⊢
  split at fine
  · rename_i going
    obtain ⟨running, last, piped⟩ := rounds windows 0 [] _ sizes start going
    rw [if_pos going]
    exact ⟨running, (piped.retire fine).2.2.2⟩
  · rename_i stopped
    exact absurd fine stopped

end Pipeline

end InferenceServer.Transport
