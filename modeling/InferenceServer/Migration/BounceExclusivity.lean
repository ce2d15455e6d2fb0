import InferenceServer.Migration.BounceBuffer

/-! Whose bytes a drain copies. A window is open from the submission of its WRITEs until its
last section is copied. While no two windows are open at once a drain finds what its sender
wrote; nothing in the protocol keeps two senders from having windows open together, and
both begin at offset 0. -/
namespace InferenceServer.Migration

open Machine

def SendPhase.isWriting : SendPhase → Bool
  | .writing _ _ _ _ _ => true
  | _ => false

def Request.isWindow : Request → Bool
  | .windowReady _ _ => true
  | _ => false

def Session.isDraining : Session → Bool
  | .draining _ _ _ => true
  | .waiting => false

/-- The windows of a channel between their submission and the end of their drain. -/
def Channel.openWindows (channel : Channel) : Nat :=
  channel.sender.isWriting.toNat + channel.toReceiver.countP Request.isWindow +
    channel.session.isDraining.toNat

variable {α : Type}

/-- A sender submits a window only while no window is open, of whichever migration. -/
def Exclusive (world : World α) : MigrationEvent α → Prop
  | .submit _ => ∀ sender, (world.channels sender).openWindows = 0
  | _ => True

namespace BounceSectionDescriptor

/-- The buffer has what the sender wrote to the section. -/
def Holds (memory : ByteMemory) (d : BounceSectionDescriptor) : Prop :=
  memory.read d.sectionOffset d.data.length = d.data

def Apart (d other : BounceSectionDescriptor) : Prop :=
  ByteMemory.Apart d.sectionOffset d.data.length other.sectionOffset other.data.length

instance : Std.Symm Apart := ⟨fun _ _ => Or.symm⟩

theorem Holds.write {memory : ByteMemory} {d other : BounceSectionDescriptor}
    (holds : d.Holds memory) (apart : other.Apart d) :
    d.Holds (memory.write other.sectionOffset other.data) :=
  (memory.read_write_apart apart).trans holds

end BounceSectionDescriptor

open BounceSectionDescriptor

theorem alloc_spec {allocator after : BounceSectionAllocator} {offset : Nat}
    (allocated : allocator.alloc = some (offset, after)) :
    offset = allocator.outstanding * allocator.geometry.sectionSize ∧
      after.geometry = allocator.geometry ∧ after.outstanding = allocator.outstanding + 1 := by
  unfold BounceSectionAllocator.alloc at allocated
  split at allocated
  · cases allocated
  · cases allocated
    exact ⟨rfl, rfl, rfl⟩

/-- The sections of a window lie one after the other, each from the next multiple of the
section size. -/
theorem assignSections_apart {segments : List Segment} :
    ∀ {allocator after : BounceSectionAllocator} {window : List BounceSectionDescriptor},
      (∀ seg ∈ segments, seg.data.length ≤ allocator.geometry.sectionSize) →
      assignSections allocator segments = some (after, window) →
      after.geometry = allocator.geometry ∧ window.Pairwise Apart ∧ ∀ d ∈ window,
        allocator.outstanding * allocator.geometry.sectionSize ≤ d.sectionOffset := by
  induction segments with
  | nil =>
    intro allocator after window _ assigned
    cases assigned
    exact ⟨rfl, .nil, fun _ member => absurd member List.not_mem_nil⟩
  | cons seg rest ih =>
    intro allocator after window fits assigned
    obtain ⟨⟨offset, next⟩, allocated, assigned⟩ := Option.bind_eq_some_iff.mp assigned
    obtain ⟨⟨last, others⟩, assignedRest, assigned⟩ := Option.bind_eq_some_iff.mp assigned
    cases assigned
    obtain ⟨rfl, geometry, outstanding⟩ := alloc_spec allocated
    have restFits : ∀ seg ∈ rest, seg.data.length ≤ next.geometry.sectionSize := by
      rw [geometry]
      exact fun seg member => fits seg (List.mem_cons_of_mem _ member)
    obtain ⟨same, apart, above⟩ := ih restFits assignedRest
    rw [geometry, outstanding, Nat.add_mul, Nat.one_mul] at above
    have size := fits seg List.mem_cons_self
    refine ⟨same.trans geometry, List.pairwise_cons.mpr ⟨fun d member => .inl ?_, apart⟩,
      fun d member => ?_⟩
    · have := above d member
      simp only
      omega
    · rcases List.mem_cons.mp member with rfl | later
      · exact le_rfl
      · have := above d later
        omega

namespace Channel

/-- What is staged fits the sections it will get. -/
def Fits (channel : Channel) : Prop :=
  match channel.sender with
  | .staged _ allocator window rest =>
    ∀ segments ∈ window :: rest, ∀ seg ∈ segments,
      seg.data.length ≤ allocator.geometry.sectionSize
  | .writing _ allocator _ _ rest =>
    ∀ segments ∈ rest, ∀ seg ∈ segments, seg.data.length ≤ allocator.geometry.sectionSize
  | .awaitingAck _ allocator _ rest =>
    ∀ segments ∈ rest, ∀ seg ∈ segments, seg.data.length ≤ allocator.geometry.sectionSize
  | _ => True

/-- What an open window is owed has been placed, and stays. -/
structure Sound (memory : ByteMemory) (channel : Channel) : Prop where
  fits : channel.Fits
  writing : ∀ uuid allocator unplaced window rest,
    channel.sender = .writing uuid allocator unplaced window rest →
      window.Pairwise Apart ∧ (∀ d ∈ unplaced, d ∈ window) ∧
        ∀ d ∈ window, d ∈ unplaced ∨ d.Holds memory
  queued : ∀ uuid window, .windowReady uuid window ∈ channel.toReceiver →
    ∀ d ∈ window, d.Holds memory
  draining : ∀ uuid remaining ok, channel.session = .draining uuid remaining ok →
    ∀ copy ∈ remaining, copy.1.Holds memory

variable {memory : ByteMemory} {channel after : Channel} {bufferBytes : Nat}
variable {geometry : BounceGeometry} {windows : List (List Segment)} {seg : Segment}
  {segments : List Segment}

/-- Without an open window nothing is owed. -/
theorem Sound.of_closed (memory' : ByteMemory) (sound : channel.Sound memory)
    (closed : channel.openWindows = 0) : channel.Sound memory' := by
  simp only [openWindows, Nat.add_eq_zero_iff, List.countP_eq_zero] at closed
  obtain ⟨⟨notWriting, noneQueued⟩, notDraining⟩ := closed
  refine ⟨sound.fits, fun _ _ _ _ _ writing => ?_, fun uuid window queued => ?_,
    fun _ _ _ draining => ?_⟩
  · simp [writing, SendPhase.isWriting] at notWriting
  · exact absurd rfl (noneQueued _ queued)
  · simp [draining, Session.isDraining] at notDraining

/-- A sender outside of a window, with no window more in its queue. -/
theorem Sound.calm (sound : channel.Sound memory) (fits : after.Fits)
    (calm : after.sender.isWriting = false) (session : after.session = channel.session)
    (queue : ∀ uuid window, .windowReady uuid window ∈ after.toReceiver →
      .windowReady uuid window ∈ channel.toReceiver) : after.Sound memory where
  fits := fits
  writing _ _ _ _ _ writing := by simp [writing, SendPhase.isWriting] at calm
  queued uuid window queued := sound.queued uuid window (queue uuid window queued)
  draining uuid remaining ok draining := sound.draining uuid remaining ok (session ▸ draining)

theorem mem_addToWindows {other : Segment}
    (member : segments ∈ addToWindows geometry bufferBytes windows seg) (inside : other ∈ segments)
    : other = seg ∨ ∃ earlier ∈ windows, other ∈ earlier := by
  unfold addToWindows at member
  split at member
  · rw [List.mem_singleton.mp member] at inside
    exact .inl (List.mem_singleton.mp inside)
  · rename_i back last
    have backMember := List.mem_of_getLast? last
    split at member
    · rcases List.mem_append.mp member with earlier | new
      · exact .inr ⟨segments, earlier, inside⟩
      · rw [List.mem_singleton.mp new] at inside
        exact .inl (List.mem_singleton.mp inside)
    · rcases List.mem_append.mp member with earlier | new
      · exact .inr ⟨segments, List.dropLast_subset _ earlier, inside⟩
      · rw [List.mem_singleton.mp new] at inside
        rcases List.mem_append.mp inside with old | added
        · exact .inr ⟨back, backMember, old⟩
        · exact .inl (List.mem_singleton.mp added)

/-- Windows are made of the segments. -/
theorem mem_planWindows {window : List Segment}
    (member : window ∈ planWindows geometry bufferBytes segments) (inside : seg ∈ window) :
    seg ∈ segments := by
  have run (rest : List Segment) : ∀ windows : List (List Segment),
      window ∈ rest.foldl (addToWindows geometry bufferBytes) windows →
      seg ∈ rest ∨ ∃ earlier ∈ windows, seg ∈ earlier := by
    induction rest with
    | nil => exact fun windows member => .inr ⟨window, member, inside⟩
    | cons next rest ih =>
      intro windows member
      rcases ih _ member with later | ⟨earlier, old, held⟩
      · exact .inl (List.mem_cons_of_mem _ later)
      · rcases mem_addToWindows old held with rfl | before
        · exact .inl List.mem_cons_self
        · exact .inr before
  rcases run segments [] member with held | ⟨earlier, none_, -⟩
  · exact held
  · cases none_

/-- What the sender's own progress does: it is in no window, its session goes on as before,
and at most the end of its migration is queued. -/
structure Advances (channel after : Channel) : Prop where
  fits : after.Fits
  calm : after.sender.isWriting = false
  session : after.session = channel.session
  queue : after.toReceiver = channel.toReceiver ∨
    ∃ uuid, after.toReceiver = channel.toReceiver ++ [.doneMarker uuid]

theorem proceed_advances (channel : Channel) (uuid : Uuid) (allocator : BounceSectionAllocator)
    (fits : ∀ segments ∈ windows, ∀ seg ∈ segments,
      seg.data.length ≤ allocator.geometry.sectionSize) :
    Advances channel (channel.proceed uuid allocator windows) := by
  cases windows with
  | nil => exact ⟨trivial, rfl, rfl, .inr ⟨uuid, rfl⟩⟩
  | cons window rest => exact ⟨fits, rfl, rfl, .inl rfl⟩

theorem stop_advances (channel : Channel) : Advances channel { channel with sender := .idle } :=
  ⟨trivial, rfl, rfl, .inl rfl⟩

theorem transferSlot_advances (channel : Channel) (bufferBytes : Nat) (uuid : Uuid)
    (segments : List Segment) (geometry : BounceGeometry) :
    Advances channel (channel.transferSlot bufferBytes uuid segments geometry) := by
  unfold transferSlot
  split
  · exact channel.stop_advances
  split
  · exact channel.stop_advances
  · rename_i _ sizes
    refine channel.proceed_advances uuid _ fun window member seg inside => ?_
    have small : ∀ seg ∈ segments, ¬seg.data.length > min geometry.sectionSize bufferBytes := by
      simpa using sizes
    have := small seg (mem_planWindows member inside)
    simp only
    omega

theorem takeReply_advances {reply : Reply} (fits : channel.Fits)
    (taken : channel.takeReply bufferBytes reply = some after) : Advances channel after := by
  unfold takeReply at taken
  split at taken
  · cases taken
    split
    · split
      · exact channel.stop_advances
      · exact channel.transferSlot_advances ..
    · exact channel.stop_advances
  · rename_i uuid allocator sections rest waiting
    cases taken
    simp only [Fits, waiting] at fits
    split
    · split
      · exact channel.stop_advances
      · exact channel.proceed_advances uuid _ fits
    · exact channel.stop_advances
  · cases taken
    exact channel.stop_advances
  · cases taken

theorem Advances.openWindows_le (advances : Advances channel after) :
    after.openWindows ≤ channel.openWindows := by
  have queue : after.toReceiver.countP Request.isWindow =
      channel.toReceiver.countP Request.isWindow := by
    rcases advances.queue with same | ⟨uuid, grown⟩
    · rw [same]
    · simp [grown, Request.isWindow]
  simp only [openWindows, advances.calm, advances.session, queue, Bool.toNat_false]
  omega

theorem Advances.sound (advances : Advances channel after) (sound : channel.Sound memory) :
    after.Sound memory := by
  refine sound.calm advances.fits advances.calm advances.session fun uuid window queued => ?_
  rcases advances.queue with same | ⟨done, grown⟩
  · rwa [same] at queued
  · simpa [grown] using queued

/-- The session begins to copy a window only from the head of its queue. -/
theorem Sound.serve (sound : channel.Sound memory) {request : Request} {rest : List Request}
    (queue : channel.toReceiver = request :: rest) (waiting : channel.session = .waiting)
    (geometry : BounceGeometry) (registered : Bool) :
    (({ channel with toReceiver := rest } : Channel).handle geometry registered request).Sound
        memory ∧
      (({ channel with toReceiver := rest } : Channel).handle geometry registered
        request).openWindows ≤ channel.openWindows := by
  have later : ∀ uuid window, .windowReady uuid window ∈ rest →
      .windowReady uuid window ∈ channel.toReceiver := by
    intro uuid window member
    rw [queue]
    exact List.mem_cons_of_mem _ member
  have kept {after : Channel} (sender : after.sender = channel.sender)
      (session : after.session = .waiting) (remaining : after.toReceiver = rest) :
      after.Sound memory := by
    refine ⟨?_, ?_, fun uuid window queued => ?_, fun uuid copies ok draining => ?_⟩
    · simpa only [Fits, sender] using sound.fits
    · simpa only [sender] using sound.writing
    · rw [remaining] at queued
      exact sound.queued uuid window (later uuid window queued)
    · rw [session] at draining
      cases draining
  cases request with
  | beginMigration uuid =>
    refine ⟨kept rfl waiting rfl, ?_⟩
    simp [handle, openWindows, queue, Request.isWindow]
  | doneMarker uuid =>
    refine ⟨kept rfl waiting rfl, ?_⟩
    simp [handle, openWindows, queue, Request.isWindow]
  | windowReady uuid window =>
    unfold handle
    simp only
    split
    · constructor
      · refine ⟨sound.fits, sound.writing, fun id queued member => ?_, ?_⟩
        · exact sound.queued id queued (later id queued member)
        · intro id copies ok draining copy member
          cases draining
          obtain ⟨d, inWindow, target⟩ := List.mem_flatMap.mp member
          obtain ⟨_, -, rfl⟩ := List.mem_map.mp target
          refine sound.queued uuid window ?_ d (List.mem_filter.mp inWindow).1
          rw [queue]
          exact List.mem_cons_self
      · simp only [openWindows, queue, List.countP_cons, Request.isWindow, Session.isDraining,
          waiting, Bool.toNat_true, Bool.toNat_false, if_true]
        omega
    · refine ⟨kept rfl waiting rfl, ?_⟩
      simp [openWindows, queue, List.countP_cons, Request.isWindow]

end Channel

/-- At most one window is open, what it is owed is there, and every copy so far was of what
its sender wrote. -/
structure Sole (world : World α) : Prop where
  sole : ∀ first second, 0 < (world.channels first).openWindows →
    0 < (world.channels second).openWindows → first = second
  single : ∀ sender, (world.channels sender).openWindows ≤ 1
  sound : ∀ sender, (world.channels sender).Sound world.memory
  copied : ∀ write ∈ world.deviceWrites, write.copied = write.written

theorem sole_init : Sole ({} : World α) where
  sole _ _ opened := absurd opened (Nat.lt_irrefl 0)
  single _ := Nat.zero_le 1
  sound _ := ⟨trivial, nofun, nofun, nofun⟩
  copied _ member := absurd member List.not_mem_nil

namespace Sole

variable [DecidableEq α] {world : World α}

section

variable (sole : Sole world)
include sole

/-- A step of one channel that opens no window. -/
theorem set (sender : α) {after : Channel} (sound : after.Sound world.memory)
    (fewer : after.openWindows ≤ (world.channels sender).openWindows) :
    Sole (world.setChannel sender after) := by
  have counts : ∀ other, ((world.setChannel sender after).channels other).openWindows ≤
      (world.channels other).openWindows := by
    intro other
    by_cases same : other = sender
    · subst same
      simpa [World.setChannel] using fewer
    · simp [World.setChannel, same]
  refine ⟨fun first second one two => ?_, fun other => ?_, fun other => ?_, sole.copied⟩
  · exact sole.sole first second (one.trans_le (counts first)) (two.trans_le (counts second))
  · exact (counts other).trans (sole.single other)
  · by_cases same : other = sender
    · subst same
      simpa [World.setChannel] using sound
    · simpa [World.setChannel, same] using sole.sound other

/-- Opening a window while none is open. -/
theorem submit (sender : α) {after : Channel}
    (closed : ∀ other, (world.channels other).openWindows = 0) (sound : after.Sound world.memory)
    (one : after.openWindows ≤ 1) : Sole (world.setChannel sender after) := by
  have elsewhere : ∀ other, 0 < ((world.setChannel sender after).channels other).openWindows →
      other = sender := by
    intro other opened
    by_contra different
    simp [World.setChannel, different, closed other] at opened
  refine ⟨fun first second left right => ?_, fun other => ?_, fun other => ?_, sole.copied⟩
  · exact (elsewhere first left).trans (elsewhere second right).symm
  · by_cases same : other = sender
    · subst same
      simpa [World.setChannel] using one
    · simp [World.setChannel, same, closed other]
  · by_cases same : other = sender
    · subst same
      simpa [World.setChannel] using sound
    · simpa [World.setChannel, same] using sole.sound other

/-- A WRITE lands in the only open window, beside the sections placed before. -/
theorem place {sender : α} {uuid : Uuid} {allocator : BounceSectionAllocator}
    {unplaced window : List BounceSectionDescriptor} {rest : List (List Segment)}
    (writing : (world.channels sender).sender = .writing uuid allocator unplaced window rest)
    {d : BounceSectionDescriptor} (member : d ∈ unplaced) :
    Sole { world.setChannel sender { world.channels sender with
        sender := .writing uuid allocator (unplaced.erase d) window rest } with
      memory := world.memory.write d.sectionOffset d.data } := by
  have count : (world.channels sender).openWindows =
      1 + (world.channels sender).toReceiver.countP Request.isWindow +
        (world.channels sender).session.isDraining.toNat := by
    simp [Channel.openWindows, writing, SendPhase.isWriting]
  have one := sole.single sender
  obtain ⟨apart, inWindow, placed⟩ := (sole.sound sender).writing _ _ _ _ _ writing
  have fits := (sole.sound sender).fits
  simp only [Channel.Fits, writing] at fits
  have counts : ∀ other, ((world.setChannel sender { world.channels sender with
      sender := .writing uuid allocator (unplaced.erase d) window rest }).channels
        other).openWindows = (world.channels other).openWindows := by
    intro other
    by_cases same : other = sender
    · subst same
      simp [World.setChannel, Channel.openWindows, writing, SendPhase.isWriting]
    · simp [World.setChannel, same]
  refine ⟨fun first second left right => ?_, fun other => ?_, fun other => ?_, sole.copied⟩
  · exact sole.sole first second (by rwa [← counts first]) (by rwa [← counts second])
  · exact (counts other).le.trans (sole.single other)
  by_cases same : other = sender
  · subst same
    simp only [World.setChannel, Function.update_self]
    refine ⟨fits, ?_, fun id queued member => ?_, fun id copies ok draining => ?_⟩
    · rintro _ _ _ _ _ ⟨⟩
      refine ⟨apart, fun held later => inWindow held (List.mem_of_mem_erase later), ?_⟩
      intro held inside
      by_cases this : held = d
      · subst this
        exact .inr (ByteMemory.read_write ..)
      · rcases placed held inside with waiting | holds
        · exact .inl ((List.mem_erase_of_ne this).mpr waiting)
        · exact .inr (holds.write
            (apart.forall (inWindow d member) inside (Ne.symm this)))
    · have : 0 < (world.channels other).toReceiver.countP Request.isWindow :=
        List.countP_pos_iff.mpr ⟨_, member, rfl⟩
      omega
    · simp only at draining
      rw [draining] at count
      simp only [Session.isDraining, Bool.toNat_true] at count
      omega
  · have closed : (world.channels other).openWindows = 0 := by
      by_contra opened
      exact same (sole.sole other sender (Nat.pos_of_ne_zero opened) (by omega))
    simpa [World.setChannel, same] using (sole.sound other).of_closed _ closed

theorem step {setup : Setup α} {event : MigrationEvent α} {after : World α}
    (exclusive : Exclusive world event) (stepped : world.step setup event = some after) :
    Sole after := by
  cases event with
  | migrate sender uuid segments =>
    simp only [World.step] at stepped
    split at stepped
    · rename_i idle
      cases stepped
      refine sole.set sender ((sole.sound sender).calm trivial rfl rfl ?_) ?_
      · simp
      · simp [Channel.openWindows, idle, SendPhase.isWriting, Request.isWindow]
    · cases stepped
  | takeReply sender =>
    simp only [World.step] at stepped
    split at stepped
    · cases stepped
    · rename_i reply rest _
      obtain ⟨channel, taken, rfl⟩ := Option.map_eq_some_iff.mp stepped
      have sound := sole.sound sender
      have advances : Channel.Advances { world.channels sender with toSender := rest } channel :=
        Channel.takeReply_advances sound.fits taken
      exact sole.set sender
        (advances.sound ⟨sound.fits, sound.writing, sound.queued, sound.draining⟩)
        advances.openWindows_le
  | giveUp sender =>
    cases stepped
    have advances := (world.channels sender).stop_advances
    exact sole.set sender (advances.sound (sole.sound sender)) advances.openWindows_le
  | submit sender =>
    simp only [World.step] at stepped
    split at stepped
    · rename_i uuid allocator segments rest staged
      cases stepped
      have sound := sole.sound sender
      have fits := sound.fits
      simp only [Channel.Fits, staged] at fits
      have closed := exclusive sender
      simp only [Channel.openWindows, staged] at closed
      cases assigned : assignSections allocator segments with
      | none =>
        have advances := (world.channels sender).stop_advances
        exact sole.set sender (advances.sound sound) advances.openWindows_le
      | some result =>
        obtain ⟨next, window⟩ := result
        obtain ⟨geometry, apart, -⟩ :=
          assignSections_apart (fits segments List.mem_cons_self) assigned
        refine sole.submit sender exclusive ⟨?_, ?_, sound.queued, sound.draining⟩ ?_
        · simp only [Channel.Fits, geometry]
          exact fun window member => fits window (List.mem_cons_of_mem _ member)
        · rintro _ _ _ _ _ ⟨⟩
          exact ⟨apart, fun _ => id, fun _ => .inl⟩
        · simp [Channel.openWindows, SendPhase.isWriting]
          omega
    · cases stepped
  | place sender d =>
    simp only [World.step] at stepped
    split at stepped
    · rename_i uuid allocator unplaced window rest writing
      split at stepped
      · rename_i member
        cases stepped
        exact sole.place writing member
      · cases stepped
    · cases stepped
  | complete sender =>
    simp only [World.step] at stepped
    split at stepped
    · rename_i uuid allocator window rest writing
      cases stepped
      have sound := sole.sound sender
      obtain ⟨-, -, placed⟩ := sound.writing _ _ _ _ _ writing
      have fits := sound.fits
      simp only [Channel.Fits, writing] at fits
      refine sole.set sender ⟨fits, by rintro _ _ _ _ _ ⟨⟩, fun id queued member => ?_, sound.draining⟩ ?_
      · rcases List.mem_append.mp member with earlier | new
        · exact sound.queued id queued earlier
        · cases List.mem_singleton.mp new
          exact fun d inside => (placed d inside).resolve_left List.not_mem_nil
      · simp only [Channel.openWindows, writing, SendPhase.isWriting, Request.isWindow,
          List.countP_append, List.countP_singleton, Bool.toNat_true, Bool.toNat_false, if_true]
        omega
    · cases stepped
  | serve sender =>
    simp only [World.step] at stepped
    split at stepped
    · rename_i request rest waiting queue
      cases stepped
      obtain ⟨sound, fewer⟩ := (sole.sound sender).serve queue waiting _ _
      exact sole.set sender sound fewer
    · cases stepped
  | copy sender deviceOk =>
    simp only [World.step] at stepped
    split at stepped
    · rename_i uuid d target rest ok draining
      cases stepped
      have sound := sole.sound sender
      have holds := sound.draining _ _ _ draining
      have kept : Sole (world.setChannel sender { world.channels sender with
          session := .draining uuid rest (ok && deviceOk) }) := by
        refine sole.set sender ⟨sound.fits, sound.writing, sound.queued, ?_⟩ ?_
        · rintro _ _ _ ⟨⟩
          exact fun copy member => holds copy (List.mem_cons_of_mem _ member)
        · simp [Channel.openWindows, draining, Session.isDraining]
      refine ⟨kept.sole, kept.single, kept.sound, fun write member => ?_⟩
      rcases List.mem_append.mp member with earlier | new
      · exact sole.copied write earlier
      · rw [List.mem_singleton.mp new]
        exact holds _ List.mem_cons_self
    · cases stepped
  | finishDrain sender =>
    simp only [World.step] at stepped
    split at stepped
    · rename_i uuid ok draining
      cases stepped
      have sound := sole.sound sender
      refine sole.set sender ⟨sound.fits, sound.writing, sound.queued, by rintro _ _ _ ⟨⟩⟩ ?_
      simp [Channel.openWindows, draining, Session.isDraining]
    · cases stepped

end

end Sole

/-- While windows are open one at a time, every section goes to its devices as its sender
wrote it. -/
theorem drains_what_was_written [DecidableEq α] {setup : Setup α} {world : World α}
    (reached : Reaches (World.step setup) Exclusive {} world) :
    ∀ write ∈ world.deviceWrites, write.copied = write.written :=
  (reached.invariant Sole sole_init fun _ _ _ sole exclusive stepped =>
    sole.step exclusive stepped).copied

section Runs

instance [Fintype α] (world : World α) :
    (event : MigrationEvent α) → Decidable (Exclusive world event)
  | .submit _ => inferInstanceAs (Decidable (∀ sender, (world.channels sender).openWindows = 0))
  | .migrate .. => inferInstanceAs (Decidable True)
  | .takeReply _ => inferInstanceAs (Decidable True)
  | .giveUp _ => inferInstanceAs (Decidable True)
  | .place .. => inferInstanceAs (Decidable True)
  | .complete _ => inferInstanceAs (Decidable True)
  | .serve _ => inferInstanceAs (Decidable True)
  | .copy .. => inferInstanceAs (Decidable True)
  | .finishDrain _ => inferInstanceAs (Decidable True)

/-- Two prefill hosts and a buffer of two sections. -/
def twoSenders : Setup Bool where
  geometry := { sectionCount := 2, sectionSize := 4 }
  registered := true
  bufferBytes _ := 8

def oneByte (byte : UInt8) : Segment where
  data := [byte]
  targets := [{ device := 0, nocAddr := 16 }]

def firstSection (byte : UInt8) : BounceSectionDescriptor where
  sectionOffset := 0
  data := [byte]
  targets := [{ device := 0, nocAddr := 16 }]

/-- A migration up to its first window. -/
def readied (sender : Bool) (byte : UInt8) : List (MigrationEvent Bool) :=
  [.migrate sender 1 [oneByte byte], .serve sender, .takeReply sender]

def oneByOne : List (MigrationEvent Bool) :=
  readied false 1 ++
    [.submit false, .place false (firstSection 1), .complete false, .serve false,
      .copy false true, .finishDrain false] ++
    readied true 2 ++
    [.submit true, .place true (firstSection 2), .complete true, .serve true, .copy true true]

theorem oneByOne_runs :
    (runWithin (World.step twoSenders) Exclusive {} oneByOne).isSome = true := by
  decide +kernel

theorem drains_what_was_written_oneByOne :
    ((runWithin (World.step twoSenders) Exclusive {} oneByOne).get oneByOne_runs).deviceWrites.map
        (·.written) = [[1], [2]] ∧
      ∀ write ∈ ((runWithin (World.step twoSenders) Exclusive {} oneByOne).get
        oneByOne_runs).deviceWrites, write.copied = write.written :=
  ⟨by decide +kernel, drains_what_was_written (reaches_get oneByOne_runs)⟩

/-- The second sender's WRITE lands between the first one's and its drain. -/
def together : List (MigrationEvent Bool) :=
  readied false 1 ++ readied true 2 ++
    [.submit false, .submit true, .place false (firstSection 1), .complete false,
      .place true (firstSection 2), .serve false, .copy false true]

theorem together_runs : (runWithin (World.step twoSenders) (fun _ _ => True) {} together).isSome =
    true := by
  decide +kernel

/-- A drain of the first sender's window copies what the second one wrote. -/
theorem not_drains_what_was_written : ¬∀ (setup : Setup Bool) (world : World Bool),
    Reaches (World.step setup) (fun _ _ => True) {} world →
      ∀ write ∈ world.deviceWrites, write.copied = write.written := by
  intro law
  have faulty : ({ target := { device := 0, nocAddr := 16 }, written := [1], copied := [2] } :
      DeviceWrite) ∈ ((runWithin (World.step twoSenders) (fun _ _ => True) {} together).get
        together_runs).deviceWrites := by
    decide +kernel
  have same := law twoSenders _ (reaches_get together_runs) _ faulty
  exact absurd same (by decide)

end Runs

end InferenceServer.Migration
