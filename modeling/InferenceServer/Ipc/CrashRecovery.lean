import InferenceServer.Ipc.RingRecords
import InferenceServer.Ipc.RingRoles

/-! One writer and one reader, either of which may crash and be replaced. `recover` leaves an index
alone when the counters read full or empty, and the counter of a live peer that has flipped its
slot but not bumped yet makes them read so: then the gap stays. In every other run the messages
are delivered once, in order, and the ring does not stall. -/
namespace InferenceServer.Ipc.VideoShm

open Machine

variable {Field : Type*} {shm next : VideoShm Field} {label : Label Field}

/-- One writer and one reader; a crashed slot is left alone until `recover` has seen it, and the
gap is visible to `recover`. -/
structure Recoverable (shm : VideoShm Field) (label : Label Field) : Prop where
  first : label.worker = 0
  leaves : shm.LeavesCrashedSlot label
  visible : shm.GapVisible label

/-- Messages are consumed in the order in which they were committed, each once, and what reads have
returned is part of that; a reader that waits delivers the next message if there is one, and a
writer that waits commits its own if there is room. -/
theorem recover_delivers {slots fields : Nat} {zero : Field} (positive : 0 < slots)
    (reached : Reaches step Recoverable (opened slots fields zero) shm) :
    shm.consumed <+: shm.committed ∧
      (shm.returned.map Prod.snd).Sublist shm.consumed ∧
      (∀ ridx, shm.readers 0 = .waiting ridx →
        ∀ message, shm.committed[shm.consumed.length]? = some message →
          ∃ later, ByReader 0 shm later ∧ later.consumed = shm.consumed ++ [message]) ∧
      ∀ widx message, shm.writers 0 = .waiting widx message →
        shm.committed.length < shm.consumed.length + shm.slots →
        ∃ later, ByWriter 0 shm later ∧ later.committed = shm.committed ++ [message] := by
  have kept : ∀ (before : VideoShm Field) label after,
      (Sound before ∧ Recorded before) ∧ SingleWriter before ∧ SingleReader before →
      Recoverable before label → before.step label = some after →
      (Sound after ∧ Recorded after) ∧ SingleWriter after ∧ SingleReader after := by
    intro before label after ⟨⟨sound, recorded⟩, writer, reader⟩ allowed stepped
    have exclusive : before.Exclusive label := by
      cases side : label.ofWriter with
      | true => exact writer.exclusive side allowed.first
      | false => exact reader.exclusive side allowed.first
    exact ⟨⟨sound.step exclusive allowed.leaves allowed.visible stepped,
      recorded.step sound stepped⟩, writer.step (fun _ => allowed.first) stepped,
      reader.step (fun _ => allowed.first) stepped⟩
  obtain ⟨⟨sound, recorded⟩, writer, reader⟩ := reached.invariant
    (fun shm => (Sound shm ∧ Recorded shm) ∧ SingleWriter shm ∧ SingleReader shm)
    ⟨⟨.opened positive, .slnil, .slnil⟩, .opened slots fields zero, .opened slots fields zero⟩ kept
  exact ⟨sound.memory.delivered, recorded.returned.trans (List.take_sublist _ _),
    fun ridx place message => sound.delivers place (reader.current ridx place) reader.alone,
    fun widx message place => sound.commits place (writer.current widx message place)
      writer.alone⟩

/-- `LeavesCrashedSlot` with nobody to look at but the first writer and the first reader. -/
def FirstLeaves (shm : VideoShm Field) : Label Field → Prop
  | .writer worker => (shm.readers 0).down = true →
      (shm.writers worker).flipping ≠ some (shm.readerIndex + shm.slots)
  | .reader worker => (shm.writers 0).down = true →
      (shm.readers worker).flipping shm.fields ≠ some shm.writerIndex
  | .crashWriter _ => shm.committed.length = shm.writerIndex + 1 →
      (shm.at_ shm.writerIndex).filled = true
  | .crashReader _ => shm.consumed.length = shm.readerIndex + 1 →
      (shm.at_ shm.readerIndex).filled = false
  | _ => True

theorem Few.leaves (few : Few 1 shm) (leaves : shm.FirstLeaves label) :
    shm.LeavesCrashedSlot label := by
  cases label with
  | writer worker =>
    rintro ⟨other, down⟩
    by_cases first : other = 0
    · exact leaves (first ▸ down)
    · rw [(few other (Nat.one_le_iff_ne_zero.mpr first)).2] at down
      cases down
  | reader worker =>
    rintro ⟨other, down⟩
    by_cases first : other = 0
    · exact leaves (first ▸ down)
    · rw [(few other (Nat.one_le_iff_ne_zero.mpr first)).1] at down
      cases down
  | crashWriter worker | crashReader worker => exact leaves
  | write | abandonWrite | recoverWriter | read | abandonRead | recoverReader => trivial

instance (shm : VideoShm Field) (label : Label Field) : Decidable (shm.FirstLeaves label) :=
  match label with
  | .writer worker => inferInstanceAs (Decidable ((shm.readers 0).down = true →
      (shm.writers worker).flipping ≠ some (shm.readerIndex + shm.slots)))
  | .reader worker => inferInstanceAs (Decidable ((shm.writers 0).down = true →
      (shm.readers worker).flipping shm.fields ≠ some shm.writerIndex))
  | .crashWriter _ => inferInstanceAs (Decidable (shm.committed.length = shm.writerIndex + 1 →
      (shm.at_ shm.writerIndex).filled = true))
  | .crashReader _ => inferInstanceAs (Decidable (shm.consumed.length = shm.readerIndex + 1 →
      (shm.at_ shm.readerIndex).filled = false))
  | .write .. | .abandonWrite _ | .recoverWriter _ | .read _ | .abandonRead _
  | .recoverReader _ => .isTrue trivial

instance (shm : VideoShm Field) (label : Label Field) : Decidable (shm.GapVisible label) :=
  match label with
  | .writer worker => inferInstanceAs (Decidable ((shm.writers worker).isComparing = true →
      shm.committed.length = shm.writerIndex + 1 →
      shm.writerIndex ≠ shm.readerIndex + shm.slots))
  | .recoverReader _ => inferInstanceAs (Decidable (shm.consumed.length = shm.readerIndex + 1 →
      shm.readerIndex ≠ shm.writerIndex))
  | .write .. | .abandonWrite _ | .crashWriter _ | .recoverWriter _ | .read _ | .reader _
  | .abandonRead _ | .crashReader _ => .isTrue trivial

/-- A run checked step by step leaves the slots of its crashes alone. -/
theorem leaves_of_checked {slots fields : Nat} {zero : Field}
    {holds : VideoShm Field → Label Field → Prop}
    (checked : Reaches step (fun shm label => label.worker = 0 ∧ shm.FirstLeaves label ∧
      holds shm label) (opened slots fields zero) shm) :
    Reaches step (fun shm label => label.worker = 0 ∧ shm.LeavesCrashedSlot label ∧
      holds shm label) (opened slots fields zero) shm := by
  induction checked with
  | refl => exact .refl
  | tail earlier permitted stepped ih =>
    have few := earlier.invariant (Few 1) (fun _ _ => ⟨rfl, rfl⟩)
      fun _ _ _ few permitted stepped => few.step (permitted.1 ▸ Nat.one_pos) stepped
    exact .tail ih ⟨permitted.1, few.leaves permitted.2.1, permitted.2.2⟩ stepped

/-- A writer crashes between the flip and the bump, and its replacement repairs the index. -/
def repairedWriter : List (Label Nat) :=
  [.write 0 [7], .writer 0, .writer 0, .writer 0, .crashWriter 0, .recoverWriter 0, .writer 0,
    .writer 0, .writer 0, .read 0]

theorem repairedWriter_runs : (runWithin step (fun shm label => label.worker = 0 ∧
    shm.FirstLeaves label ∧ shm.GapVisible label) (opened 4 1 0) repairedWriter).isSome = true := by
  decide +kernel

def repaired : VideoShm Nat :=
  (runWithin step (fun shm label => label.worker = 0 ∧ shm.FirstLeaves label ∧
    shm.GapVisible label) (opened 4 1 0) repairedWriter).get repairedWriter_runs

theorem recover_delivers_repaired :
    repaired.writerIndex = 1 ∧ ∃ later, ByReader 0 repaired later ∧ later.consumed = [[7]] := by
  have reached : Reaches step Recoverable (opened 4 1 0) repaired :=
    (leaves_of_checked (reaches_get repairedWriter_runs)).mono
      fun _ _ both => ⟨both.1, both.2.1, both.2.2⟩
  refine ⟨by decide +kernel, ?_⟩
  exact (recover_delivers (by decide) reached).2.2.1 0 (by decide +kernel) [7] (by decide +kernel)

/-- Through all crashes and recoveries, a message that is written and not yet read is whole in its
slot, and only such slots are marked filled. -/
theorem unread_intact {slots fields : Nat} {zero : Field} (positive : 0 < slots)
    (reached : Reaches step Recoverable (opened slots fields zero) shm) :
    (∀ number message, shm.consumed.length ≤ number → shm.committed[number]? = some message →
      (shm.at_ number).filled = true ∧
        ∀ position value, message[position]? = some value →
          (shm.at_ number).payload position = value) ∧
    (∀ position, (shm.slot position).filled = true →
      ∃ number, shm.consumed.length ≤ number ∧ number < shm.committed.length ∧
        number % shm.slots = position) ∧
    shm.committed.length ≤ shm.consumed.length + shm.slots := by
  obtain ⟨sound, -, -⟩ := reached.invariant
    (fun shm => Sound shm ∧ SingleWriter shm ∧ SingleReader shm)
    ⟨.opened positive, .opened slots fields zero, .opened slots fields zero⟩
    fun before label after ⟨sound, writer, reader⟩ allowed stepped => by
      have exclusive : before.Exclusive label := by
        cases side : label.ofWriter with
        | true => exact writer.exclusive side allowed.first
        | false => exact reader.exclusive side allowed.first
      exact ⟨sound.step exclusive allowed.leaves allowed.visible stepped,
        writer.step (fun _ => allowed.first) stepped, reader.step (fun _ => allowed.first) stepped⟩
  refine ⟨fun number message unread written => ⟨?_, sound.memory.stored number message unread written⟩,
    fun position => (sound.memory.filled position).mp, sound.memory.fits⟩
  refine (sound.memory.filled _).mpr ⟨number, unread, ?_, rfl⟩
  exact (List.getElem?_eq_some_iff.mp written).1

theorem unread_intact_repaired : repaired.committed.length ≤ repaired.consumed.length + 4 :=
  have reached : Reaches step Recoverable (opened 4 1 0) repaired :=
    (leaves_of_checked (reaches_get repairedWriter_runs)).mono
      fun _ _ both => ⟨both.1, both.2.1, both.2.2⟩
  (unread_intact (by decide) reached).2.2.trans (by decide +kernel)

/-- A reader crashes between the flip and the bump while the writer of that message has not bumped
its own index yet: the ring reads empty. -/
def missedGap : List (Label Nat) :=
  [.write 0 [7], .writer 0, .writer 0, .writer 0, .read 0, .reader 0, .reader 0, .reader 0,
    .crashReader 0, .recoverReader 0, .reader 0, .writer 0, .write 0 [8], .writer 0, .writer 0,
    .writer 0, .writer 0, .read 0]

theorem missedGap_runs : (runWithin step (fun shm label => label.worker = 0 ∧
    shm.FirstLeaves label ∧ True) (opened 4 1 0) missedGap).isSome = true := by
  decide +kernel

def stalled : VideoShm Nat :=
  (runWithin step (fun shm label => label.worker = 0 ∧ shm.FirstLeaves label ∧ True)
    (opened 4 1 0) missedGap).get missedGap_runs

theorem stalled_slot : stalled.readers 0 = .waiting 0 ∧ (stalled.at_ 0).filled = false := by
  decide +kernel

/-- A committed message stays in the ring, however long its reader waits for it. -/
theorem recover_misses_gap :
    Reaches step (fun shm label => label.worker = 0 ∧ shm.LeavesCrashedSlot label)
      (opened 4 1 0) stalled ∧ stalled.committed = [[7], [8]] ∧
      ∀ later, ByReader 0 stalled later → later.consumed = [[7]] := by
  refine ⟨(leaves_of_checked (reaches_get missedGap_runs)).mono fun _ _ both => ⟨both.1, both.2.1⟩,
    by decide +kernel, fun later reached => ?_⟩
  have same : later = stalled := by
    refine reached.invariant (· = stalled) rfl fun before label after here label_ stepped => ?_
    subst here label_
    rw [step, stepReader, stalled_slot.1] at stepped
    simp only [stalled_slot.2, Bool.false_eq_true, if_false] at stepped
    exact (Option.some.inj stepped).symm
  rw [same]
  decide +kernel

end InferenceServer.Ipc.VideoShm
