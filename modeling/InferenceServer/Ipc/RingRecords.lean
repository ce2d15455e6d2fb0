import InferenceServer.Ipc.RingRuns

/-! What the calls return: a write that returned `True` is one of the messages before the writer
index, and a message that a read returned is one of those before the reader index, in order. -/
namespace InferenceServer.Ipc.VideoShm

variable {Field : Type*} {shm next : VideoShm Field} {label : Label Field}

/-- What a step does to the writer index and to the writes that have returned. -/
inductive Accepts (shm next : VideoShm Field) : Prop
  | nothing (accepted : next.accepted = shm.accepted) (index : next.writerIndex = shm.writerIndex)
  | accepts (worker widx : Nat) (message : List Field)
      (place : shm.writers worker = .filled widx message)
      (accepted : next.accepted = shm.accepted ++ [(worker, message)])
      (index : next.writerIndex = widx + 1)
  | repairs (worker widx : Nat) (place : shm.writers worker = .repairing widx)
      (accepted : next.accepted = shm.accepted) (index : next.writerIndex = widx + 1)

inductive Returns (shm next : VideoShm Field) : Prop
  | nothing (returned : next.returned = shm.returned) (index : next.readerIndex = shm.readerIndex)
  | returns (worker ridx : Nat) (message : List Field)
      (place : shm.readers worker = .emptied ridx message)
      (returned : next.returned = shm.returned ++ [(worker, message)])
      (index : next.readerIndex = ridx + 1)
  | repairs (worker ridx : Nat) (place : shm.readers worker = .repairing ridx)
      (returned : next.returned = shm.returned) (index : next.readerIndex = ridx + 1)

/-- Every step, with what it records. -/
structure Records (shm next : VideoShm Field) : Prop where
  committed : shm.committed <+: next.committed
  consumed : shm.consumed <+: next.consumed
  accepts : Accepts shm next
  returns : Returns shm next

theorem Records.silent (committed : next.committed = shm.committed)
    (consumed : next.consumed = shm.consumed) (accepted : next.accepted = shm.accepted)
    (returned : next.returned = shm.returned) (writerIndex : next.writerIndex = shm.writerIndex)
    (readerIndex : next.readerIndex = shm.readerIndex) : Records shm next :=
  ⟨committed ▸ List.prefix_rfl, consumed ▸ List.prefix_rfl, .nothing accepted writerIndex,
    .nothing returned readerIndex⟩

theorem records_of_stepWriter {worker : Nat} (stepped : shm.stepWriter worker = some next) :
    Records shm next := by
  unfold stepWriter at stepped
  split at stepped
  · split at stepped <;> cases stepped <;> exact .silent rfl rfl rfl rfl rfl rfl
  · split at stepped
    · cases stepped
      exact .silent rfl rfl rfl rfl rfl rfl
    · cases stepped
      exact ⟨List.prefix_append _ _, List.prefix_rfl, .nothing rfl rfl, .nothing rfl rfl⟩
  · rename_i widx message place
    cases stepped
    exact ⟨List.prefix_rfl, List.prefix_rfl, .accepts worker widx message place rfl rfl,
      .nothing rfl rfl⟩
  · cases stepped
    exact .silent rfl rfl rfl rfl rfl rfl
  · cases stepped
    exact .silent rfl rfl rfl rfl rfl rfl
  · rename_i widx place
    cases stepped
    exact ⟨List.prefix_rfl, List.prefix_rfl, .repairs worker widx place rfl rfl, .nothing rfl rfl⟩
  · cases stepped
  · cases stepped

theorem records_of_stepReader {worker : Nat} (stepped : shm.stepReader worker = some next) :
    Records shm next := by
  unfold stepReader at stepped
  split at stepped
  · split at stepped <;> cases stepped <;> exact .silent rfl rfl rfl rfl rfl rfl
  · split at stepped
    · cases stepped
      exact .silent rfl rfl rfl rfl rfl rfl
    · cases stepped
      exact ⟨List.prefix_rfl, List.prefix_append _ _, .nothing rfl rfl, .nothing rfl rfl⟩
  · rename_i ridx message place
    cases stepped
    exact ⟨List.prefix_rfl, List.prefix_rfl, .nothing rfl rfl,
      .returns worker ridx message place rfl rfl⟩
  · cases stepped
    exact .silent rfl rfl rfl rfl rfl rfl
  · cases stepped
    exact .silent rfl rfl rfl rfl rfl rfl
  · rename_i ridx place
    cases stepped
    exact ⟨List.prefix_rfl, List.prefix_rfl, .nothing rfl rfl, .repairs worker ridx place rfl rfl⟩
  · cases stepped
  · cases stepped

theorem records_of_step (stepped : shm.step label = some next) : Records shm next := by
  cases label with
  | writer worker => exact records_of_stepWriter stepped
  | reader worker => exact records_of_stepReader stepped
  | write worker message =>
    simp only [step] at stepped
    split at stepped
    · split at stepped <;> cases stepped
      exact .silent rfl rfl rfl rfl rfl rfl
    · cases stepped
  | abandonWrite worker =>
    simp only [step, abandonWrite] at stepped
    split at stepped <;> cases stepped <;> exact .silent rfl rfl rfl rfl rfl rfl
  | abandonRead worker =>
    simp only [step, abandonRead] at stepped
    split at stepped <;> cases stepped <;> exact .silent rfl rfl rfl rfl rfl rfl
  | crashWriter worker | crashReader worker =>
    cases stepped
    exact .silent rfl rfl rfl rfl rfl rfl
  | read worker | recoverWriter worker | recoverReader worker =>
    simp only [step] at stepped
    split at stepped <;> cases stepped
    exact .silent rfl rfl rfl rfl rfl rfl

/-- What has been returned, in the order of the messages. -/
structure Recorded (shm : VideoShm Field) : Prop where
  accepted : (shm.accepted.map Prod.snd).Sublist (shm.committed.take shm.writerIndex)
  returned : (shm.returned.map Prod.snd).Sublist (shm.consumed.take shm.readerIndex)

/-- One more message is within reach, and may have been returned. -/
theorem sublist_take {items later : List (List Field)} {returned : List (Nat × List Field)}
    {index : Nat} (recorded : (returned.map Prod.snd).Sublist (items.take index))
    (grown : items <+: later) : (returned.map Prod.snd).Sublist (later.take (index + 1)) ∧
      ∀ worker message, items[index]? = some message →
        ((returned ++ [(worker, message)]).map Prod.snd).Sublist (later.take (index + 1)) := by
  have kept : (items.take (index + 1)).Sublist (later.take (index + 1)) :=
    (grown.take (index + 1)).sublist
  have split : items.take (index + 1) = items.take index ++ items[index]?.toList :=
    List.take_add_one
  refine ⟨(recorded.trans ?_).trans kept, fun worker message found => List.Sublist.trans ?_ kept⟩
  · rw [split]
    exact List.sublist_append_left _ _
  · rw [split, found, List.map_append]
    exact recorded.append (List.Sublist.refl _)

theorem Recorded.step (recorded : Recorded shm) (sound : Sound shm)
    (stepped : shm.step label = some next) : Recorded next := by
  have records := records_of_step stepped
  constructor
  · cases records.accepts with
    | nothing accepted index =>
      rw [accepted, index]
      exact recorded.accepted.trans (records.committed.take _).sublist
    | accepts worker widx message place accepted index =>
      have fits := sound.writers.fits worker
      rw [place] at fits
      rw [accepted, index, fits.1]
      exact (sublist_take recorded.accepted records.committed).2 worker message
        (fits.1 ▸ fits.2.2)
    | repairs worker widx place accepted index =>
      have fits := sound.writers.fits worker
      rw [place] at fits
      rw [accepted, index, fits.1]
      exact (sublist_take recorded.accepted records.committed).1
  · cases records.returns with
    | nothing returned index =>
      rw [returned, index]
      exact recorded.returned.trans (records.consumed.take _).sublist
    | returns worker ridx message place returned index =>
      have fits := sound.readers.fits worker
      rw [place] at fits
      rw [returned, index, fits.1]
      exact (sublist_take recorded.returned records.consumed).2 worker message
        (fits.1 ▸ fits.2.2)
    | repairs worker ridx place returned index =>
      have fits := sound.readers.fits worker
      rw [place] at fits
      rw [returned, index, fits.1]
      exact (sublist_take recorded.returned records.consumed).1

end InferenceServer.Ipc.VideoShm

/-! A caller that has something to do gets it done by its own steps: a reader with a message that
has not been consumed, and a writer with room in the ring. -/
namespace InferenceServer.Ipc.VideoShm

open Machine

variable {Field : Type*} {shm next : VideoShm Field} {worker : Nat}
variable {middle later : VideoShm Field} {ridx widx : Nat} {message : List Field}

/-- The steps of one reader. -/
def ByReader (worker : Nat) (shm later : VideoShm Field) : Prop :=
  Reaches step (fun _ label => label = .reader worker) shm later

def ByWriter (worker : Nat) (shm later : VideoShm Field) : Prop :=
  Reaches step (fun _ label => label = .writer worker) shm later

theorem ByReader.head (stepped : shm.stepReader worker = some middle)
    (rest : ByReader worker middle later) : ByReader worker shm later := by
  have first : ByReader worker shm middle :=
    .tail .refl (show Label.reader worker = .reader worker from rfl) stepped
  exact first.trans rest

theorem ByWriter.head (stepped : shm.stepWriter worker = some middle)
    (rest : ByWriter worker middle later) : ByWriter worker shm later := by
  have first : ByWriter worker shm middle :=
    .tail .refl (show Label.writer worker = .writer worker from rfl) stepped
  exact first.trans rest

section

variable (sound : Sound shm)
include sound

theorem Sound.unpacks_all {read : List Field} (place : shm.readers worker = .unpacking ridx read)
    (first : shm.committed[shm.consumed.length]? = some message) :
    ∃ later, ByReader worker shm later ∧ later.consumed = shm.consumed ++ [message] := by
  generalize left : shm.fields - read.length = count
  induction count generalizing shm read with
  | zero =>
    have done : ¬ read.length < shm.fields := by omega
    have fits := sound.readers.fits worker
    rw [place] at fits
    obtain ⟨_, _, _, other, found, start⟩ := fits
    cases first.symm.trans found
    have whole := sound.memory.whole message (List.mem_of_getElem? found)
    have same : read = message := start.eq_of_length_le (by omega)
    refine ⟨(shm.empty ridx read).setReader worker (.emptied ridx read), .head ?_ .refl, ?_⟩
    · simp only [VideoShm.stepReader, place, if_neg done]
    · exact same ▸ rfl
  | succ count ih =>
    have short : read.length < shm.fields := by omega
    have here : (shm.setReader worker (.unpacking ridx
        (read ++ [(shm.at_ ridx).payload read.length]))).readers worker = .unpacking ridx
          (read ++ [(shm.at_ ridx).payload read.length]) :=
      Function.update_self ..
    obtain ⟨later, reached, consumed⟩ := ih (sound.unpacks place short) here first (by
      change shm.fields - (read ++ [(shm.at_ ridx).payload read.length]).length = count
      rw [List.length_append, List.length_singleton]
      omega)
    refine ⟨later, .head ?_ reached, consumed⟩
    simp only [VideoShm.stepReader, place, if_pos short]

/-- A reader that waits with the current index delivers the next message. -/
theorem Sound.delivers (place : shm.readers worker = .waiting ridx)
    (current : ridx = shm.readerIndex) (alone : shm.ReaderAlone worker)
    (first : shm.committed[shm.consumed.length]? = some message) :
    ∃ later, ByReader worker shm later ∧ later.consumed = shm.consumed ++ [message] := by
  have even : shm.readerIndex = shm.consumed.length := by
    refine sound.readers.settled fun other => ?_
    by_cases same : other = worker
    · rw [same, place]
      rfl
    · exact alone other same
  have filled : (shm.at_ ridx).filled = true := by
    rw [current, even]
    exact sound.memory.pending_iff.mpr (List.getElem?_eq_some_iff.mp first).1
  have here : (shm.setReader worker (.unpacking ridx [])).readers worker = .unpacking ridx [] :=
    Function.update_self ..
  obtain ⟨later, reached, consumed⟩ :=
    (sound.takes place filled current alone).unpacks_all here first
  refine ⟨later, .head ?_ reached, consumed⟩
  simp only [VideoShm.stepReader, place, if_pos filled]

theorem Sound.packs_all {packed : Nat} (place : shm.writers worker = .packing widx message packed) :
    ∃ later, ByWriter worker shm later ∧ later.committed = shm.committed ++ [message] := by
  generalize left : message.length - packed = count
  induction count generalizing shm packed with
  | zero =>
    have done : message[packed]? = none := List.getElem?_eq_none_iff.mpr (by omega)
    refine ⟨(shm.fill widx message).setWriter worker (.filled widx message), .head ?_ .refl, rfl⟩
    simp only [VideoShm.stepWriter, place, done]
  | succ count ih =>
    obtain ⟨value, there⟩ : ∃ value, message[packed]? = some value :=
      ⟨message[packed], List.getElem?_eq_getElem (by omega)⟩
    have here : ((shm.packField widx packed value).setWriter worker
        (.packing widx message (packed + 1))).writers worker =
          .packing widx message (packed + 1) :=
      Function.update_self ..
    obtain ⟨later, reached, committed⟩ := ih (sound.packs place there) here (by omega)
    refine ⟨later, .head ?_ reached, committed⟩
    simp only [VideoShm.stepWriter, place, there]

/-- A writer that waits with the current index commits its message when there is room. -/
theorem Sound.commits (place : shm.writers worker = .waiting widx message)
    (current : widx = shm.writerIndex) (alone : shm.WriterAlone worker)
    (room : shm.committed.length < shm.consumed.length + shm.slots) :
    ∃ later, ByWriter worker shm later ∧ later.committed = shm.committed ++ [message] := by
  have even : shm.writerIndex = shm.committed.length := by
    refine sound.writers.settled fun other => ?_
    by_cases same : other = worker
    · rw [same, place]
      rfl
    · exact alone other same
  have free : (shm.at_ widx).filled = false := by
    rw [current, even]
    exact sound.memory.free_iff.mpr room
  have here : (shm.setWriter worker (.packing widx message 0)).writers worker =
      .packing widx message 0 :=
    Function.update_self ..
  obtain ⟨later, reached, committed⟩ := (sound.claims place free current alone).packs_all here
  refine ⟨later, .head ?_ reached, committed⟩
  simp [VideoShm.stepWriter, place, free]

end

end InferenceServer.Ipc.VideoShm
