import InferenceServer.Ipc.RingSides

/-! Every step keeps what the ring, the writers and the readers say about each other, as long as
one of a side at most is behind its wait, nobody touches the slot of a crash before `recover` has
looked at it, and the gap that a crash leaves is visible to `recover`. -/
namespace InferenceServer.Ipc.VideoShm

variable {Field : Type*} {shm next : VideoShm Field} {worker : Nat}

structure Sound (shm : VideoShm Field) : Prop where
  memory : Memory shm
  writers : WriterSide shm
  readers : ReaderSide shm

theorem Sound.opened {slots fields : Nat} {zero : Field} (positive : 0 < slots) :
    Sound (opened slots fields zero) where
  memory := {
    positive := positive
    ordered := le_rfl
    fits := Nat.zero_le _
    delivered := List.prefix_rfl
    whole := nofun
    filled := fun _ => ⟨nofun, fun covers => absurd covers (Machine.Covers.nothing 0)⟩
    stored := fun index message _ found => by cases found }
  writers := ⟨nofun, fun _ => rfl, fun _ => trivial⟩
  readers := ⟨nofun, fun _ => rfl, fun _ => trivial⟩

/-- What a step of the writers does not write. -/
structure WriterStep (shm next : VideoShm Field) : Prop where
  slots : next.slots = shm.slots
  fields : next.fields = shm.fields
  readers : next.readers = shm.readers
  readerIndex : next.readerIndex = shm.readerIndex
  consumed : next.consumed = shm.consumed

/-- What a step of the readers does not write. -/
structure ReaderStep (shm next : VideoShm Field) : Prop where
  slots : next.slots = shm.slots
  fields : next.fields = shm.fields
  writers : next.writers = shm.writers
  writerIndex : next.writerIndex = shm.writerIndex
  committed : next.committed = shm.committed
  payload : ∀ index, (next.at_ index).payload = (shm.at_ index).payload

namespace Sound

variable (sound : Sound shm)
variable {place : Writer Field} {widx ridx : Nat} {message : List Field}

include sound

/-- A step of the one writer behind its wait. -/
theorem writer (memory : Memory next) (alone : shm.WriterAlone worker)
    (writers : next.writers = Function.update shm.writers worker place) (rest : WriterStep shm next)
    (fits : next.WriterFits place)
    (settled : place.busy = false → next.writerIndex = next.committed.length)
    (committed : shm.committed <+: next.committed) (later : shm.writerIndex ≤ next.writerIndex)
    (left : (∃ other, (shm.readers other).down = true) →
      shm.committed.length ≤ shm.readerIndex + shm.slots →
      next.committed.length ≤ shm.readerIndex + shm.slots) : Sound next where
  memory := memory
  writers := sound.writers.moves alone writers rest.fields fits settled
  readers := sound.readers.kept rest.readers rest.readerIndex rest.consumed rest.slots rest.fields
    committed later left

/-- A step that only moves the writer. -/
theorem setWriter (alone : shm.WriterAlone worker) (fits : shm.WriterFits place)
    (settled : place.busy = false → shm.writerIndex = shm.committed.length) :
    Sound (shm.setWriter worker place) := by
  refine sound.writer ?_ alone rfl ⟨rfl, rfl, rfl, rfl, rfl⟩ ?_ settled List.prefix_rfl le_rfl
    fun _ room => room
  · exact { sound.memory with }
  · cases place <;> exact fits

theorem reader {place : Reader Field} (memory : Memory next) (alone : shm.ReaderAlone worker)
    (readers : next.readers = Function.update shm.readers worker place)
    (rest : ReaderStep shm next) (fits : next.ReaderFits place)
    (settled : place.busy = false → next.readerIndex = next.consumed.length)
    (grows : shm.consumed.length ≤ next.consumed.length)
    (left : (∃ other, (shm.writers other).down = true) →
      shm.consumed.length ≤ shm.writerIndex → next.consumed.length ≤ shm.writerIndex) :
    Sound next where
  memory := memory
  writers := sound.writers.kept rest.writers rest.writerIndex rest.committed rest.slots
    rest.fields rest.payload grows left
  readers := .moves alone readers fits settled

theorem setReader {place : Reader Field} (alone : shm.ReaderAlone worker)
    (fits : shm.ReaderFits place)
    (settled : place.busy = false → shm.readerIndex = shm.consumed.length) :
    Sound (shm.setReader worker place) := by
  refine sound.reader ?_ alone rfl ⟨rfl, rfl, rfl, rfl, rfl, fun _ => rfl⟩ ?_ settled le_rfl
    fun _ there => there
  · exact { sound.memory with }
  · cases place <;> exact fits

/-- The end of a wait finds the slot free. -/
theorem claims (place : shm.writers worker = .waiting widx message)
    (free : (shm.at_ widx).filled = false) (current : widx = shm.writerIndex)
    (alone : shm.WriterAlone worker) : Sound (shm.setWriter worker (.packing widx message 0)) := by
  have even : shm.writerIndex = shm.committed.length := by
    refine sound.writers.settled fun other => ?_
    by_cases same : other = worker
    · rw [same, place]
      rfl
    · exact alone other same
  have room := sound.memory.free_iff.mp (by rw [← even, ← current]; exact free)
  have whole := sound.writers.fits worker
  rw [place] at whole
  exact sound.setWriter alone ⟨current, even, room, whole, nofun⟩ nofun

theorem packs {packed : Nat} {value : Field}
    (place : shm.writers worker = .packing widx message packed)
    (there : message[packed]? = some value) :
    Sound ((shm.packField widx packed value).setWriter worker
      (.packing widx message (packed + 1))) := by
  have fits := sound.writers.fits worker
  rw [place] at fits
  obtain ⟨current, even, room, whole, stored⟩ := fits
  have alone := sound.writers.alone worker (by rw [place]; rfl)
  have at_end : widx = shm.committed.length := current.trans even
  subst at_end
  have memory := sound.memory.packField room packed value
  refine sound.writer { memory with } alone rfl ⟨rfl, rfl, rfl, rfl, rfl⟩ ?_ nofun
    List.prefix_rfl le_rfl fun _ room => room
  refine ⟨current, even, room, whole, fun position before found here => ?_⟩
  change ((shm.packField _ _ _).at_ _).payload position = found
  rw [packField, at_setSlot, if_pos rfl]
  change Function.update (shm.at_ _).payload packed value position = found
  rw [Function.update_apply]
  split
  · rename_i same
    rw [same, there] at here
    exact Option.some.inj here
  · exact stored position (by omega) found here

theorem fills {packed : Nat} (place : shm.writers worker = .packing widx message packed)
    (done : message[packed]? = none) (leaves : (∃ other, (shm.readers other).down = true) →
      widx ≠ shm.readerIndex + shm.slots) :
    Sound ((shm.fill widx message).setWriter worker (.filled widx message)) := by
  have fits := sound.writers.fits worker
  rw [place] at fits
  obtain ⟨current, even, room, whole, stored⟩ := fits
  have alone := sound.writers.alone worker (by rw [place]; rfl)
  have at_end : widx = shm.committed.length := current.trans even
  subst at_end
  have memory := sound.memory.fill room whole fun position value there => by
    have before := (List.getElem?_eq_some_iff.mp there).1
    exact stored position (before.trans_le (List.getElem?_eq_none_iff.mp done)) value there
  have grown : (shm.committed ++ [message]).length = shm.committed.length + 1 :=
    List.length_append ..
  refine sound.writer { memory with } alone rfl ⟨rfl, rfl, rfl, rfl, rfl⟩ ?_ nofun
    (List.prefix_append _ _) le_rfl fun down room => ?_
  · exact ⟨current, (congrArg (· + 1) even).trans grown.symm, List.getElem?_concat_length⟩
  · have apart := leaves down
    change (shm.committed ++ [message]).length ≤ shm.readerIndex + shm.slots
    rw [grown]
    omega

/-- `recover` compares the indices of a ring that is not full unless its own is right. -/
theorem compares (place : shm.writers worker = .comparing widx)
    (visible : shm.committed.length = shm.writerIndex + 1 →
      shm.writerIndex ≠ shm.readerIndex + shm.slots) :
    Sound (shm.setWriter worker
      (if widx < shm.readerIndex + shm.slots then .probing widx else .idle)) := by
  have alone := sound.writers.alone worker (by rw [place]; rfl)
  have fits := sound.writers.fits worker
  rw [place] at fits
  obtain ⟨current, torn⟩ := fits
  have room := sound.memory.fits
  have near := sound.readers.near
  split
  · refine sound.setWriter alone ⟨current, torn, fun even => ?_⟩ nofun
    omega
  · refine sound.setWriter alone trivial fun _ => torn.resolve_right fun gap => ?_
    have apart := visible gap.1.symm
    omega

/-- The slot at the index of a writer that has crashed is filled only if its bump is missing. -/
theorem probes (place : shm.writers worker = .probing widx) :
    Sound (shm.setWriter worker
      (if (shm.at_ widx).filled then .repairing widx else .idle)) := by
  have alone := sound.writers.alone worker (by rw [place]; rfl)
  have fits := sound.writers.fits worker
  rw [place] at fits
  obtain ⟨current, torn, room⟩ := fits
  subst current
  split
  · rename_i filled
    refine sound.setWriter alone ⟨rfl, torn.elim (fun even => ?_) And.left⟩ nofun
    have free := sound.memory.free_iff.mpr (room even)
    rw [← even, filled] at free
    cases free
  · rename_i free
    refine sound.setWriter alone trivial fun _ => torn.resolve_right fun gap => ?_
    exact free ((sound.memory.filled _).mpr ⟨shm.writerIndex, gap.2, by omega, rfl⟩)

/-- The bump of the writer index, by the call or by `recover`. -/
theorem bumps {accepted : List (Nat × List Field)} (busy : (shm.writers worker).busy = true)
    (current : widx = shm.writerIndex) (behind : shm.writerIndex + 1 = shm.committed.length) :
    Sound { shm.setWriter worker .idle with writerIndex := widx + 1, accepted } := by
  refine sound.writer { sound.memory with } (sound.writers.alone worker busy) rfl
    ⟨rfl, rfl, rfl, rfl, rfl⟩ trivial (fun _ => ?_) List.prefix_rfl ?_ fun _ room => room
  · rw [current]
    exact behind
  · rw [current]
    exact Nat.le_succ _

theorem stepWriter (exclusive : shm.Exclusive (.writer worker))
    (leaves : shm.LeavesCrashedSlot (.writer worker)) (visible : shm.GapVisible (.writer worker))
    (stepped : shm.stepWriter worker = some next) : Sound next := by
  have fits := sound.writers.fits worker
  unfold VideoShm.stepWriter at stepped
  split at stepped
  · rename_i widx message place
    split at stepped
    · cases stepped
      exact sound
    · rename_i free
      cases stepped
      have free := Bool.eq_false_iff.mpr free
      obtain ⟨current, alone⟩ := exclusive widx (by rw [place]; rfl) free
      exact sound.claims place free current alone
  · rename_i widx message packed place
    split at stepped
    · rename_i value there
      cases stepped
      exact sound.packs place there
    · rename_i done
      cases stepped
      refine sound.fills place done fun down same => leaves down ?_
      rw [place, Writer.flipping, if_pos (List.getElem?_eq_none_iff.mp done), same]
  · rename_i widx message place
    cases stepped
    rw [place] at fits
    exact sound.bumps (by rw [place]; rfl) fits.1 fits.2.1
  · rename_i widx place
    cases stepped
    exact sound.compares place (visible (by rw [place]; rfl))
  · rename_i widx place
    cases stepped
    exact sound.probes place
  · rename_i widx place
    cases stepped
    rw [place] at fits
    exact sound.bumps (by rw [place]; rfl) fits.1 fits.2
  · cases stepped
  · cases stepped

/-- The end of a wait finds the next message. -/
theorem takes (place : shm.readers worker = .waiting ridx) (filled : (shm.at_ ridx).filled = true)
    (current : ridx = shm.readerIndex) (alone : shm.ReaderAlone worker) :
    Sound (shm.setReader worker (.unpacking ridx [])) := by
  have even : shm.readerIndex = shm.consumed.length := by
    refine sound.readers.settled fun other => ?_
    by_cases same : other = worker
    · rw [same, place]
      rfl
    · exact alone other same
  have pending := sound.memory.pending_iff.mp (by rw [← even, ← current]; exact filled)
  exact sound.setReader alone ⟨current, even, Nat.zero_le _, _, List.getElem?_eq_getElem pending,
    List.nil_prefix⟩ nofun

theorem unpacks {read : List Field} (place : shm.readers worker = .unpacking ridx read)
    (short : read.length < shm.fields) : Sound (shm.setReader worker
      (.unpacking ridx (read ++ [(shm.at_ ridx).payload read.length]))) := by
  have fits := sound.readers.fits worker
  rw [place] at fits
  obtain ⟨current, even, _, message, found, rest, split⟩ := fits
  have alone := sound.readers.alone worker (by rw [place]; rfl)
  have whole := sound.memory.whole message (List.mem_of_getElem? found)
  refine sound.setReader alone ⟨current, even, ?_, message, found, ?_⟩ nofun
  · rw [List.length_append]
    exact short
  · have stored := sound.memory.stored _ _ le_rfl found
    rw [← current.trans even] at stored
    cases rest with
    | nil =>
      rw [List.append_nil] at split
      rw [split, whole] at short
      exact absurd short (Nat.lt_irrefl _)
    | cons value tail =>
      have there : message[read.length]? = some value := by
        rw [← split, List.getElem?_append_right le_rfl, Nat.sub_self]
        rfl
      rw [stored read.length value there]
      exact ⟨tail, by rw [← split, List.append_assoc]; rfl⟩

theorem empties {read : List Field} (place : shm.readers worker = .unpacking ridx read)
    (done : shm.fields ≤ read.length)
    (leaves : (∃ other, (shm.writers other).down = true) → ridx ≠ shm.writerIndex) :
    Sound ((shm.empty ridx read).setReader worker (.emptied ridx read)) := by
  have fits := sound.readers.fits worker
  rw [place] at fits
  obtain ⟨current, even, _, message, found, start⟩ := fits
  have alone := sound.readers.alone worker (by rw [place]; rfl)
  have whole := sound.memory.whole message (List.mem_of_getElem? found)
  have same : read = message := start.eq_of_length_le (whole.trans_le done)
  subst same
  have first : ridx = shm.consumed.length := current.trans even
  subst first
  have memory := sound.memory.empty found
  have grown : (shm.consumed ++ [read]).length = shm.consumed.length + 1 :=
    List.length_append ..
  refine sound.reader { memory with } alone rfl ⟨rfl, rfl, rfl, rfl, rfl, fun index => ?_⟩ ?_ nofun
    ?_ fun down there => ?_
  · change ((shm.setSlot _ _).at_ index).payload = _
    rw [at_setSlot]
    split
    · rename_i round
      rw [at_, at_, round]
    · rfl
  · exact ⟨current, (congrArg (· + 1) even).trans grown.symm, List.getElem?_concat_length⟩
  · exact grown.symm ▸ Nat.le_succ _
  · have apart := leaves down
    change (shm.consumed ++ [read]).length ≤ shm.writerIndex
    rw [grown]
    omega

/-- The bump of the reader index, by the call or by `recover`. -/
theorem advances {returned : List (Nat × List Field)} (busy : (shm.readers worker).busy = true)
    (current : ridx = shm.readerIndex) (behind : shm.readerIndex + 1 = shm.consumed.length) :
    Sound { shm.setReader worker .idle with readerIndex := ridx + 1, returned } := by
  refine sound.reader { sound.memory with } (sound.readers.alone worker busy) rfl
    ⟨rfl, rfl, rfl, rfl, rfl, fun _ => rfl⟩ trivial (fun _ => ?_) le_rfl fun _ there => there
  rw [current]
  exact behind

theorem comparesReader (place : shm.readers worker = .comparing widx) :
    Sound (shm.setReader worker
      (if shm.readerIndex < widx then .probing shm.readerIndex else .idle)) := by
  have alone := sound.readers.alone worker (by rw [place]; rfl)
  have fits := sound.readers.fits worker
  rw [place] at fits
  obtain ⟨loaded, torn, visible⟩ := fits
  have near := sound.writers.near
  split
  · refine sound.setReader alone ⟨rfl, torn, fun even => ?_⟩ nofun
    omega
  · rename_i none
    exact sound.setReader alone trivial fun _ =>
      torn.resolve_right fun gap => none (visible gap.1)

/-- The slot at the index of a reader that has crashed is empty only if its bump is missing. -/
theorem probesReader (place : shm.readers worker = .probing ridx) :
    Sound (shm.setReader worker
      (if (shm.at_ ridx).filled then .idle else .repairing ridx)) := by
  have alone := sound.readers.alone worker (by rw [place]; rfl)
  have fits := sound.readers.fits worker
  rw [place] at fits
  obtain ⟨current, torn, pending⟩ := fits
  subst current
  split
  · rename_i filled
    refine sound.setReader alone trivial fun _ => torn.resolve_right fun gap => ?_
    have covers := (sound.memory.filled _).mp filled
    rw [← gap.1] at covers
    exact Machine.Covers.not_before gap.2 covers
  · rename_i free
    refine sound.setReader alone ⟨rfl, torn.elim (fun even => ?_) And.left⟩ nofun
    have filled := sound.memory.pending_iff.mpr (pending even)
    rw [← even] at filled
    exact absurd filled free

theorem stepReader (exclusive : shm.Exclusive (.reader worker))
    (leaves : shm.LeavesCrashedSlot (.reader worker))
    (stepped : shm.stepReader worker = some next) : Sound next := by
  have fits := sound.readers.fits worker
  unfold VideoShm.stepReader at stepped
  split at stepped
  · rename_i ridx place
    split at stepped
    · rename_i filled
      cases stepped
      obtain ⟨current, alone⟩ := exclusive ridx (by rw [place]; rfl) filled
      exact sound.takes place filled current alone
    · cases stepped
      exact sound
  · rename_i ridx read place
    split at stepped
    · rename_i short
      cases stepped
      exact sound.unpacks place short
    · rename_i done
      cases stepped
      have done := Nat.le_of_not_lt done
      refine sound.empties place done fun down same => leaves down ?_
      rw [place, Reader.flipping, if_pos done, same]
  · rename_i ridx message place
    cases stepped
    rw [place] at fits
    exact sound.advances (by rw [place]; rfl) fits.1 fits.2.1
  · rename_i widx place
    cases stepped
    exact sound.comparesReader place
  · rename_i ridx place
    cases stepped
    exact sound.probesReader place
  · rename_i ridx place
    cases stepped
    rw [place] at fits
    exact sound.advances (by rw [place]; rfl) fits.1 fits.2
  · cases stepped
  · cases stepped

/-- A writer in front of its wait moves there. -/
theorem rests (free : (shm.writers worker).busy = false) (calm : place.busy = false)
    (fits : shm.WriterFits place) :
    Sound (shm.setWriter worker place) where
  memory := { sound.memory with }
  writers := sound.writers.rests free calm fits
  readers := sound.readers.kept rfl rfl rfl rfl rfl List.prefix_rfl le_rfl fun _ room => room

theorem restsReader {place : Reader Field} (free : (shm.readers worker).busy = false)
    (calm : place.busy = false) : Sound (shm.setReader worker place) where
  memory := { sound.memory with }
  writers := sound.writers.kept rfl rfl rfl rfl rfl (fun _ => rfl) le_rfl fun _ there => there
  readers := sound.readers.rests free calm

theorem abandonWrite (stepped : shm.abandonWrite worker = some next) : Sound next := by
  have fits := sound.writers.fits worker
  unfold VideoShm.abandonWrite at stepped
  split at stepped
  · rename_i place
    cases stepped
    exact sound.rests (by rw [place]; rfl) rfl trivial
  · rename_i place
    cases stepped
    rw [place] at fits
    exact sound.setWriter (sound.writers.alone worker (by rw [place]; rfl)) trivial
      fun _ => fits.2.1
  · cases stepped

theorem abandonRead (stepped : shm.abandonRead worker = some next) : Sound next := by
  have fits := sound.readers.fits worker
  unfold VideoShm.abandonRead at stepped
  split at stepped
  · rename_i place
    cases stepped
    exact sound.restsReader (by rw [place]; rfl) rfl
  · rename_i place
    cases stepped
    rw [place] at fits
    exact sound.setReader (sound.readers.alone worker (by rw [place]; rfl)) trivial
      fun _ => fits.2.1
  · cases stepped

theorem crashWriter (alone : shm.WriterAlone worker)
    (leaves : shm.LeavesCrashedSlot (.crashWriter worker)) :
    Sound (shm.setWriter worker .crashed) := by
  refine sound.setWriter alone (sound.writers.near.imp_right fun gap => ⟨gap, ?_⟩) nofun
  obtain ⟨index, since, before, _⟩ := (sound.memory.filled _).mp (leaves gap.symm)
  omega

theorem crashReader (alone : shm.ReaderAlone worker)
    (leaves : shm.LeavesCrashedSlot (.crashReader worker)) :
    Sound (shm.setReader worker .crashed) := by
  refine sound.setReader alone (sound.readers.near.imp_right fun gap => ⟨gap, ?_⟩) nofun
  have room := sound.memory.fits
  by_contra full
  have covers : Machine.Covers shm.slots shm.consumed.length shm.committed.length
      (shm.readerIndex % shm.slots) :=
    ⟨shm.readerIndex + shm.slots, by have := sound.memory.positive; omega, by omega,
      Nat.add_mod_right ..⟩
  have free := leaves gap.symm
  rw [at_, (sound.memory.filled _).mpr covers] at free
  cases free

theorem step {label : Label Field} (exclusive : shm.Exclusive label)
    (leaves : shm.LeavesCrashedSlot label) (visible : shm.GapVisible label)
    (stepped : shm.step label = some next) : Sound next := by
  cases label with
  | write worker message =>
    simp only [VideoShm.step] at stepped
    split at stepped
    · rename_i place
      split at stepped <;> cases stepped
      exact sound.rests (by rw [place]; rfl) rfl ‹_›
    · cases stepped
  | writer worker => exact sound.stepWriter exclusive leaves visible stepped
  | abandonWrite worker => exact sound.abandonWrite stepped
  | crashWriter worker =>
    cases stepped
    exact sound.crashWriter exclusive leaves
  | recoverWriter worker =>
    simp only [VideoShm.step] at stepped
    split at stepped
    · rename_i place
      cases stepped
      have fits := sound.writers.fits worker
      rw [place] at fits
      exact sound.setWriter (sound.writers.alone worker (by rw [place]; rfl)) ⟨rfl, fits⟩ nofun
    · cases stepped
  | read worker =>
    simp only [VideoShm.step] at stepped
    split at stepped
    · rename_i place
      cases stepped
      exact sound.restsReader (by rw [place]; rfl) rfl
    · cases stepped
  | reader worker => exact sound.stepReader exclusive leaves stepped
  | abandonRead worker => exact sound.abandonRead stepped
  | crashReader worker =>
    cases stepped
    exact sound.crashReader exclusive leaves
  | recoverReader worker =>
    simp only [VideoShm.step] at stepped
    split at stepped
    · rename_i place
      cases stepped
      have fits := sound.readers.fits worker
      rw [place] at fits
      refine sound.setReader (sound.readers.alone worker (by rw [place]; rfl))
        ⟨le_rfl, fits, fun gap => ?_⟩ nofun
      have apart := visible gap.symm
      have near := sound.writers.near
      have ordered := sound.memory.ordered
      omega
    · cases stepped

end Sound
end InferenceServer.Ipc.VideoShm
