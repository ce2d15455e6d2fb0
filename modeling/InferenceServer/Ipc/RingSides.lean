import InferenceServer.Ipc.VideoShm
import InferenceServer.Machine.RingWindow

/-! The slots of the ring: those filled belong to the messages that have been flipped to filled
and not yet to empty, and hold their fields. -/
namespace InferenceServer.Ipc.VideoShm

open Machine

variable {Field : Type*} {shm : VideoShm Field}

/-- The slots hold the messages that have been committed and not consumed. -/
structure Memory (shm : VideoShm Field) : Prop where
  positive : 0 < shm.slots
  ordered : shm.consumed.length ≤ shm.committed.length
  fits : shm.committed.length ≤ shm.consumed.length + shm.slots
  delivered : shm.consumed <+: shm.committed
  whole : ∀ message ∈ shm.committed, message.length = shm.fields
  filled : ∀ position, (shm.slot position).filled = true ↔
    Covers shm.slots shm.consumed.length shm.committed.length position
  stored : ∀ index message, shm.consumed.length ≤ index → shm.committed[index]? = some message →
    ∀ position value, message[position]? = some value →
      (shm.at_ index).payload position = value

theorem at_setSlot (index other : Nat) (slot : Slot Field) : (shm.setSlot index slot).at_ other =
    if other % shm.slots = index % shm.slots then slot else shm.at_ other :=
  Function.update_apply ..

theorem slot_setSlot (index position : Nat) (slot : Slot Field) :
    (shm.setSlot index slot).slot position =
      if position = index % shm.slots then slot else shm.slot position :=
  Function.update_apply ..

namespace Memory

variable (memory : Memory shm)

include memory

theorem free_iff : (shm.at_ shm.committed.length).filled = false ↔
    shm.committed.length < shm.consumed.length + shm.slots := by
  have positive := memory.positive
  have fits := memory.fits
  rw [← Bool.not_eq_true, at_, memory.filled, Covers.at_past_iff memory.ordered memory.fits]
  omega

theorem pending_iff : (shm.at_ shm.consumed.length).filled = true ↔
    shm.consumed.length < shm.committed.length := by
  rw [at_, memory.filled, Covers.at_first_iff]

section

variable (room : shm.committed.length < shm.consumed.length + shm.slots)
include room

/-- A slot before its flip is nobody else's. -/
theorem packField (position : Nat) (value : Field) :
    Memory (shm.packField shm.committed.length position value) := { memory with
  filled other := by
    rw [VideoShm.packField, slot_setSlot]
    split
    · rename_i here
      rw [here]
      exact memory.filled _
    · exact memory.filled other
  stored index message since found spot stored there := by
    have before := (List.getElem?_eq_some_iff.mp found).1
    change shm.committed[index]? = some message at found
    change index < shm.committed.length at before
    change shm.consumed.length ≤ index at since
    rw [VideoShm.packField, at_setSlot, if_neg]
    · exact memory.stored index message since found spot stored there
    · intro same
      have equal := eq_of_mod_eq same (by omega) (by omega)
      omega }

theorem fill {message : List Field} (whole : message.length = shm.fields)
    (packed : ∀ position value, message[position]? = some value →
      (shm.at_ shm.committed.length).payload position = value) :
    Memory (shm.fill shm.committed.length message) where
  positive := memory.positive
  ordered := by
    have ordered := memory.ordered
    change shm.consumed.length ≤ (shm.committed ++ [message]).length
    rw [List.length_append]
    omega
  fits := by
    change (shm.committed ++ [message]).length ≤ shm.consumed.length + shm.slots
    rw [List.length_append]
    exact room
  delivered := memory.delivered.trans (List.prefix_append _ _)
  whole other member := by
    rcases List.mem_append.mp member with old | new
    · exact memory.whole other old
    · rw [List.mem_singleton.mp new]
      exact whole
  filled position := by
    change (((shm.setSlot _ _).slot position).filled = true) ↔
      Covers shm.slots shm.consumed.length (shm.committed ++ [message]).length position
    rw [slot_setSlot, List.length_append, List.length_singleton, Covers.push_iff memory.ordered]
    split
    · rename_i here
      exact ⟨fun _ => .inl here, fun _ => rfl⟩
    · rename_i different
      rw [memory.filled]
      exact ⟨.inr, fun covers => covers.resolve_left different⟩
  stored index other since found position value there := by
    change shm.consumed.length ≤ index at since
    change (shm.committed ++ [message])[index]? = some other at found
    have kept : ((shm.fill shm.committed.length message).at_ index).payload =
        (shm.at_ index).payload := by
      change ((shm.setSlot _ _).at_ index).payload = _
      rw [at_setSlot]
      split
      · rename_i same
        rw [at_, at_, same]
      · rfl
    rw [kept]
    rcases Nat.lt_or_ge index shm.committed.length with old | new
    · rw [List.getElem?_append_left old] at found
      exact memory.stored index other since found position value there
    · rw [List.getElem?_append_right new] at found
      obtain ⟨at_end, rfl⟩ := List.getElem?_eq_some_iff.mp found
      have zero : index = shm.committed.length := by
        have bound := at_end
        rw [List.length_singleton] at bound
        omega
      subst zero
      simp only [Nat.sub_self, List.getElem_cons_zero] at there
      exact packed position value there

end

theorem empty {message : List Field}
    (next : shm.committed[shm.consumed.length]? = some message) :
    Memory (shm.empty shm.consumed.length message) where
  positive := memory.positive
  ordered := by
    have before := (List.getElem?_eq_some_iff.mp next).1
    change (shm.consumed ++ [message]).length ≤ shm.committed.length
    rw [List.length_append]
    exact before
  fits := by
    have fits := memory.fits
    change shm.committed.length ≤ (shm.consumed ++ [message]).length + shm.slots
    rw [List.length_append]
    omega
  delivered := by
    obtain ⟨rest, split⟩ := memory.delivered
    change (shm.consumed ++ [message]) <+: shm.committed
    rw [← split, List.getElem?_append_right le_rfl, Nat.sub_self] at next
    cases rest with
    | nil => cases next
    | cons first tail =>
      cases next
      exact ⟨tail, by rw [← split, List.append_assoc]; rfl⟩
  whole := memory.whole
  filled position := by
    change (((shm.setSlot _ _).slot position).filled = true) ↔
      Covers shm.slots (shm.consumed ++ [message]).length shm.committed.length position
    rw [slot_setSlot, List.length_append, List.length_singleton, Covers.pop_iff memory.fits]
    split
    · rename_i here
      exact ⟨nofun, fun both => absurd here both.1⟩
    · rename_i different
      rw [memory.filled]
      exact ⟨fun covers => ⟨different, covers⟩, fun both => both.2⟩
  stored index other since found position value there := by
    change (shm.consumed ++ [message]).length ≤ index at since
    rw [List.length_append, List.length_singleton] at since
    have kept : ((shm.empty shm.consumed.length message).at_ index).payload =
        (shm.at_ index).payload := by
      change ((shm.setSlot _ _).at_ index).payload = _
      rw [at_setSlot]
      split
      · rename_i same
        rw [at_, at_, same]
      · rfl
    rw [kept]
    exact memory.stored index other (by omega) found position value there

end Memory

end InferenceServer.Ipc.VideoShm

/-! What the index and the places of all writers say about the messages, and the same for the
readers: one of a side at most is behind its wait. -/
namespace InferenceServer.Ipc.VideoShm

variable {Field : Type*} {shm next : VideoShm Field} {worker : Nat}

/-- After a crash the writer index is the number of messages, or one behind with the last message
still in its slot. -/
def WriterTorn (shm : VideoShm Field) : Prop :=
  shm.writerIndex = shm.committed.length ∨
    shm.writerIndex + 1 = shm.committed.length ∧ shm.consumed.length ≤ shm.writerIndex

/-- What the place of a writer says about the ring. -/
def WriterFits (shm : VideoShm Field) : Writer Field → Prop
  | .idle => True
  | .waiting _ message => message.length = shm.fields
  | .packing widx message packed => widx = shm.writerIndex ∧
      shm.writerIndex = shm.committed.length ∧
      shm.committed.length < shm.consumed.length + shm.slots ∧ message.length = shm.fields ∧
      ∀ position, position < packed → ∀ value, message[position]? = some value →
        (shm.at_ widx).payload position = value
  | .filled widx message => widx = shm.writerIndex ∧
      shm.writerIndex + 1 = shm.committed.length ∧ shm.committed[widx]? = some message
  | .crashed => shm.WriterTorn
  | .comparing widx => widx = shm.writerIndex ∧ shm.WriterTorn
  | .probing widx => widx = shm.writerIndex ∧ shm.WriterTorn ∧
      (shm.writerIndex = shm.committed.length →
        shm.committed.length < shm.consumed.length + shm.slots)
  | .repairing widx => widx = shm.writerIndex ∧ shm.writerIndex + 1 = shm.committed.length

/-- At most one writer is behind its wait; with none the index is the number of messages. -/
structure WriterSide (shm : VideoShm Field) : Prop where
  alone : ∀ worker, (shm.writers worker).busy = true → shm.WriterAlone worker
  settled : (∀ worker, (shm.writers worker).busy = false) →
    shm.writerIndex = shm.committed.length
  fits : ∀ worker, shm.WriterFits (shm.writers worker)

theorem WriterFits.of_free {writer : Writer Field} (free : writer.busy = false)
    (fits : shm.WriterFits writer) (fields : next.fields = shm.fields) : next.WriterFits writer := by
  cases writer with
  | idle => trivial
  | waiting widx message => exact Eq.trans fits fields.symm
  | packing | filled | crashed | comparing | probing | repairing => cases free

namespace WriterSide

section

variable (side : WriterSide shm)
include side

/-- The one writer behind its wait, or about to be, takes a step. -/
theorem moves {writer : Writer Field} (alone : shm.WriterAlone worker)
    (writers : next.writers = Function.update shm.writers worker writer)
    (fields : next.fields = shm.fields) (fits : next.WriterFits writer)
    (settled : writer.busy = false → next.writerIndex = next.committed.length) :
    WriterSide next := by
  have here : next.writers worker = writer := by rw [writers, Function.update_self]
  have there : ∀ other, other ≠ worker → next.writers other = shm.writers other := by
    intro other different
    rw [writers, Function.update_of_ne different]
  refine ⟨fun other busy => ?_, fun free => settled ?_, fun other => ?_⟩
  · have same : other = worker := by
      by_contra different
      rw [there other different, alone other different] at busy
      cases busy
    rintro another different
    rw [same] at different
    rw [there another different]
    exact alone another different
  · rw [← here]
    exact free worker
  · by_cases same : other = worker
    · rw [same, here]
      exact fits
    · rw [there other same]
      exact (side.fits other).of_free (alone other same) fields

/-- A writer in front of its wait stays there. -/
theorem rests {writer : Writer Field} (free : (shm.writers worker).busy = false)
    (calm : writer.busy = false) (fits : shm.WriterFits writer) :
    WriterSide (shm.setWriter worker writer) := by
  have here : (shm.setWriter worker writer).writers worker = writer := Function.update_self ..
  have there : ∀ other, other ≠ worker →
      (shm.setWriter worker writer).writers other = shm.writers other :=
    fun other different => Function.update_of_ne different ..
  have busy : ∀ other, ((shm.setWriter worker writer).writers other).busy =
      (shm.writers other).busy := by
    intro other
    by_cases same : other = worker
    · rw [same, here, calm, free]
    · rw [there other same]
  refine ⟨fun other behind another different => ?_, fun none => ?_, fun other => ?_⟩
  · rw [busy] at behind ⊢
    exact side.alone other behind another different
  · exact side.settled fun other => (busy other).symm.trans (none other)
  · by_cases same : other = worker
    · rw [same, here]
      exact fits
    · rw [there other same]
      exact side.fits other

/-- The readers take a step; a message on whose slot a writer has crashed stays. -/
theorem kept (writers : next.writers = shm.writers) (index : next.writerIndex = shm.writerIndex)
    (committed : next.committed = shm.committed) (slots : next.slots = shm.slots)
    (fields : next.fields = shm.fields)
    (payload : ∀ index, (next.at_ index).payload = (shm.at_ index).payload)
    (grows : shm.consumed.length ≤ next.consumed.length)
    (left : (∃ other, (shm.writers other).down = true) →
      shm.consumed.length ≤ shm.writerIndex → next.consumed.length ≤ shm.writerIndex) :
    WriterSide next := by
  refine ⟨?_, ?_, fun worker => ?_⟩
  · unfold WriterAlone
    rw [writers]
    exact side.alone
  · rw [writers, index, committed]
    exact side.settled
  · have torn : (shm.writers worker).down = true → shm.WriterTorn → next.WriterTorn := by
      rintro down (even | ⟨behind, there⟩)
      · exact .inl (by rw [index, committed, even])
      · exact .inr ⟨by rw [index, committed, behind], index ▸ left ⟨worker, down⟩ there⟩
    have fits := side.fits worker
    rw [writers]
    cases place : shm.writers worker with
    | idle => trivial
    | waiting widx message =>
      rw [place] at fits
      exact Eq.trans fits fields.symm
    | packing widx message packed =>
      rw [place] at fits
      obtain ⟨current, even, room, whole, stored⟩ := fits
      refine ⟨by rw [index, current], by rw [index, committed, even], ?_, whole.trans fields.symm,
        fun position before value there => ?_⟩
      · rw [committed, slots]
        omega
      · rw [payload]
        exact stored position before value there
    | filled widx message =>
      rw [place] at fits
      exact ⟨by rw [index, fits.1], by rw [index, committed, fits.2.1],
        by rw [committed, fits.2.2]⟩
    | crashed =>
      rw [place] at fits torn
      exact torn rfl fits
    | comparing widx =>
      rw [place] at fits torn
      exact ⟨by rw [index, fits.1], torn rfl fits.2⟩
    | probing widx =>
      rw [place] at fits torn
      refine ⟨by rw [index, fits.1], torn rfl fits.2.1, fun even => ?_⟩
      rw [index, committed] at even
      have room := fits.2.2 even
      rw [committed, slots]
      omega
    | repairing widx =>
      rw [place] at fits
      exact ⟨by rw [index, fits.1], by rw [index, committed, fits.2]⟩

/-- The index is the number of messages, or one behind. -/
theorem near : shm.writerIndex = shm.committed.length ∨
    shm.writerIndex + 1 = shm.committed.length := by
  by_cases free : ∀ worker, (shm.writers worker).busy = false
  · exact .inl (side.settled free)
  · obtain ⟨worker, busy⟩ := not_forall.mp free
    have fits := side.fits worker
    cases place : shm.writers worker <;> rw [place] at fits busy
    case idle | waiting => exact absurd rfl busy
    case packing => exact .inl fits.2.1
    case filled => exact .inr fits.2.1
    case repairing => exact .inr fits.2
    case crashed => exact fits.imp_right And.left
    case comparing => exact fits.2.imp_right And.left
    case probing => exact fits.2.1.imp_right And.left

end

end WriterSide

/-- After a crash the reader index is the number of messages consumed, or one behind with the slot
not filled again. -/
def ReaderTorn (shm : VideoShm Field) : Prop :=
  shm.readerIndex = shm.consumed.length ∨ shm.readerIndex + 1 = shm.consumed.length ∧
    shm.committed.length ≤ shm.readerIndex + shm.slots

/-- What the place of a reader says about the ring. -/
def ReaderFits (shm : VideoShm Field) : Reader Field → Prop
  | .idle | .waiting _ => True
  | .unpacking ridx read => ridx = shm.readerIndex ∧ shm.readerIndex = shm.consumed.length ∧
      read.length ≤ shm.fields ∧
      ∃ message, shm.committed[shm.consumed.length]? = some message ∧ read <+: message
  | .emptied ridx message => ridx = shm.readerIndex ∧
      shm.readerIndex + 1 = shm.consumed.length ∧ shm.consumed[ridx]? = some message
  | .crashed => shm.ReaderTorn
  | .comparing widx => widx ≤ shm.writerIndex ∧ shm.ReaderTorn ∧
      (shm.readerIndex + 1 = shm.consumed.length → shm.readerIndex < widx)
  | .probing ridx => ridx = shm.readerIndex ∧ shm.ReaderTorn ∧
      (shm.readerIndex = shm.consumed.length → shm.consumed.length < shm.committed.length)
  | .repairing ridx => ridx = shm.readerIndex ∧ shm.readerIndex + 1 = shm.consumed.length

structure ReaderSide (shm : VideoShm Field) : Prop where
  alone : ∀ worker, (shm.readers worker).busy = true → shm.ReaderAlone worker
  settled : (∀ worker, (shm.readers worker).busy = false) →
    shm.readerIndex = shm.consumed.length
  fits : ∀ worker, shm.ReaderFits (shm.readers worker)

theorem ReaderFits.of_free {reader : Reader Field} (free : reader.busy = false) :
    shm.ReaderFits reader := by
  cases reader with
  | idle | waiting => trivial
  | unpacking | emptied | crashed | comparing | probing | repairing => cases free

namespace ReaderSide

/-- The one reader behind its wait, or about to be, takes a step. -/
theorem moves {reader : Reader Field} (alone : shm.ReaderAlone worker)
    (readers : next.readers = Function.update shm.readers worker reader)
    (fits : next.ReaderFits reader)
    (settled : reader.busy = false → next.readerIndex = next.consumed.length) :
    ReaderSide next := by
  have here : next.readers worker = reader := by rw [readers, Function.update_self]
  have there : ∀ other, other ≠ worker → next.readers other = shm.readers other := by
    intro other different
    rw [readers, Function.update_of_ne different]
  refine ⟨fun other busy => ?_, fun free => settled ?_, fun other => ?_⟩
  · have same : other = worker := by
      by_contra different
      rw [there other different, alone other different] at busy
      cases busy
    rintro another different
    rw [same] at different
    rw [there another different]
    exact alone another different
  · rw [← here]
    exact free worker
  · by_cases same : other = worker
    · rw [same, here]
      exact fits
    · rw [there other same]
      exact .of_free (alone other same)

section

variable (side : ReaderSide shm)
include side

/-- A reader in front of its wait stays there. -/
theorem rests {reader : Reader Field} (free : (shm.readers worker).busy = false)
    (calm : reader.busy = false) : ReaderSide (shm.setReader worker reader) := by
  have here : (shm.setReader worker reader).readers worker = reader := Function.update_self ..
  have there : ∀ other, other ≠ worker →
      (shm.setReader worker reader).readers other = shm.readers other :=
    fun other different => Function.update_of_ne different ..
  have busy : ∀ other, ((shm.setReader worker reader).readers other).busy =
      (shm.readers other).busy := by
    intro other
    by_cases same : other = worker
    · rw [same, here, calm, free]
    · rw [there other same]
  refine ⟨fun other behind another different => ?_, fun none => ?_, fun other => ?_⟩
  · rw [busy] at behind ⊢
    exact side.alone other behind another different
  · exact side.settled fun other => (busy other).symm.trans (none other)
  · by_cases same : other = worker
    · rw [same, here]
      exact .of_free calm
    · rw [there other same]
      exact side.fits other

/-- The writers take a step; a slot on which a reader has crashed is not filled again. -/
theorem kept (readers : next.readers = shm.readers) (index : next.readerIndex = shm.readerIndex)
    (consumed : next.consumed = shm.consumed) (slots : next.slots = shm.slots)
    (fields : next.fields = shm.fields) (committed : shm.committed <+: next.committed)
    (later : shm.writerIndex ≤ next.writerIndex)
    (left : (∃ other, (shm.readers other).down = true) →
      shm.committed.length ≤ shm.readerIndex + shm.slots →
      next.committed.length ≤ shm.readerIndex + shm.slots) : ReaderSide next := by
  refine ⟨?_, ?_, fun worker => ?_⟩
  · unfold ReaderAlone
    rw [readers]
    exact side.alone
  · rw [readers, index, consumed]
    exact side.settled
  · have torn : (shm.readers worker).down = true → shm.ReaderTorn → next.ReaderTorn := by
      rintro down (even | ⟨behind, there⟩)
      · exact .inl (by rw [index, consumed, even])
      · refine .inr ⟨by rw [index, consumed, behind], ?_⟩
        rw [index, slots]
        exact left ⟨worker, down⟩ there
    have fits := side.fits worker
    rw [readers]
    cases place : shm.readers worker with
    | idle | waiting => trivial
    | unpacking ridx read =>
      rw [place] at fits
      obtain ⟨current, even, short, message, found, stored⟩ := fits
      refine ⟨by rw [index, current], by rw [index, consumed, even], short.trans fields.ge,
        message, ?_, stored⟩
      obtain ⟨rest, grown⟩ := committed
      rw [consumed, ← grown]
      exact List.getElem?_append_left (List.getElem?_eq_some_iff.mp found).1 |>.trans found
    | emptied ridx message =>
      rw [place] at fits
      exact ⟨by rw [index, fits.1], by rw [index, consumed, fits.2.1],
        by rw [consumed, fits.2.2]⟩
    | crashed =>
      rw [place] at fits torn
      exact torn rfl fits
    | comparing widx =>
      rw [place] at fits torn
      refine ⟨fits.1.trans later, torn rfl fits.2.1, ?_⟩
      rw [index, consumed]
      exact fits.2.2
    | probing ridx =>
      rw [place] at fits torn
      refine ⟨by rw [index, fits.1], torn rfl fits.2.1, fun even => ?_⟩
      rw [index, consumed] at even
      have pending := fits.2.2 even
      rw [consumed]
      exact pending.trans_le committed.length_le
    | repairing ridx =>
      rw [place] at fits
      exact ⟨by rw [index, fits.1], by rw [index, consumed, fits.2]⟩

theorem near : shm.readerIndex = shm.consumed.length ∨
    shm.readerIndex + 1 = shm.consumed.length := by
  by_cases free : ∀ worker, (shm.readers worker).busy = false
  · exact .inl (side.settled free)
  · obtain ⟨worker, busy⟩ := not_forall.mp free
    have fits := side.fits worker
    cases place : shm.readers worker <;> rw [place] at fits busy
    case idle | waiting => exact absurd rfl busy
    case unpacking => exact .inl fits.2.1
    case emptied => exact .inr fits.2.1
    case repairing => exact .inr fits.2
    case crashed => exact fits.imp_right And.left
    case comparing => exact fits.2.1.imp_right And.left
    case probing => exact fits.2.1.imp_right And.left

end

end ReaderSide
end InferenceServer.Ipc.VideoShm
