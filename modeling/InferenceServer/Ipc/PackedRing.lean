import InferenceServer.Ipc.SlotFields
import InferenceServer.Machine.RingWindow

/-! The ring as bytes, one call after the other: a call gives up, is answered or raises, and the
ring holds the messages that were written and not read. -/
namespace InferenceServer.Ipc.SlotCodec
open Machine Machine.ByteMemory

/-- One of the two kinds of ring. -/
structure SlotFormat (Message : Type) where
  slots : Nat
  slotSize : Nat
  pack : ByteMemory → Nat → Message → Packed
  unpack : ByteMemory → Nat → Option Message

def inputFormat {Scale : Type} (float : FloatFormat Scale) : SlotFormat (VideoRequest Scale) where
  slots := 8
  slotSize := inputSlotSize
  pack := packRequest float
  unpack := unpackRequest float

def outputFormat : SlotFormat VideoResponse where
  slots := 4
  slotSize := outputSlotSize
  pack := packResponse
  unpack := unpackResponse

/-- Both segments. -/
structure PackedRing where
  buf : ByteMemory := fun _ => 0
  writerIndex : Nat := 0
  readerIndex : Nat := 0

/-- A call gives up on shutdown, or after it has waited for its slot. -/
inductive Answer (Message : Type)
  | gaveUp
  | written
  | unwritable
  | message (message : Message)
  | unreadable
  deriving DecidableEq

inductive Call (Message : Type)
  | write (message : Message) (shutdown : Bool)
  | read (shutdown : Bool)

namespace PackedRing

variable {Message : Type}

def slotOffset (format : SlotFormat Message) (index : Nat) : Nat :=
  (index % format.slots) * format.slotSize

def stateOf (format : SlotFormat Message) (ring : PackedRing) (index : Nat) : Nat :=
  unpackUInt32 ring.buf (slotOffset format index)

/-- `write_request` and `write_response` -/
def write (format : SlotFormat Message) (ring : PackedRing) (message : Message)
    (shutdown : Bool) : PackedRing × Answer Message :=
  let off := slotOffset format ring.writerIndex
  if shutdown = true ∨ stateOf format ring ring.writerIndex ≠ empty then (ring, .gaveUp)
  else
    match format.pack ring.buf off message with
    | .error buf => ({ ring with buf }, .unwritable)
    | .ok buf => ({ ring with
        buf := buf.write off (littleEndian 4 filled)
        writerIndex := ring.writerIndex + 1 }, .written)

/-- `read_request` and `read_response` -/
def read (format : SlotFormat Message) (ring : PackedRing) (shutdown : Bool) :
    PackedRing × Answer Message :=
  let off := slotOffset format ring.readerIndex
  if shutdown = true ∨ stateOf format ring ring.readerIndex ≠ filled then (ring, .gaveUp)
  else
    match format.unpack ring.buf off with
    | none => (ring, .unreadable)
    | some message => ({ ring with
        buf := ring.buf.write off (littleEndian 4 empty)
        readerIndex := ring.readerIndex + 1 }, .message message)

def call (format : SlotFormat Message) (ring : PackedRing) :
    Call Message → PackedRing × Answer Message
  | .write message shutdown => ring.write format message shutdown
  | .read shutdown => ring.read format shutdown

def calls (format : SlotFormat Message) (ring : PackedRing) :
    List (Call Message) → PackedRing × List (Answer Message)
  | [] => (ring, [])
  | call :: rest =>
    let called := ring.call format call
    let later := calls format called.1 rest
    (later.1, called.2 :: later.2)

end PackedRing

section Queue

variable {Message : Type} (slots : Nat) (accepts : Message → Prop) [DecidablePred accepts]
  (received : Message → Option Message)

/-- What the ring is for: a queue of the messages that were accepted. A message that cannot be
received stays in front. -/
def queueCall (pending : List Message) : Call Message → List Message × Answer Message
  | .write message shutdown =>
    if shutdown = true ∨ pending.length = slots then (pending, .gaveUp)
    else if accepts message then (pending ++ [message], .written)
    else (pending, .unwritable)
  | .read shutdown =>
    match pending with
    | [] => ([], .gaveUp)
    | message :: rest =>
      if shutdown = true then (message :: rest, .gaveUp)
      else
        match received message with
        | none => (message :: rest, .unreadable)
        | some found => (rest, .message found)

def queueCalls (pending : List Message) :
    List (Call Message) → List Message × List (Answer Message)
  | [] => (pending, [])
  | call :: rest =>
    let called := queueCall slots accepts received pending call
    let later := queueCalls called.1 rest
    (later.1, called.2 :: later.2)

end Queue

variable {Message : Type} {format : SlotFormat Message} {fields : Message → List Field}
  {accepts : Message → Prop} {received : Message → Option Message}

/-- Messages are packed as fields that are apart and behind the state word, and are read back
from them. -/
structure RightFormat (format : SlotFormat Message) (fields : Message → List Field)
    (accepts : Message → Prop) (received : Message → Option Message) : Prop where
  positive : 0 < format.slots
  word : 4 ≤ format.slotSize
  packs : ∀ buf off message,
    format.pack buf off message = storeFields off (fields message) buf
  within : ∀ message, Within 4 format.slotSize (fields message)
  apart : ∀ message, (fields message).Pairwise FieldsApart
  accepted : ∀ message, accepts message ↔ ∀ field ∈ fields message, field.2.isSome
  unpacks : ∀ buf off message, Stored buf off (fields message) →
    format.unpack buf off = received message

/-- The ring holds the pending messages from the reader index on, and its other slots are
empty. -/
structure Holds (format : SlotFormat Message) (fields : Message → List Field) (ring : PackedRing)
    (pending : List Message) : Prop where
  room : pending.length ≤ format.slots
  indexes : ring.writerIndex = ring.readerIndex + pending.length
  states : ∀ index, index < pending.length →
    PackedRing.stateOf format ring (ring.readerIndex + index) = filled
  stored : ∀ index message, pending[index]? = some message →
    Stored ring.buf (PackedRing.slotOffset format (ring.readerIndex + index)) (fields message)
  free : ∀ index, pending.length ≤ index → index < format.slots →
    PackedRing.stateOf format ring (ring.readerIndex + index) = empty

section Frames

variable {buf after : ByteMemory} {off index other : Nat}

/-- What a call may change: the slot at an index. -/
def Elsewhere (format : SlotFormat Message) (buf after : ByteMemory) (index : Nat) : Prop :=
  ∀ place, (place < PackedRing.slotOffset format index ∨
    PackedRing.slotOffset format index + format.slotSize ≤ place) → after place = buf place

theorem slots_apart (different : index % format.slots ≠ other % format.slots) :
    PackedRing.slotOffset format index + format.slotSize ≤ PackedRing.slotOffset format other ∨
      PackedRing.slotOffset format other + format.slotSize ≤
        PackedRing.slotOffset format index := by
  unfold PackedRing.slotOffset
  rcases Nat.lt_or_gt_of_ne different with before | after
  · have bound := Nat.mul_le_mul_right format.slotSize before
    rw [Nat.succ_mul] at bound
    exact .inl bound
  · have bound := Nat.mul_le_mul_right format.slotSize after
    rw [Nat.succ_mul] at bound
    exact .inr bound

theorem agree_of_elsewhere (elsewhere : Elsewhere format buf after index)
    (different : index % format.slots ≠ other % format.slots) :
    ∀ place, PackedRing.slotOffset format other ≤ place →
      place < PackedRing.slotOffset format other + format.slotSize → after place = buf place := by
  intro place since before
  have apart := slots_apart different
  exact elsewhere place (by omega)

theorem state_elsewhere {ring next : PackedRing} (word : 4 ≤ format.slotSize)
    (elsewhere : Elsewhere format ring.buf next.buf index)
    (different : index % format.slots ≠ other % format.slots) :
    PackedRing.stateOf format next other = PackedRing.stateOf format ring other := by
  refine congrArg fromLittleEndian (read_congr fun place since before => ?_)
  exact agree_of_elsewhere elsewhere different place since (by omega)

theorem stored_elsewhere (right : RightFormat format fields accepts received) {message : Message}
    (elsewhere : Elsewhere format buf after index)
    (different : index % format.slots ≠ other % format.slots)
    (stored : Stored buf (PackedRing.slotOffset format other) (fields message)) :
    Stored after (PackedRing.slotOffset format other) (fields message) :=
  stored.congr (right.within message) fun place since before =>
    agree_of_elsewhere elsewhere different place (by omega) before

theorem elsewhere_write (word : 4 ≤ format.slotSize) (buf : ByteMemory) (index value : Nat) :
    Elsewhere format buf (buf.write (PackedRing.slotOffset format index) (littleEndian 4 value))
      index := by
  intro place outside
  refine write_outside buf ?_
  rw [length_littleEndian]
  omega

theorem state_write {value : Nat} (small : value < 256 ^ 4) (buf : ByteMemory) (off : Nat) :
    unpackUInt32 (buf.write off (littleEndian 4 value)) off = value := by
  have read := read_write buf off (littleEndian 4 value)
  rw [length_littleEndian] at read
  rw [unpackUInt32, read, fromLittleEndian, foldr_littleEndian 4 value small]

/-- To pack leaves what is outside of the fields of the slot. -/
theorem pack_outside (right : RightFormat format fields accepts received) (buf : ByteMemory)
    (off : Nat) (message : Message) (place : Nat)
    (outside : place < off + 4 ∨ off + format.slotSize ≤ place) :
    (format.pack buf off message).memory place = buf place := by
  rw [right.packs]
  exact storeFields_outside (right.within message) outside

end Frames

section Runs

variable {ring : PackedRing} {pending : List Message}

theorem ne_mod {first left right slots : Nat} (below : left < slots) (above : right < slots)
    (different : left ≠ right) : (first + left) % slots ≠ (first + right) % slots := by
  intro same
  have equal := eq_of_mod_eq same (by omega) (by omega)
  omega

/-- The slot at the writer index is empty unless all slots are taken. -/
theorem writer_state (positive : 0 < format.slots) (holds : Holds format fields ring pending) :
    PackedRing.stateOf format ring ring.writerIndex ≠ empty ↔ pending.length = format.slots := by
  have room := holds.room
  constructor
  · refine fun taken => Nat.le_antisymm room (Nat.not_lt.mp fun open_ => taken ?_)
    rw [holds.indexes]
    exact holds.free _ le_rfl open_
  · intro full
    have round : PackedRing.stateOf format ring ring.writerIndex =
        PackedRing.stateOf format ring (ring.readerIndex + 0) := by
      unfold PackedRing.stateOf PackedRing.slotOffset
      rw [holds.indexes, full, Nat.add_mod_right, Nat.add_zero]
    rw [round, holds.states 0 (by omega)]
    decide

section

variable (right : RightFormat format fields accepts received)
include right

theorem holds_rejected (holds : Holds format fields ring pending) {stopped : ByteMemory}
    {message : Message} (open_ : pending.length < format.slots)
    (raised : format.pack ring.buf (PackedRing.slotOffset format ring.writerIndex) message =
      .error stopped) : Holds format fields { ring with buf := stopped } pending := by
  have outside := pack_outside right ring.buf
    (PackedRing.slotOffset format ring.writerIndex) message
  rw [raised] at outside
  have elsewhere : Elsewhere format ring.buf stopped ring.writerIndex :=
    fun place there => outside place (by omega)
  have writer : ring.writerIndex = ring.readerIndex + pending.length := holds.indexes
  constructor
  · exact holds.room
  · exact holds.indexes
  · intro index early
    refine (state_elsewhere right.word elsewhere ?_).trans (holds.states index early)
    rw [writer]
    exact ne_mod open_ (by omega) (by omega)
  · intro index found here
    have early := (List.getElem?_eq_some_iff.mp here).1
    refine stored_elsewhere right elsewhere ?_ (holds.stored index found here)
    rw [writer]
    exact ne_mod open_ (by omega) (by omega)
  · intro index late before
    by_cases same : index = pending.length
    · have word : PackedRing.stateOf format { ring with buf := stopped } (ring.readerIndex + index) =
          PackedRing.stateOf format ring (ring.readerIndex + index) := by
        refine congrArg fromLittleEndian (read_congr fun place since before => ?_)
        refine outside place (.inl ?_)
        rwa [same, ← writer] at before
      exact word.trans (holds.free index late before)
    · refine (state_elsewhere right.word elsewhere ?_).trans (holds.free index late before)
      rw [writer]
      exact ne_mod open_ before (Ne.symm same)

theorem holds_written (holds : Holds format fields ring pending) {packed : ByteMemory}
    {message : Message} (open_ : pending.length < format.slots)
    (made : format.pack ring.buf (PackedRing.slotOffset format ring.writerIndex) message =
      .ok packed) :
    Holds format fields
      { ring with
        buf := packed.write (PackedRing.slotOffset format ring.writerIndex) (littleEndian 4 filled)
        writerIndex := ring.writerIndex + 1 }
      (pending ++ [message]) := by
  have writer : ring.writerIndex = ring.readerIndex + pending.length := holds.indexes
  have outside := pack_outside right ring.buf
    (PackedRing.slotOffset format ring.writerIndex) message
  rw [made] at outside
  have flip := elsewhere_write right.word packed ring.writerIndex filled
  have elsewhere : Elsewhere format ring.buf
      (packed.write (PackedRing.slotOffset format ring.writerIndex) (littleEndian 4 filled))
      ring.writerIndex :=
    fun place there => (flip place there).trans (outside place (by omega))
  have packs := right.packs ring.buf (PackedRing.slotOffset format ring.writerIndex) message
  rw [made] at packs
  have fresh : Stored
      (packed.write (PackedRing.slotOffset format ring.writerIndex) (littleEndian 4 filled))
      (PackedRing.slotOffset format ring.writerIndex) (fields message) := by
    refine (stored_of_storeFields (right.apart message) packs.symm).congr (right.within message) ?_
    intro place since _
    refine write_outside packed (.inr ?_)
    rwa [length_littleEndian]
  constructor
  · rw [List.length_append]
    exact open_
  · rw [List.length_append]
    exact congrArg (· + 1) writer
  · intro index early
    rw [List.length_append, List.length_singleton] at early
    by_cases last : index = pending.length
    · rw [last, ← writer]
      exact state_write (by decide) packed _
    · refine (state_elsewhere right.word elsewhere ?_).trans (holds.states index (by omega))
      rw [writer]
      exact ne_mod open_ (by omega) (Ne.symm last)
  · intro index found here
    by_cases early : index < pending.length
    · rw [List.getElem?_append_left early] at here
      refine stored_elsewhere right elsewhere ?_ (holds.stored index found here)
      rw [writer]
      exact ne_mod open_ (by omega) (by omega)
    · have last : index = pending.length := by
        have bound := (List.getElem?_eq_some_iff.mp here).1
        rw [List.length_append, List.length_singleton] at bound
        omega
      rw [last, List.getElem?_concat_length] at here
      cases here
      rw [last, ← writer]
      exact fresh
  · intro index late before
    rw [List.length_append, List.length_singleton] at late
    refine (state_elsewhere right.word elsewhere ?_).trans (holds.free index (by omega) before)
    rw [writer]
    exact ne_mod open_ before (by omega)

theorem holds_read {message : Message} {rest : List Message}
    (holds : Holds format fields ring (message :: rest)) :
    Holds format fields
      { ring with
        buf := ring.buf.write (PackedRing.slotOffset format ring.readerIndex) (littleEndian 4 empty)
        readerIndex := ring.readerIndex + 1 } rest := by
  have elsewhere := elsewhere_write right.word ring.buf ring.readerIndex empty
  have room := holds.room
  rw [List.length_cons] at room
  have later : ∀ index, ring.readerIndex + 1 + index = ring.readerIndex + (index + 1) := by omega
  have other : ∀ index, index + 1 < format.slots →
      ring.readerIndex % format.slots ≠ (ring.readerIndex + (index + 1)) % format.slots :=
    fun index below => @ne_mod ring.readerIndex 0 (index + 1) _ (by omega) below (by omega)
  constructor
  · omega
  · have indexes := holds.indexes
    rw [List.length_cons] at indexes
    show ring.writerIndex = ring.readerIndex + 1 + rest.length
    omega
  · intro index early
    show PackedRing.stateOf format _ (ring.readerIndex + 1 + index) = filled
    rw [later]
    refine (state_elsewhere right.word elsewhere (other index (by omega))).trans ?_
    exact holds.states (index + 1) (by rw [List.length_cons]; omega)
  · intro index found here
    have early := (List.getElem?_eq_some_iff.mp here).1
    show Stored _ (PackedRing.slotOffset format (ring.readerIndex + 1 + index)) _
    rw [later]
    exact stored_elsewhere right elsewhere (other index (by omega))
      (holds.stored (index + 1) found (by rwa [List.getElem?_cons_succ]))
  · intro index late before
    show PackedRing.stateOf format _ (ring.readerIndex + 1 + index) = empty
    rw [later]
    by_cases round : index + 1 = format.slots
    · have same : PackedRing.slotOffset format (ring.readerIndex + (index + 1)) =
          PackedRing.slotOffset format ring.readerIndex := by
        rw [PackedRing.slotOffset, round, Nat.add_mod_right, PackedRing.slotOffset]
      rw [PackedRing.stateOf, same]
      exact state_write (by decide) ring.buf _
    · refine (state_elsewhere right.word elsewhere (other index (by omega))).trans ?_
      exact holds.free (index + 1) (by rw [List.length_cons]; omega) (by omega)

end

variable [DecidablePred accepts]

section

variable (right : RightFormat format fields accepts received)
include right

/-- A call answers as the queue does, and the ring holds what is then pending. -/
theorem call_follows (holds : Holds format fields ring pending) (call : Call Message) :
    (ring.call format call).2 = (queueCall format.slots accepts received pending call).2 ∧
      Holds format fields (ring.call format call).1
        (queueCall format.slots accepts received pending call).1 := by
  cases call with
  | write message shutdown =>
    simp only [PackedRing.call, PackedRing.write, queueCall, writer_state right.positive holds]
    split
    · exact ⟨rfl, holds⟩
    · rename_i goes
      rw [not_or] at goes
      have open_ := lt_of_le_of_ne holds.room goes.2
      by_cases fine : accepts message
      · obtain ⟨packed, made⟩ := storeFields_ok ((right.accepted message).mp fine) ring.buf
        have made := (right.packs _ _ _).trans made
        rw [if_pos fine, made]
        exact ⟨rfl, holds_written right holds open_ made⟩
      · have missing : ∃ field ∈ fields message, field.2 = none := by
          by_contra none_
          refine fine ((right.accepted message).mpr fun field member => ?_)
          exact Option.ne_none_iff_isSome.mp fun here => none_ ⟨field, member, here⟩
        obtain ⟨stopped, made⟩ := storeFields_error missing ring.buf
        have made := (right.packs _ _ _).trans made
        rw [if_neg fine, made]
        exact ⟨rfl, holds_rejected right holds open_ made⟩
  | read shutdown =>
    cases pending with
    | nil =>
      have state := holds.free 0 (Nat.zero_le _) right.positive
      have waits : PackedRing.stateOf format ring ring.readerIndex ≠ filled := by
        rw [Nat.add_zero] at state
        rw [state]
        decide
      simp only [PackedRing.call, PackedRing.read, queueCall, waits, ne_eq, not_false_eq_true,
        or_true, if_true]
      exact ⟨trivial, holds⟩
    | cons message rest =>
      have state := holds.states 0 (Nat.succ_pos _)
      have unpacked := right.unpacks _ _ _ (holds.stored 0 message rfl)
      rw [Nat.add_zero] at state unpacked
      simp only [PackedRing.call, PackedRing.read, queueCall, state, ne_eq, not_true, or_false,
        unpacked]
      split
      · exact ⟨rfl, holds⟩
      · cases received message with
        | none => exact ⟨rfl, holds⟩
        | some found => exact ⟨rfl, holds_read right holds⟩

/-- So does every run of calls. -/
theorem calls_follow (holds : Holds format fields ring pending) (run : List (Call Message)) :
    (ring.calls format run).2 = (queueCalls format.slots accepts received pending run).2 := by
  induction run generalizing ring pending with
  | nil => rfl
  | cons call rest ih =>
    obtain ⟨answer, next⟩ := call_follows right holds call
    rw [PackedRing.calls, queueCalls]
    exact congrArg₂ _ answer (ih next)

end

theorem holds_fresh (positive : 0 < format.slots) : Holds format fields {} [] where
  room := positive.le
  indexes := rfl
  states _ early := nomatch early
  stored _ _ here := nomatch here
  free _ _ _ := by
    refine congrArg fromLittleEndian (?_ : _ = List.replicate 4 (0 : UInt8))
    rfl

end Runs

section Formats

variable {Scale : Type}

theorem input_right (float : FloatFormat Scale) :
    RightFormat (inputFormat float) (requestFields float) (PackableRequest float) fun request =>
      if TaskIdWhole request.taskId then some (receivedRequest float request) else none where
  positive := Nat.succ_pos _
  word := (by decide : 4 ≤ inputSlotSize)
  packs _ _ request := packRequest_eq request
  within request := (sized_request request).within input_laidOut.2
  apart request := (sized_request request).apart input_laidOut.1
  accepted _ := packableRequest_iff
  unpacks _ _ _ := unpackRequest_of_stored

theorem output_right :
    RightFormat outputFormat responseFields PackableResponse fun response =>
      if TaskIdWhole response.taskId then some (receivedResponse response) else none where
  positive := by decide
  word := by decide
  packs _ _ response := packResponse_eq response
  within response := (sized_response response).within output_laidOut.2
  apart response := (sized_response response).apart output_laidOut.1
  accepted _ := packableResponse_iff
  unpacks _ _ _ := unpackResponse_of_stored

end Formats

end InferenceServer.Ipc.SlotCodec
