import InferenceServer.Machine.Run

/-! The ring in shared memory between the server and the video pipeline. A writer waits until the
slot at the writer index is empty, stores the fields of its message one by one, flips the slot and
then bumps the index; a reader does the same the other way round. Nothing else is shared, and each
load and each store is a step of its own. -/
namespace InferenceServer.Ipc

/-- A slot: its state word, and the packed fields behind it. -/
structure Slot (Field : Type*) where
  filled : Bool := false
  payload : Nat → Field

/-- Where a caller of `write_request` or `write_response` is, or of `recover` for its side. -/
inductive Writer (Field : Type*)
  | idle
  | waiting (widx : Nat) (message : List Field)
  | packing (widx : Nat) (message : List Field) (packed : Nat)
  | filled (widx : Nat) (message : List Field)
  | crashed
  | comparing (widx : Nat)
  | probing (widx : Nat)
  | repairing (widx : Nat)
  deriving DecidableEq

/-- From the end of its wait to the bump of the index, and from a crash to the end of `recover`. -/
def Writer.busy {Field : Type*} : Writer Field → Bool
  | .idle | .waiting _ _ => false
  | .packing _ _ _ | .filled _ _ | .crashed | .comparing _ | .probing _ | .repairing _ => true

/-- From a crash until `recover` has looked at the slot. -/
def Writer.down {Field : Type*} : Writer Field → Bool
  | .crashed | .comparing _ | .probing _ => true
  | .idle | .waiting _ _ | .packing _ _ _ | .filled _ _ | .repairing _ => false

/-- From a crash to the end of `recover`. -/
def Writer.recovers {Field : Type*} : Writer Field → Bool
  | .crashed | .comparing _ | .probing _ | .repairing _ => true
  | .idle | .waiting _ _ | .packing _ _ _ | .filled _ _ => false

/-- `recover` is about to load the reader index. -/
def Writer.isComparing {Field : Type*} : Writer Field → Bool
  | .comparing _ => true
  | _ => false

/-- The index whose slot the caller waits for. -/
def Writer.waitsAt {Field : Type*} : Writer Field → Option Nat
  | .waiting widx _ => some widx
  | _ => none

/-- The index whose slot the next step flips. -/
def Writer.flipping {Field : Type*} : Writer Field → Option Nat
  | .packing widx message packed => if message.length ≤ packed then some widx else none
  | _ => none

/-- Where a caller of `read_request` or `read_response` is, or of `recover` for its side. -/
inductive Reader (Field : Type*)
  | idle
  | waiting (ridx : Nat)
  | unpacking (ridx : Nat) (read : List Field)
  | emptied (ridx : Nat) (message : List Field)
  | crashed
  | comparing (widx : Nat)
  | probing (ridx : Nat)
  | repairing (ridx : Nat)
  deriving DecidableEq

def Reader.busy {Field : Type*} : Reader Field → Bool
  | .idle | .waiting _ => false
  | .unpacking _ _ | .emptied _ _ | .crashed | .comparing _ | .probing _ | .repairing _ => true

def Reader.down {Field : Type*} : Reader Field → Bool
  | .crashed | .comparing _ | .probing _ => true
  | .idle | .waiting _ | .unpacking _ _ | .emptied _ _ | .repairing _ => false

def Reader.recovers {Field : Type*} : Reader Field → Bool
  | .crashed | .comparing _ | .probing _ | .repairing _ => true
  | .idle | .waiting _ | .unpacking _ _ | .emptied _ _ => false

def Reader.waitsAt {Field : Type*} : Reader Field → Option Nat
  | .waiting ridx => some ridx
  | _ => none

def Reader.flipping {Field : Type*} (fields : Nat) : Reader Field → Option Nat
  | .unpacking ridx read => if fields ≤ read.length then some ridx else none
  | _ => none

def inputSlots : Nat := 8

def outputSlots : Nat := 4

/-- The ring and its state segment with everyone who uses them. The last four fields record what
was flipped to filled and to empty, and what the calls returned. -/
structure VideoShm (Field : Type*) where
  slots : Nat
  fields : Nat
  slot : Nat → Slot Field
  writerIndex : Nat := 0
  readerIndex : Nat := 0
  writers : Nat → Writer Field := fun _ => .idle
  readers : Nat → Reader Field := fun _ => .idle
  committed : List (List Field) := []
  consumed : List (List Field) := []
  accepted : List (Nat × List Field) := []
  returned : List (Nat × List Field) := []

namespace VideoShm

variable {Field : Type*} (shm : VideoShm Field) (worker : Nat) (index : Nat)

/-- A new segment is all zeroes. -/
def opened (slots fields : Nat) (zero : Field) : VideoShm Field :=
  { slots, fields, slot := fun _ => { payload := fun _ => zero } }

inductive Label (Field : Type*)
  | write (worker : Nat) (message : List Field)
  | writer (worker : Nat)
  | abandonWrite (worker : Nat)
  | crashWriter (worker : Nat)
  | recoverWriter (worker : Nat)
  | read (worker : Nat)
  | reader (worker : Nat)
  | abandonRead (worker : Nat)
  | crashReader (worker : Nat)
  | recoverReader (worker : Nat)
  deriving DecidableEq

/-- The slot that an index stands for. -/
def at_ : Slot Field := shm.slot (index % shm.slots)

def setSlot (slot : Slot Field) : VideoShm Field :=
  { shm with slot := Function.update shm.slot (index % shm.slots) slot }

def setWriter (writer : Writer Field) : VideoShm Field :=
  { shm with writers := Function.update shm.writers worker writer }

def setReader (reader : Reader Field) : VideoShm Field :=
  { shm with readers := Function.update shm.readers worker reader }

/-- One field of the payload. -/
def packField (index position : Nat) (value : Field) : VideoShm Field :=
  shm.setSlot index { shm.at_ index with
    payload := Function.update (shm.at_ index).payload position value }

/-- The slot goes from empty to filled. -/
def fill (message : List Field) : VideoShm Field :=
  { shm.setSlot index { shm.at_ index with filled := true } with
    committed := shm.committed ++ [message] }

/-- The slot goes from filled to empty. -/
def empty (message : List Field) : VideoShm Field :=
  { shm.setSlot index { shm.at_ index with filled := false } with
    consumed := shm.consumed ++ [message] }

/-- The next load or store of a writer. -/
def stepWriter : Option (VideoShm Field) :=
  match shm.writers worker with
  | .waiting widx message =>
    if (shm.at_ widx).filled then some shm
    else shm.setWriter worker (.packing widx message 0)
  | .packing widx message packed =>
    match message[packed]? with
    | some value =>
      (shm.packField widx packed value).setWriter worker (.packing widx message (packed + 1))
    | none => (shm.fill widx message).setWriter worker (.filled widx message)
  | .filled widx message => some { shm.setWriter worker .idle with
      writerIndex := widx + 1
      accepted := shm.accepted ++ [(worker, message)] }
  | .comparing widx =>
    shm.setWriter worker (if widx < shm.readerIndex + shm.slots then .probing widx else .idle)
  | .probing widx =>
    shm.setWriter worker (if (shm.at_ widx).filled then .repairing widx else .idle)
  | .repairing widx => some { shm.setWriter worker .idle with writerIndex := widx + 1 }
  | .idle | .crashed => none

/-- The next load or store of a reader. -/
def stepReader : Option (VideoShm Field) :=
  match shm.readers worker with
  | .waiting ridx =>
    if (shm.at_ ridx).filled then shm.setReader worker (.unpacking ridx []) else some shm
  | .unpacking ridx read =>
    if read.length < shm.fields then
      shm.setReader worker (.unpacking ridx (read ++ [(shm.at_ ridx).payload read.length]))
    else (shm.empty ridx read).setReader worker (.emptied ridx read)
  | .emptied ridx message => some { shm.setReader worker .idle with
      readerIndex := ridx + 1
      returned := shm.returned ++ [(worker, message)] }
  | .comparing widx =>
    shm.setReader worker
      (if shm.readerIndex < widx then .probing shm.readerIndex else .idle)
  | .probing ridx =>
    shm.setReader worker (if (shm.at_ ridx).filled then .idle else .repairing ridx)
  | .repairing ridx => some { shm.setReader worker .idle with readerIndex := ridx + 1 }
  | .idle | .crashed => none

/-- A call that ends before it has flipped its slot: a timeout, a shutdown or an exception. -/
def abandonWrite : Option (VideoShm Field) :=
  match shm.writers worker with
  | .waiting _ _ | .packing _ _ _ => shm.setWriter worker .idle
  | _ => none

def abandonRead : Option (VideoShm Field) :=
  match shm.readers worker with
  | .waiting _ | .unpacking _ _ => shm.setReader worker .idle
  | _ => none

/-- Each call starts with the load of an index, and the replacement of a process that has crashed
with `recover`, which loads both: the writer index first. -/
def step : Label Field → Option (VideoShm Field)
  | .write worker message =>
    match shm.writers worker with
    | .idle =>
      if message.length = shm.fields then
        shm.setWriter worker (.waiting shm.writerIndex message)
      else none
    | _ => none
  | .writer worker => shm.stepWriter worker
  | .abandonWrite worker => shm.abandonWrite worker
  | .crashWriter worker => shm.setWriter worker .crashed
  | .recoverWriter worker =>
    match shm.writers worker with
    | .crashed => shm.setWriter worker (.comparing shm.writerIndex)
    | _ => none
  | .read worker =>
    match shm.readers worker with
    | .idle => shm.setReader worker (.waiting shm.readerIndex)
    | _ => none
  | .reader worker => shm.stepReader worker
  | .abandonRead worker => shm.abandonRead worker
  | .crashReader worker => shm.setReader worker .crashed
  | .recoverReader worker =>
    match shm.readers worker with
    | .crashed => shm.setReader worker (.comparing shm.writerIndex)
    | _ => none

/-- Nobody else of the writer side is between its wait and its bump. -/
def WriterAlone : Prop :=
  ∀ other, other ≠ worker → (shm.writers other).busy = false

def ReaderAlone : Prop :=
  ∀ other, other ≠ worker → (shm.readers other).busy = false

/-- A wait ends only with the index still current and nobody else of the side behind its wait. -/
def Exclusive : Label Field → Prop
  | .writer worker => ∀ widx ∈ (shm.writers worker).waitsAt, (shm.at_ widx).filled = false →
      widx = shm.writerIndex ∧ shm.WriterAlone worker
  | .reader worker => ∀ ridx ∈ (shm.readers worker).waitsAt, (shm.at_ ridx).filled = true →
      ridx = shm.readerIndex ∧ shm.ReaderAlone worker
  | .crashWriter worker => shm.WriterAlone worker
  | .crashReader worker => shm.ReaderAlone worker
  | _ => True

/-- The slot that a crash happened on is left alone by the other side until `recover` has looked
at it. -/
def LeavesCrashedSlot : Label Field → Prop
  | .writer worker => (∃ other, (shm.readers other).down = true) →
      (shm.writers worker).flipping ≠ some (shm.readerIndex + shm.slots)
  | .reader worker => (∃ other, (shm.writers other).down = true) →
      (shm.readers worker).flipping shm.fields ≠ some shm.writerIndex
  | .crashWriter _ => shm.committed.length = shm.writerIndex + 1 →
      (shm.at_ shm.writerIndex).filled = true
  | .crashReader _ => shm.consumed.length = shm.readerIndex + 1 →
      (shm.at_ shm.readerIndex).filled = false
  | _ => True

/-- When `recover` loads the index of the other side and its own role has flipped a slot without
the bump, the indices do not read full, for a writer, or empty, for a reader. -/
def GapVisible : Label Field → Prop
  | .writer worker => (shm.writers worker).isComparing = true →
      shm.committed.length = shm.writerIndex + 1 →
      shm.writerIndex ≠ shm.readerIndex + shm.slots
  | .recoverReader _ => shm.consumed.length = shm.readerIndex + 1 →
      shm.readerIndex ≠ shm.writerIndex
  | _ => True

end VideoShm
end InferenceServer.Ipc
