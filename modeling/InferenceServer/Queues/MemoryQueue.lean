import InferenceServer.Machine.Run
import Mathlib.Data.List.DropRight

/-! The chunk queue in shared memory between one producer and one consumer, access by access. The
indices are kept modulo the capacity, and `put` publishes a slot before it has filled it. -/
namespace InferenceServer.Queues

open Machine

def maxTextLen : Nat := 450

def maxTaskIdLen : Nat := 100

/-- The slots that a producer leaves free. -/
def margin : Nat := 10

/-- The fields of a slot, in the order of `chunk_dtype`. -/
inductive Field
  | taskId
  | isFinal
  | text
  | itemAvailable
  deriving DecidableEq

/-- What `copy` reads next. -/
def Field.afterCopy : Field → Option Field
  | .taskId => some .isFinal
  | .isFinal => some .text
  | .text => some .itemAvailable
  | .itemAvailable => none

/-- What a producer stores next. -/
def Field.afterStore : Field → Option Field
  | .taskId => some .text
  | .text => some .isFinal
  | .isFinal => some .itemAvailable
  | .itemAvailable => none

/-- One slot of the buffer. A text is padded with NUL characters that no reader keeps. -/
structure Chunk where
  taskId : List Char := []
  isFinal : Nat := 0
  text : List Char := []
  itemAvailable : Nat := 0
  deriving DecidableEq

/-- What passes through the queue. -/
structure Item where
  taskId : List Char
  text : List Char
  isFinal : Bool
  deriving DecidableEq

/-- An item as the slots hold it. -/
def Item.cut (item : Item) : Item :=
  { item with taskId := item.taskId.take maxTaskIdLen, text := item.text.take maxTextLen }

def rstrip (chars : List Char) : List Char := chars.rdropWhile (· = '\x00')

/-- What a reader makes of an item. -/
def Item.strip (item : Item) : Item :=
  { item with taskId := rstrip item.taskId, text := rstrip item.text }

/-- What is left of the item in a slot does not end in NUL characters. -/
def Item.Plain (item : Item) : Prop := item.cut.strip = item.cut

instance : DecidablePred Item.Plain := fun item => decEq item.cut.strip item.cut

/-- The task and its data, as a worker puts them. -/
structure Message where
  taskId : List Char
  type : Option String := none
  data : Option (List Char) := none
  deriving DecidableEq

def Message.item (message : Message) : Item where
  taskId := message.taskId
  text := message.data.getD []
  isFinal := message.type.getD "streaming_chunk" = "final_result"

def Chunk.store (chunk : Chunk) (item : Item) : Field → Chunk
  | .taskId => { chunk with taskId := item.taskId }
  | .text => { chunk with text := item.text }
  | .isFinal => { chunk with isFinal := if item.isFinal then 1 else 0 }
  | .itemAvailable => { chunk with itemAvailable := 2 }

/-- One field more of a copy of the slot. -/
def Chunk.copyField (data slot : Chunk) : Field → Chunk
  | .taskId => { data with taskId := slot.taskId }
  | .isFinal => { data with isFinal := slot.isFinal }
  | .text => { data with text := slot.text }
  | .itemAvailable => { data with itemAvailable := slot.itemAvailable }

/-- What a reader returns of a copy. -/
def Chunk.item (data : Chunk) : Item where
  taskId := rstrip data.taskId
  text := rstrip data.text
  isFinal := data.isFinal = 1

/-- Where the producer is, with what it has read. -/
inductive Producer
  | idle
  | sizing (item : Item)
  | sized (item : Item) (writeIdx : Nat)
  | claiming (item : Item)
  | publishing (item : Item) (slot : Nat)
  | filling (item : Item) (slot : Nat) (field : Field)
  | measuring (items : List Item) (block : Bool)
  | spacing (items : List Item) (block : Bool) (writeIdx : Nat)
  | waiting (items : List Item)
  | batching (items kept : List Item) (writeIdx index : Nat) (field : Field)
  deriving DecidableEq

/-- Where the consumer is, with what it has read. -/
inductive Consumer
  | idle
  | getting
  | getRead (readIdx : Nat)
  | getCopying (readIdx : Nat) (data : Chunk) (field : Field)
  | getMarking (readIdx : Nat) (data : Chunk)
  | getMoving (readIdx : Nat) (data : Chunk)
  | trying
  | tryRead (readIdx : Nat)
  | tryChecking (readIdx : Nat)
  | tryMarking (readIdx : Nat)
  | tryMoving (readIdx : Nat)
  | tryCopying (readIdx : Nat) (data : Chunk) (field : Field)
  | manyGetting (most : Nat) (block : Bool)
  | manyRead (most : Nat) (block : Bool) (readIdx : Nat)
  | manyCopying (readIdx count : Nat) (results : List Item) (data : Chunk) (field : Field)
  | manyMarking (readIdx count : Nat) (results : List Item) (data : Chunk)
  | manyMoving (readIdx : Nat) (results : List Item)
  deriving DecidableEq

/-- The shared memory. -/
structure Memory where
  capacity : Nat
  writeIdx : Nat := 0
  readIdx : Nat := 0
  buffer : Nat → Chunk := fun _ => {}

namespace Memory

def store (memory : Memory) (slot : Nat) (item : Item) (field : Field) : Memory :=
  { memory with
    buffer := Function.update memory.buffer slot ((memory.buffer slot).store item field) }

variable (memory : Memory)

/-- Marks the slot as read. -/
def mark (slot : Nat) : Memory :=
  { memory with
    buffer := Function.update memory.buffer slot { memory.buffer slot with itemAvailable := 0 } }

def setWriteIdx (val : Nat) : Memory :=
  { memory with writeIdx := val % memory.capacity }

def setReadIdx (val : Nat) : Memory :=
  { memory with readIdx := val % memory.capacity }

/-- The items between two indices, as producer and consumer compute them. -/
def size (writeIdx readIdx : Nat) : Nat :=
  if readIdx ≤ writeIdx then writeIdx - readIdx else memory.capacity - readIdx + writeIdx

/-- The free slots between two indices, as `put_many` computes them. -/
def availableSpace (writeIdx readIdx : Nat) : Nat :=
  if readIdx ≤ writeIdx then memory.capacity - writeIdx + readIdx - margin
  else readIdx - writeIdx - margin

end Memory

/-- The shared memory, where each side is, and the items so far: what `put` and `put_many` have
taken without an error, what of it they have enqueued, and what the consumer has got. -/
structure ChunkQueue where
  memory : Memory
  producer : Producer := .idle
  consumer : Consumer := .idle
  accepted : List Item := []
  enqueued : List Item := []
  obtained : List Item := []

inductive Label
  | put (message : Message)
  | putMany (messages : List Message) (block : Bool)
  | produce
  | putTimeout
  | get
  | getNowait
  | getMany (most : Nat) (block : Bool)
  | consume
  | getTimeout
  deriving DecidableEq

namespace ChunkQueue

/-- A queue in fresh shared memory. -/
def create (capacity : Nat) : ChunkQueue where
  memory := { capacity }

variable (queue : ChunkQueue)

/-- The next access of `put` or `put_many`. -/
def produce : Option ChunkQueue :=
  match queue.producer with
  | .idle => none
  | .sizing item => some { queue with producer := .sized item queue.memory.writeIdx }
  | .sized item writeIdx =>
    if queue.memory.capacity - margin ≤ queue.memory.size writeIdx queue.memory.readIdx then
      some { queue with producer := .idle }
    else some { queue with producer := .claiming item }
  | .claiming item => some { queue with producer := .publishing item queue.memory.writeIdx }
  | .publishing item slot => some { queue with
      memory := queue.memory.setWriteIdx ((slot + 1) % queue.memory.capacity)
      producer := .filling item slot .taskId }
  | .filling item slot field =>
    match field.afterStore with
    | some following => some { queue with
        memory := queue.memory.store slot item.cut field
        producer := .filling item slot following }
    | none => some { queue with
        memory := queue.memory.store slot item.cut field
        producer := .idle
        accepted := queue.accepted ++ [item]
        enqueued := queue.enqueued ++ [item] }
  | .measuring items block =>
    some { queue with producer := .spacing items block queue.memory.writeIdx }
  | .waiting items => some { queue with producer := .spacing items true queue.memory.writeIdx }
  | .spacing items block writeIdx =>
    let space := queue.memory.availableSpace writeIdx queue.memory.readIdx
    if items.length ≤ space then
      some { queue with producer := .batching items items writeIdx 0 .taskId }
    else if block then some { queue with producer := .waiting items }
    else if space = 0 then
      some { queue with producer := .idle, accepted := queue.accepted ++ items }
    else some { queue with producer := .batching items (items.take space) writeIdx 0 .taskId }
  | .batching items kept writeIdx index field =>
    match kept[index]? with
    | some item => some { queue with
        memory := queue.memory.store ((writeIdx + index) % queue.memory.capacity) item.cut field
        producer := match field.afterStore with
          | some following => .batching items kept writeIdx index following
          | none => .batching items kept writeIdx (index + 1) .taskId }
    | none => some { queue with
        memory := queue.memory.setWriteIdx (writeIdx + kept.length)
        producer := .idle
        accepted := queue.accepted ++ items
        enqueued := queue.enqueued ++ kept }

/-- The next access of `get`, `get_nowait` or `get_many`. -/
def consume : Option ChunkQueue :=
  match queue.consumer with
  | .idle => none
  | .getting => some { queue with consumer := .getRead queue.memory.readIdx }
  | .getRead readIdx =>
    if readIdx = queue.memory.writeIdx then some { queue with consumer := .getting }
    else if queue.memory.capacity ≤ readIdx then some { queue with consumer := .idle }
    else some { queue with consumer := .getCopying readIdx {} .taskId }
  | .getCopying readIdx data field =>
    let copied := data.copyField (queue.memory.buffer readIdx) field
    match field.afterCopy with
    | some following => some { queue with consumer := .getCopying readIdx copied following }
    | none => some { queue with consumer := .getMarking readIdx copied }
  | .getMarking readIdx data => some { queue with
      memory := queue.memory.mark readIdx
      consumer := .getMoving readIdx data }
  | .getMoving readIdx data => some { queue with
      memory := queue.memory.setReadIdx (readIdx + 1)
      consumer := .idle
      obtained := queue.obtained ++ [data.item] }
  | .trying => some { queue with consumer := .tryRead queue.memory.readIdx }
  | .tryRead readIdx =>
    if readIdx = queue.memory.writeIdx then some { queue with consumer := .idle }
    else some { queue with consumer := .tryChecking readIdx }
  | .tryChecking readIdx =>
    if (queue.memory.buffer readIdx).itemAvailable = 0 then some { queue with consumer := .idle }
    else some { queue with consumer := .tryMarking readIdx }
  | .tryMarking readIdx => some { queue with
      memory := queue.memory.mark readIdx
      consumer := .tryMoving readIdx }
  | .tryMoving readIdx => some { queue with
      memory := queue.memory.setReadIdx (readIdx + 1)
      consumer := .tryCopying readIdx {} .taskId }
  | .tryCopying readIdx data field =>
    let copied := data.copyField (queue.memory.buffer readIdx) field
    match field.afterCopy with
    | some following => some { queue with consumer := .tryCopying readIdx copied following }
    | none => some { queue with
        consumer := .idle
        obtained := queue.obtained ++ [copied.item] }
  | .manyGetting most block =>
    some { queue with consumer := .manyRead most block queue.memory.readIdx }
  | .manyRead most block readIdx =>
    if readIdx = queue.memory.writeIdx then
      some { queue with consumer := if block then .manyGetting most block else .idle }
    else if queue.memory.capacity ≤ readIdx then some { queue with consumer := .idle }
    else match min most (queue.memory.size queue.memory.writeIdx readIdx) with
      | 0 => some { queue with consumer := .manyMoving readIdx [] }
      | count + 1 => some { queue with consumer := .manyCopying readIdx (count + 1) [] {} .taskId }
  | .manyCopying readIdx count results data field =>
    let slot := (readIdx + results.length) % queue.memory.capacity
    let copied := data.copyField (queue.memory.buffer slot) field
    match field.afterCopy with
    | some following =>
      some { queue with consumer := .manyCopying readIdx count results copied following }
    | none => some { queue with consumer := .manyMarking readIdx count results copied }
  | .manyMarking readIdx count results data => some { queue with
      memory := queue.memory.mark ((readIdx + results.length) % queue.memory.capacity)
      consumer := if results.length + 1 < count then
          .manyCopying readIdx count (results ++ [data.item]) {} .taskId
        else .manyMoving readIdx (results ++ [data.item]) }
  | .manyMoving readIdx results => some { queue with
      memory := queue.memory.setReadIdx (readIdx + results.length)
      consumer := .idle
      obtained := queue.obtained ++ results }

def step : Label → Option ChunkQueue
  | .put message =>
    if queue.producer = .idle then some { queue with producer := .sizing message.item } else none
  | .putMany messages block =>
    if queue.producer = .idle then
      if messages = [] then some queue
      else some { queue with producer := .measuring (messages.map Message.item) block }
    else none
  | .produce => queue.produce
  | .putTimeout =>
    match queue.producer with
    | .waiting _ => some { queue with producer := .idle }
    | _ => none
  | .get => if queue.consumer = .idle then some { queue with consumer := .getting } else none
  | .getNowait => if queue.consumer = .idle then some { queue with consumer := .trying } else none
  | .getMany most block =>
    if queue.consumer = .idle then some { queue with consumer := .manyGetting most block } else none
  | .consume => queue.consume
  | .getTimeout =>
    match queue.consumer with
    | .getting | .manyGetting _ _ => some { queue with consumer := .idle }
    | _ => none

/-- The slot of which `get` or `get_many` reads a field next. -/
def copiedSlot : Option Nat :=
  match queue.consumer with
  | .getCopying readIdx _ _ => some readIdx
  | .manyCopying readIdx _ results _ _ =>
    some ((readIdx + results.length) % queue.memory.capacity)
  | _ => none

/-- `get` and `get_many` read only from slots that are marked ready. -/
def Ready : Prop :=
  ∀ slot ∈ queue.copiedSlot, (queue.memory.buffer slot).itemAvailable ≠ 0

instance (queue : ChunkQueue) : Decidable queue.Ready :=
  inferInstanceAs (Decidable (∀ slot ∈ queue.copiedSlot, _))

/-- The items that are put hold no text that ends in NUL characters, and no reader comes before
its slot is marked ready. -/
def Meets : Label → Prop
  | .put message => message.item.Plain
  | .putMany messages _ => ∀ message ∈ messages, message.item.Plain
  | .consume => queue.Ready
  | .produce | .putTimeout | .get | .getNowait | .getMany _ _ | .getTimeout => True

instance (queue : ChunkQueue) (label : Label) : Decidable (queue.Meets label) :=
  match label with
  | .put message => inferInstanceAs (Decidable message.item.Plain)
  | .putMany messages _ => inferInstanceAs (Decidable (∀ message ∈ messages, message.item.Plain))
  | .consume => inferInstanceAs (Decidable queue.Ready)
  | .produce | .putTimeout | .get | .getNowait | .getMany _ _ | .getTimeout => .isTrue trivial

/-- A `put_many` that does not wait finds room for all its items. -/
def Fits : Label → Prop
  | .produce => match queue.producer with
    | .spacing items false writeIdx =>
      items.length ≤ queue.memory.availableSpace writeIdx queue.memory.readIdx
    | _ => True
  | _ => True

end ChunkQueue
end InferenceServer.Queues
