import InferenceServer.Machine.Codec
import InferenceServer.Machine.Run

/-! Frames over TCP: four bytes of length, the most significant first, and then the message.
One side sends, the other polls, and between them is a stream of bytes that the kernel takes
and gives in pieces of its own choice. Every system call is a step, and its outcome is the
kernel's. A call holds the socket's lock from its first step to its last. -/
namespace InferenceServer.Sockets

open Machine

abbrev Bytes := List UInt8

def maxHeaderRetries : Nat := 100

def maxMessageSizeBytes : Nat := 512 * 1024 * 1024

def payloadChunkBytes : Nat := 4 * 1024 * 1024

/-- The four bytes of a length as they are sent. -/
def htonl (size : Nat) : Bytes := (littleEndian 4 size).reverse

def ntohl (netSize : Bytes) : Nat := netSize.foldl (fun high low => 256 * high + low.toNat) 0

/-- A call of `sendRawData` that is pushing its frame: what of it the kernel has not taken. -/
structure SendCall where
  data : Bytes
  unsentHeader : Bytes
  unsentPayload : Bytes
  deriving DecidableEq

namespace SendCall

/-- The bytes offered to the next `send`. -/
def offered (call : SendCall) : Bytes :=
  if call.unsentHeader = [] then call.unsentPayload else call.unsentHeader

def took (call : SendCall) (count : Nat) : SendCall :=
  if call.unsentHeader = [] then { call with unsentPayload := call.unsentPayload.drop count }
  else { call with unsentHeader := call.unsentHeader.drop count }

end SendCall

/-- The sending side: the arguments of all calls, and those for which the call gave true. -/
structure Sender where
  connected : Bool := true
  running : Bool := true
  call : Option SendCall := none
  passed : List Bytes := []
  sent : List Bytes := []
  deriving DecidableEq

inductive SendOutcome
  | took (count : Nat)
  | wouldBlock
  | failed
  | budgetExpired
  deriving DecidableEq

namespace Sender

variable (sender : Sender)

def sendRawData (data : Bytes) : Sender :=
  let sender := { sender with passed := sender.passed ++ [data] }
  if !sender.connected then sender
  else if data = [] then sender
  else if data.length > maxMessageSizeBytes then sender
  else { sender with call := some ⟨data, htonl data.length, data⟩ }

/-- The call gives false, and the connection is given up. -/
def giveUp : Sender := { sender with connected := false, call := none }

/-- The kernel has taken bytes; after the last one the call gives true. -/
def advance (call : SendCall) : Sender :=
  if call.unsentHeader = [] ∧ call.unsentPayload = [] then
    { sender with call := none, sent := sender.sent ++ [call.data] }
  else { sender with call := some call }

/-- One round of `sendAll`, and the bytes that the stream gets. -/
def sendAll (call : SendCall) : SendOutcome → Option (Sender × Bytes)
  | .took count =>
    if 0 < count ∧ count ≤ call.offered.length then
      some (sender.advance (call.took count), call.offered.take count)
    else none
  | .wouldBlock => some (if sender.running then sender else sender.giveUp, [])
  | .failed => some (sender.giveUp, [])
  | .budgetExpired => some (sender.giveUp, [])

end Sender

inductive ReceiveResult
  | noData
  | data (bytes : Bytes)
  | closed
  deriving DecidableEq

/-- Where a call of `tryReceiveMessage` is. -/
inductive ReceivePhase
  | idle
  | header (buffer : Bytes) (retries : Nat)
  | payload (size : Nat) (data buffer : Bytes)
  deriving DecidableEq

structure Receiver where
  connected : Bool := true
  running : Bool := true
  phase : ReceivePhase := .idle
  results : List ReceiveResult := []
  deriving DecidableEq

inductive RecvOutcome
  | gave (count : Nat)
  | wouldBlock
  | hungUp
  | budgetExpired
  deriving DecidableEq

namespace Receiver

variable (receiver : Receiver)

def finish (result : ReceiveResult) : Receiver :=
  { receiver with phase := .idle, results := receiver.results ++ [result] }

/-- The stream can no longer be told into frames. -/
def close : Receiver :=
  { receiver with connected := false }.finish .closed

def tryReceiveMessage : Receiver :=
  if receiver.connected then { receiver with phase := .header [] 0 }
  else receiver.finish (if receiver.running then .noData else .closed)

/-- How much is asked for at once, a lying length notwithstanding. -/
def chunk (size : Nat) (data : Bytes) : Nat := min payloadChunkBytes (size - data.length)

/-- The header after bytes have come. -/
def tookHeader (buffer : Bytes) : Receiver :=
  if buffer.length < 4 then { receiver with phase := .header buffer 0 }
  else if ntohl buffer = 0 ∨ ntohl buffer > maxMessageSizeBytes then receiver.close
  else { receiver with phase := .payload (ntohl buffer) [] [] }

/-- The payload after bytes of a chunk have come. -/
def tookPayload (size : Nat) (data buffer : Bytes) : Receiver :=
  if buffer.length < chunk size data then
    { receiver with phase := .payload size data buffer }
  else if (data ++ buffer).length < size then
    { receiver with phase := .payload size (data ++ buffer) [] }
  else receiver.finish (.data (data ++ buffer))

/-- One round of `receiveExact`, and what is left of the stream. -/
def receiveExact (stream : Bytes) (outcome : RecvOutcome) : Option (Receiver × Bytes) :=
  match receiver.phase with
  | .idle => none
  | .header buffer retries =>
    match outcome with
    | .gave count =>
      if 0 < count ∧ count ≤ 4 - buffer.length ∧ count ≤ stream.length then
        some (receiver.tookHeader (buffer ++ stream.take count), stream.drop count)
      else none
    | .wouldBlock =>
      if buffer = [] then some (receiver.finish .noData, stream)
      else if !receiver.running then some (receiver.close, stream)
      else if retries + 1 > maxHeaderRetries then some (receiver.close, stream)
      else some ({ receiver with phase := .header buffer (retries + 1) }, stream)
    | .hungUp => some (receiver.close, stream)
    | .budgetExpired =>
      some (if buffer = [] then receiver.finish .noData else receiver.close, stream)
  | .payload size data buffer =>
    match outcome with
    | .gave count =>
      if 0 < count ∧ count ≤ chunk size data - buffer.length ∧ count ≤ stream.length then
        some (receiver.tookPayload size data (buffer ++ stream.take count), stream.drop count)
      else none
    | .wouldBlock => some (if receiver.running then receiver else receiver.close, stream)
    | .hungUp => some (receiver.close, stream)
    | .budgetExpired => some (receiver.close, stream)

/-- The messages that polls have given. -/
def delivered : List Bytes :=
  receiver.results.filterMap fun
    | .data bytes => some bytes
    | _ => none

end Receiver

/-- One direction of a connection. -/
structure Link where
  sender : Sender := {}
  stream : Bytes := []
  receiver : Receiver := {}
  deriving DecidableEq

/-- What can happen next. Besides the calls, either side may find its connection lost or be
stopped, and a peer that keeps to no frames may write anything. -/
inductive LinkEvent
  | sendRawData (data : Bytes)
  | send (outcome : SendOutcome)
  | tryReceiveMessage
  | recv (outcome : RecvOutcome)
  | senderLost
  | senderStops
  | receiverLost
  | receiverStops
  | peerWrites (bytes : Bytes)
  deriving DecidableEq

namespace Link

def step (link : Link) : LinkEvent → Option Link
  | .sendRawData data =>
    match link.sender.call with
    | none => some { link with sender := link.sender.sendRawData data }
    | some _ => none
  | .send outcome => do
    let call ← link.sender.call
    let (sender, bytes) ← link.sender.sendAll call outcome
    return { link with sender, stream := link.stream ++ bytes }
  | .tryReceiveMessage =>
    if link.receiver.phase = .idle then
      some { link with receiver := link.receiver.tryReceiveMessage }
    else none
  | .recv outcome => do
    let (receiver, stream) ← link.receiver.receiveExact link.stream outcome
    return { link with receiver, stream }
  | .senderLost => some { link with sender.connected := false }
  | .senderStops => some { link with sender.connected := false, sender.running := false }
  | .receiverLost => some { link with receiver.connected := false }
  | .receiverStops => some { link with receiver.connected := false, receiver.running := false }
  | .peerWrites bytes => some { link with stream := link.stream ++ bytes }

end Link

end InferenceServer.Sockets
