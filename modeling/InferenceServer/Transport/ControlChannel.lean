import InferenceServer.Machine.Run
import InferenceServer.Machine.Table
import InferenceServer.Transport.ControlMessage
import InferenceServer.Transport.KvTables

/-! A control channel with the sender of migrations at one end and the receiver at the other.
Messages arrive in order and as late as they like; the sender waits for one reply to each
message, and one that it no longer waits for stays on the channel. Calls and messages carry
numbers that neither end sees. -/
namespace InferenceServer.Transport

open Machine

/-- The message that starts a migration, with the coordinates of the destination. -/
def beginMessage (uuid : UInt64) (dst : KvSlice) : KvControlMessage where
  type := .beginMigration
  uuid := uuid
  slot := dst.slot
  layerBegin := dst.layerBegin
  layerEnd := dst.layerEnd
  positionBegin := dst.positionBegin
  positionEnd := dst.positionEnd

/-- What the bounce receiver advertises. -/
structure MooncakeKvReceiver where
  registered : Bool
  segmentName : List UInt8
  sectionCount : UInt32
  sectionSize : UInt64
  deriving DecidableEq

/-- The receiver's end; without a bounce receiver it runs dry and rejects migrations. -/
structure KvMigrationReceiver where
  receiver : Option MooncakeKvReceiver
  localTableBlob : List UInt8 := []
  deriving DecidableEq

/-- What the receiver's end is left with by a message. -/
structure Handled where
  ok : Table UInt64 Bool
  reply : Option KvControlMessage := none
  serving : Bool := true

namespace KvMigrationReceiver

variable (receiver : KvMigrationReceiver)

def registered : Bool :=
  receiver.receiver.any MooncakeKvReceiver.registered

/-- Whether a window is drained, where `devicesOk` says if its sections lie in the buffer and all
their writes succeed. -/
def drainWindow (devicesOk : Bool) : Bool :=
  receiver.registered && devicesOk

def handle (ok : Table UInt64 Bool) (devicesOk : Bool) (msg : KvControlMessage) : Handled :=
  match msg.type with
  | .tableExchange =>
    if msg.tableBlob = [] ∨ receiver.localTableBlob = [] then { ok, serving := false }
    else {
      ok
      reply := some {
        type := .tableExchange, role := 1, tableBlob := receiver.localTableBlob } }
  | .beginMigration => {
    ok := (∅ : Table UInt64 Bool).insert msg.uuid true
    reply := some {
      type := .bounceReady
      uuid := msg.uuid
      ok := receiver.registered
      segmentName := if receiver.registered then
        (receiver.receiver.map MooncakeKvReceiver.segmentName).getD [] else []
      bounceSectionCount := (receiver.receiver.map MooncakeKvReceiver.sectionCount).getD 0
      bounceSectionSize := (receiver.receiver.map MooncakeKvReceiver.sectionSize).getD 0 } }
  | .windowReady =>
    let drained := receiver.drainWindow devicesOk
    { ok := if drained then ok else ok.insert msg.uuid false
      reply := some {
        type := .windowAck
        uuid := msg.uuid
        ok := drained
        credits := UInt32.ofNat msg.window.length } }
  | .doneMarker => {
    ok := ok.erase msg.uuid
    reply := some {
      type := .ack
      uuid := msg.uuid
      ok := (ok.lookup msg.uuid).getD false } }
  | _ => { ok }

end KvMigrationReceiver

/-- The call that a message belongs to and its place among the messages of that call. A reply has
the tag of what it replies to. -/
structure Tag where
  call : Nat
  index : Nat
  deriving DecidableEq

structure Sent where
  tag : Tag
  message : KvControlMessage
  deriving DecidableEq

/-- Where `migrate` is, with the windows whose acks it has had. -/
inductive MigratePhase
  | idle
  | awaitingReady (uuid : UInt64)
  | transferring (uuid : UInt64) (windows : Nat)
  | awaitingWindowAck (uuid : UInt64) (windows : Nat)
  | awaitingAck (uuid : UInt64) (windows : Nat)
  deriving DecidableEq

/-- What a call returned, after which windows, and the replies that it took. -/
structure CallResult where
  call : Nat
  ok : Bool
  windows : Nat
  consumed : List Tag
  deriving DecidableEq

structure ControlChannel where
  calls : Nat := 0
  sender : MigratePhase := .idle
  consumed : List Tag := []
  gaveUp : Nat := 0
  toReceiver : List Sent := []
  okByUuid : Table UInt64 Bool := ∅
  serving : Bool := true
  drained : List Tag := []
  toSender : List Sent := []
  results : List CallResult := []

inductive ChannelEvent
  | migrate (uuid : UInt64) (request : MigrationRequest)
  | receive
  | giveUp
  | sink (window : List BounceSectionDescriptor)
  | transferFails
  | transferDone
  | serve (devicesOk : Bool)
  deriving DecidableEq

namespace ControlChannel

variable (channel : ControlChannel)

/-- A message of the present call goes out. -/
def send (index : Nat) (message : KvControlMessage) : ControlChannel :=
  { channel with toReceiver := channel.toReceiver ++ [⟨⟨channel.calls, index⟩, message⟩] }

/-- The present call returns. -/
def finish (windows : Nat) (ok : Bool) : ControlChannel :=
  { channel with
    sender := .idle
    results := channel.results ++ [{
      call := channel.calls, ok, windows, consumed := channel.consumed }] }

/-- `migrate` looks at the reply it has waited for; of the reply only these fields matter. -/
def take (message : KvControlMessage) : Option ControlChannel :=
  match channel.sender with
  | .awaitingReady uuid =>
    if message.type ≠ .bounceReady ∨ message.uuid ≠ uuid then some (channel.finish 0 false)
    else if message.ok = false ∨ message.segmentName = [] then some (channel.finish 0 false)
    else some { channel with sender := .transferring uuid 0 }
  | .awaitingWindowAck uuid windows =>
    if message.type ≠ .windowAck ∨ message.uuid ≠ uuid ∨ message.ok = false then
      some (channel.finish windows false)
    else some { channel with sender := .transferring uuid (windows + 1) }
  | .awaitingAck uuid windows =>
    if message.type ≠ .ack ∨ message.uuid ≠ uuid ∨ message.ok = false then
      some (channel.finish windows false)
    else some (channel.finish windows true)
  | _ => none

/-- Steps of the two ends. What `transferSlot` does beside handing windows over is left open: it
may fail or be done after any of them. -/
def step (receiver : KvMigrationReceiver) (channel : ControlChannel) :
    ChannelEvent → Option ControlChannel
  | .migrate uuid request =>
    match channel.sender with
    | .idle =>
      let begun := { channel with
        calls := channel.calls + 1, sender := .awaitingReady uuid, consumed := [] }
      some (begun.send 0 (beginMessage uuid request.dstSlice))
    | _ => none
  | .receive =>
    match channel.toSender with
    | [] => none
    | reply :: rest =>
      { channel with toSender := rest, consumed := channel.consumed ++ [reply.tag] }.take
        reply.message
  | .giveUp =>
    match channel.sender with
    | .awaitingReady _ => some ({ channel with gaveUp := channel.gaveUp + 1 }.finish 0 false)
    | .awaitingWindowAck _ windows | .awaitingAck _ windows =>
      some ({ channel with gaveUp := channel.gaveUp + 1 }.finish windows false)
    | _ => none
  | .sink window =>
    match channel.sender with
    | .transferring uuid windows =>
      some ({ channel with sender := .awaitingWindowAck uuid windows }.send (windows + 1)
        { type := .windowReady, uuid, window })
    | _ => none
  | .transferFails =>
    match channel.sender with
    | .transferring _ windows => some (channel.finish windows false)
    | _ => none
  | .transferDone =>
    match channel.sender with
    | .transferring uuid windows =>
      some ({ channel with sender := .awaitingAck uuid windows }.send (windows + 1)
        { type := .doneMarker, uuid })
    | _ => none
  | .serve devicesOk =>
    match channel.serving, channel.toReceiver with
    | true, ⟨tag, message⟩ :: rest =>
      let handled := receiver.handle channel.okByUuid devicesOk message
      some { channel with
        toReceiver := rest
        okByUuid := handled.ok
        serving := handled.serving
        drained := if message.type = .windowReady ∧ receiver.drainWindow devicesOk then
          channel.drained ++ [tag] else channel.drained
        toSender := channel.toSender ++ (handled.reply.map (⟨tag, ·⟩)).toList }
    | _, _ => none

end ControlChannel

end InferenceServer.Transport
