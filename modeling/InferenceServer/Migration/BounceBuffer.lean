import InferenceServer.Machine.ByteMemory
import InferenceServer.Machine.Run
import InferenceServer.Machine.Table
import Mathlib.Algebra.GroupWithZero.Nat

/-! The bounce buffer of a decode host and the prefill hosts that migrate through it. Each
sender has a control channel of its own to a session of its own, an allocator that starts
at offset 0 for each migration, and writes into the receiver's memory through the transfer
engine; the sessions share the one buffer. -/
namespace InferenceServer.Migration

open Machine

abbrev Uuid := UInt64

structure BounceGeometry where
  sectionCount : Nat
  sectionSize : Nat
  deriving DecidableEq

namespace BounceGeometry

def capacity (geometry : BounceGeometry) : Nat := geometry.sectionCount * geometry.sectionSize

def valid (geometry : BounceGeometry) : Bool :=
  geometry.sectionCount > 0 ∧ geometry.sectionSize > 0

end BounceGeometry

structure BounceSectionAllocator where
  geometry : BounceGeometry
  outstanding : Nat := 0
  deriving DecidableEq

namespace BounceSectionAllocator

/-- The offset of the next free section. -/
def alloc (allocator : BounceSectionAllocator) : Option (Nat × BounceSectionAllocator) :=
  if allocator.geometry.sectionCount = 0 ∨
      allocator.outstanding ≥ allocator.geometry.sectionCount then none
  else some (allocator.outstanding * allocator.geometry.sectionSize,
    { allocator with outstanding := allocator.outstanding + 1 })

def release (allocator : BounceSectionAllocator) (count : Nat) : BounceSectionAllocator :=
  { allocator with
    outstanding := if count ≥ allocator.outstanding then 0 else allocator.outstanding - count }

end BounceSectionAllocator

structure DrainTarget where
  device : UInt64
  nocAddr : UInt64
  deriving DecidableEq

/-- A run of chunks that fits a section: the bytes of the source device and where they go. -/
structure Segment where
  data : List UInt8
  targets : List DrainTarget
  deriving DecidableEq

/-- A section of a window. Of the data only the length goes over the control channel; the
bytes are what the sender writes there. -/
structure BounceSectionDescriptor where
  sectionOffset : Nat
  data : List UInt8
  targets : List DrainTarget
  deriving DecidableEq

/-- One round of the loop that parts segments into windows. -/
def addToWindows (geometry : BounceGeometry) (bufferBytes : Nat) (windows : List (List Segment))
    (seg : Segment) : List (List Segment) :=
  match windows.getLast? with
  | none => [[seg]]
  | some back =>
    if back.length ≥ geometry.sectionCount ∨
        (back.map (·.data.length)).sum + seg.data.length > bufferBytes then
      windows ++ [[seg]]
    else windows.dropLast ++ [back ++ [seg]]

def planWindows (geometry : BounceGeometry) (bufferBytes : Nat) (segments : List Segment) :
    List (List Segment) :=
  segments.foldl (addToWindows geometry bufferBytes) []

/-- Sections for the segments of a window. -/
def assignSections (allocator : BounceSectionAllocator) :
    List Segment → Option (BounceSectionAllocator × List BounceSectionDescriptor)
  | [] => some (allocator, [])
  | seg :: rest => do
    let (sectionOffset, allocator) ← allocator.alloc
    let (allocator, window) ← assignSections allocator rest
    return (allocator, { sectionOffset, data := seg.data, targets := seg.targets } :: window)

inductive Request
  | beginMigration (uuid : Uuid)
  | windowReady (uuid : Uuid) (window : List BounceSectionDescriptor)
  | doneMarker (uuid : Uuid)
  deriving DecidableEq

inductive Reply
  | bounceReady (uuid : Uuid) (ok : Bool) (geometry : BounceGeometry)
  | windowAck (uuid : Uuid) (ok : Bool)
  | ack (uuid : Uuid) (ok : Bool)
  deriving DecidableEq

/-- Where a sender's `migrate` is. -/
inductive SendPhase
  | idle
  | awaitingReady (uuid : Uuid) (segments : List Segment)
  | staged (uuid : Uuid) (allocator : BounceSectionAllocator) (window : List Segment)
      (rest : List (List Segment))
  | writing (uuid : Uuid) (allocator : BounceSectionAllocator)
      (unplaced window : List BounceSectionDescriptor) (rest : List (List Segment))
  | awaitingAck (uuid : Uuid) (allocator : BounceSectionAllocator) (sections : Nat)
      (rest : List (List Segment))
  | awaitingDone (uuid : Uuid)
  deriving DecidableEq

/-- Where a session of the receiver is: what it has yet to copy to the device. -/
inductive Session
  | waiting
  | draining (uuid : Uuid) (remaining : List (BounceSectionDescriptor × DrainTarget)) (ok : Bool)
  deriving DecidableEq

/-- A sender, its session, and the messages between them. -/
structure Channel where
  sender : SendPhase := .idle
  toReceiver : List Request := []
  session : Session := .waiting
  ok : Table Uuid Bool := ∅
  toSender : List Reply := []

/-- The decode host's side and the senders' staging buffers. -/
structure Setup (α : Type) where
  geometry : BounceGeometry
  registered : Bool
  bufferBytes : α → Nat

/-- One section as it went to a device, beside what its sender wrote there. -/
structure DeviceWrite where
  target : DrainTarget
  written : List UInt8
  copied : List UInt8
  deriving DecidableEq

structure World (α : Type) where
  memory : ByteMemory := fun _ => 0
  channels : α → Channel := fun _ => {}
  deviceWrites : List DeviceWrite := []

namespace Channel

variable (channel : Channel) (geometry : BounceGeometry)

/-- The next window is staged, or the migration is done. -/
def proceed (uuid : Uuid) (allocator : BounceSectionAllocator) :
    List (List Segment) → Channel
  | [] =>
    { channel with
      sender := .awaitingDone uuid
      toReceiver := channel.toReceiver ++ [.doneMarker uuid] }
  | window :: rest => { channel with sender := .staged uuid allocator window rest }

/-- The start of `transferSlot`: the geometry and the sizes are checked first. -/
def transferSlot (bufferBytes : Nat) (uuid : Uuid) (segments : List Segment)
    (geometry : BounceGeometry) : Channel :=
  if !geometry.valid then { channel with sender := .idle }
  else if segments.any fun seg => seg.data.length > min geometry.sectionSize bufferBytes then
    { channel with sender := .idle }
  else channel.proceed uuid { geometry } (planWindows geometry bufferBytes segments)

/-- The sender takes a reply it waits for. -/
def takeReply (bufferBytes : Nat) (reply : Reply) : Option Channel :=
  match channel.sender with
  | .awaitingReady uuid segments =>
    some (match reply with
    | .bounceReady id ok geometry =>
      if id ≠ uuid ∨ !ok then { channel with sender := .idle }
      else channel.transferSlot bufferBytes uuid segments geometry
    | _ => { channel with sender := .idle })
  | .awaitingAck uuid allocator sections rest =>
    some (match reply with
    | .windowAck id ok =>
      if id ≠ uuid ∨ !ok then { channel with sender := .idle }
      else channel.proceed uuid (allocator.release sections) rest
    | _ => { channel with sender := .idle })
  | .awaitingDone _ => some { channel with sender := .idle }
  | _ => none

/-- What a window has to be copied: its sections inside the buffer, each to all its targets. -/
def copies (window : List BounceSectionDescriptor) : List (BounceSectionDescriptor × DrainTarget) :=
  (window.filter fun d => d.sectionOffset + d.data.length ≤ geometry.capacity).flatMap
    fun d => d.targets.map (d, ·)

/-- The session handles a message; a window it copies section by section. -/
def handle (registered : Bool) :
    Request → Channel
  | .beginMigration uuid =>
    { channel with
      ok := (∅ : Table Uuid Bool).insert uuid true
      toSender := channel.toSender ++ [.bounceReady uuid registered geometry] }
  | .windowReady uuid window =>
    if registered then
      { channel with
        session := .draining uuid (copies geometry window)
          (window.all fun d => d.sectionOffset + d.data.length ≤ geometry.capacity) }
    else
      { channel with
        ok := channel.ok.insert uuid false
        toSender := channel.toSender ++ [.windowAck uuid false] }
  | .doneMarker uuid =>
    { channel with
      ok := channel.ok.erase uuid
      toSender := channel.toSender ++ [.ack uuid ((channel.ok.lookup uuid).getD false)] }

end Channel

inductive MigrationEvent (α : Type)
  | migrate (sender : α) (uuid : Uuid) (segments : List Segment)
  | takeReply (sender : α)
  | giveUp (sender : α)
  | submit (sender : α)
  | place (sender : α) (section_ : BounceSectionDescriptor)
  | complete (sender : α)
  | serve (sender : α)
  | copy (sender : α) (deviceOk : Bool)
  | finishDrain (sender : α)
  deriving DecidableEq

namespace World

variable {α : Type} [DecidableEq α]

def setChannel (world : World α) (sender : α) (channel : Channel) : World α :=
  { world with channels := Function.update world.channels sender channel }

/-- Steps of one sender and its session. A WRITE of the engine is a step, and so is the copy
of a section to a device. -/
def step (setup : Setup α) (world : World α) : MigrationEvent α → Option (World α)
  | .migrate sender uuid segments =>
    let channel := world.channels sender
    match channel.sender with
    | .idle =>
      some (world.setChannel sender { channel with
        sender := .awaitingReady uuid segments
        toReceiver := channel.toReceiver ++ [.beginMigration uuid] })
    | _ => none
  | .takeReply sender =>
    let channel := world.channels sender
    match channel.toSender with
    | [] => none
    | reply :: rest =>
      ({ channel with toSender := rest }.takeReply (setup.bufferBytes sender) reply).map
        (world.setChannel sender)
  | .giveUp sender =>
    some (world.setChannel sender { world.channels sender with sender := .idle })
  | .submit sender =>
    let channel := world.channels sender
    match channel.sender with
    | .staged uuid allocator segments rest =>
      some (world.setChannel sender { channel with
        sender := match assignSections allocator segments with
          | none => .idle
          | some (allocator, window) => .writing uuid allocator window window rest })
    | _ => none
  | .place sender section_ =>
    let channel := world.channels sender
    match channel.sender with
    | .writing uuid allocator unplaced window rest =>
      if section_ ∈ unplaced then
        some { world.setChannel sender { channel with
            sender := .writing uuid allocator (unplaced.erase section_) window rest } with
          memory := world.memory.write section_.sectionOffset section_.data }
      else none
    | _ => none
  | .complete sender =>
    let channel := world.channels sender
    match channel.sender with
    | .writing uuid allocator [] window rest =>
      some (world.setChannel sender { channel with
        sender := .awaitingAck uuid allocator window.length rest
        toReceiver := channel.toReceiver ++ [.windowReady uuid window] })
    | _ => none
  | .serve sender =>
    let channel := world.channels sender
    match channel.session, channel.toReceiver with
    | .waiting, request :: rest =>
      some (world.setChannel sender
        ({ channel with toReceiver := rest }.handle setup.geometry setup.registered request))
    | _, _ => none
  | .copy sender deviceOk =>
    let channel := world.channels sender
    match channel.session with
    | .draining uuid ((d, target) :: rest) ok =>
      some { world.setChannel sender { channel with
          session := .draining uuid rest (ok && deviceOk) } with
        deviceWrites := world.deviceWrites ++ [{
          target
          written := d.data
          copied := world.memory.read d.sectionOffset d.data.length }] }
    | _ => none
  | .finishDrain sender =>
    let channel := world.channels sender
    match channel.session with
    | .draining uuid [] ok =>
      some (world.setChannel sender { channel with
        session := .waiting
        ok := if ok then channel.ok else channel.ok.insert uuid false
        toSender := channel.toSender ++ [.windowAck uuid ok] })
    | _ => none

end World

end InferenceServer.Migration
