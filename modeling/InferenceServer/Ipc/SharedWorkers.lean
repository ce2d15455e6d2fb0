import InferenceServer.Ipc.RingRecords
import InferenceServer.Ipc.RingRoles

/-! Several workers on the server side share both rings. Claiming a slot is a load of the index and
a wait, with nothing that makes the two one step, so that two workers can end their waits on one
slot; both rings work as long as that does not happen. -/
namespace InferenceServer.Ipc

open Machine

theorem Writer.down_of_recovers {Field : Type*} {writer : Writer Field} (steady : writer.recovers = false) :
    writer.down = false := by
  cases writer <;> first | rfl | cases steady

theorem Reader.down_of_recovers {Field : Type*} {reader : Reader Field} (steady : reader.recovers = false) :
    reader.down = false := by
  cases reader <;> first | rfl | cases steady

namespace VideoShm

variable {Field : Type*} {shm next : VideoShm Field} {label : Label Field}

/-- Nobody has crashed, and both indices count the calls that have returned. -/
structure Counted (shm : VideoShm Field) : Prop where
  writers : ∀ worker, (shm.writers worker).recovers = false
  readers : ∀ worker, (shm.readers worker).recovers = false
  accepted : shm.accepted.length = shm.writerIndex
  returned : shm.returned.length = shm.readerIndex

namespace Counted

variable (counted : Counted shm)

include counted

theorem leaves (live : label.live = true) : shm.LeavesCrashedSlot label := by
  cases label with
  | writer worker =>
    rintro ⟨other, down⟩
    rw [Reader.down_of_recovers (counted.readers other)] at down
    cases down
  | reader worker =>
    rintro ⟨other, down⟩
    rw [Writer.down_of_recovers (counted.writers other)] at down
    cases down
  | crashWriter | crashReader => cases live
  | write | abandonWrite | recoverWriter | read | abandonRead | recoverReader => trivial

theorem visible (live : label.live = true) : shm.GapVisible label := by
  cases label with
  | writer worker =>
    intro comparing
    have steady := counted.writers worker
    cases place : shm.writers worker <;> rw [place] at comparing steady
    case comparing => cases steady
    all_goals cases comparing
  | recoverReader => cases live
  | write | abandonWrite | crashWriter | recoverWriter | read | reader | abandonRead
  | crashReader => trivial

theorem step (sound : Sound shm) (live : label.live = true)
    (stepped : shm.step label = some next) : Counted next := by
  have records := records_of_step stepped
  have steady : (∀ worker, (next.writers worker).recovers = false) ∧
      ∀ worker, (next.readers worker).recovers = false := by
    cases side : label.ofWriter with
    | true =>
      obtain ⟨readers, _, place, writers, _, kept⟩ := moves_writer stepped side
      rw [readers, writers]
      refine ⟨fun worker => ?_, counted.readers⟩
      rw [Function.update_apply]
      split
      · exact kept live (counted.writers _)
      · exact counted.writers worker
    | false =>
      obtain ⟨writers, _, place, readers, _, kept⟩ := moves_reader stepped side
      rw [readers, writers]
      refine ⟨counted.writers, fun worker => ?_⟩
      rw [Function.update_apply]
      split
      · exact kept live (counted.readers _)
      · exact counted.readers worker
  refine ⟨steady.1, steady.2, ?_, ?_⟩
  · cases records.accepts with
    | nothing accepted index => rw [accepted, index, counted.accepted]
    | accepts worker widx message place accepted index =>
      have fits := sound.writers.fits worker
      rw [place] at fits
      rw [accepted, index, List.length_append, counted.accepted, fits.1]
      rfl
    | repairs worker widx place accepted index =>
      have steady := counted.writers worker
      rw [place] at steady
      cases steady
  · cases records.returns with
    | nothing returned index => rw [returned, index, counted.returned]
    | returns worker ridx message place returned index =>
      have fits := sound.readers.fits worker
      rw [place] at fits
      rw [returned, index, List.length_append, counted.returned, fits.1]
      rfl
    | repairs worker ridx place returned index =>
      have steady := counted.readers worker
      rw [place] at steady
      cases steady

end Counted

/-- What holds of a ring between any two steps of the calls. -/
structure Steady (shm : VideoShm Field) : Prop where
  sound : Sound shm
  recorded : Recorded shm
  counted : Counted shm

theorem Steady.opened {slots fields : Nat} {zero : Field} (positive : 0 < slots) :
    Steady (opened slots fields zero) :=
  ⟨.opened positive, ⟨.slnil, .slnil⟩, fun _ => rfl, fun _ => rfl, rfl, rfl⟩

theorem Steady.step (steady : Steady shm) (live : label.live = true)
    (exclusive : shm.Exclusive label) (stepped : shm.step label = some next) : Steady next where
  sound := steady.sound.step exclusive (steady.counted.leaves live) (steady.counted.visible live)
    stepped
  recorded := steady.recorded.step steady.sound stepped
  counted := steady.counted.step steady.sound live stepped

/-- The calls that have returned are the first messages, in order, each with its own fields, and
the indices are their numbers; at most one message on either side has not returned yet. -/
structure Delivered (shm : VideoShm Field) : Prop where
  accepted : shm.accepted.map Prod.snd = shm.committed.take shm.accepted.length
  returned : shm.returned.map Prod.snd = shm.committed.take shm.returned.length
  writerIndex : shm.writerIndex = shm.accepted.length
  readerIndex : shm.readerIndex = shm.returned.length
  writing : shm.committed.length ≤ shm.accepted.length + 1
  reading : shm.consumed.length ≤ shm.returned.length + 1

theorem Steady.delivered (steady : Steady shm) : Delivered shm := by
  obtain ⟨sound, recorded, counted⟩ := steady
  have writing := sound.writers.near
  have reading := sound.readers.near
  have accepted := recorded.accepted
  have returned := recorded.returned
  rw [← counted.accepted] at accepted writing
  rw [← counted.returned] at returned reading
  have ordered : shm.consumed.take shm.returned.length =
      shm.committed.take shm.returned.length := by
    obtain ⟨rest, split⟩ := sound.memory.delivered
    rw [← split, List.take_append_of_le_length (by omega)]
  refine ⟨accepted.eq_of_length ?_, ordered ▸ returned.eq_of_length ?_, counted.accepted.symm,
    counted.returned.symm, by omega, by omega⟩
  · rw [List.length_map, List.length_take_of_le (by omega)]
  · rw [List.length_map, List.length_take_of_le (by omega)]

end VideoShm

/-- The two rings between the workers and the pipeline process. -/
structure Rings (Field : Type*) where
  input : VideoShm Field
  output : VideoShm Field

namespace Rings

open VideoShm (Label)

variable {Field : Type*} {rings next : Rings Field}

inductive Side (Field : Type*)
  | input (label : Label Field)
  | output (label : Label Field)
  deriving DecidableEq

def step (rings : Rings Field) : Side Field → Option (Rings Field)
  | .input label => (rings.input.step label).map fun input => { rings with input }
  | .output label => (rings.output.step label).map fun output => { rings with output }

def opened (inputFields outputFields : Nat) (zero : Field) : Rings Field where
  input := .opened inputSlots inputFields zero
  output := .opened outputSlots outputFields zero

/-- Any worker writes requests and reads responses; the pipeline is the only one on its side. -/
def Roles : Side Field → Prop
  | .input label => label.live = true ∧ (label.ofWriter = false → label.worker = 0)
  | .output label => label.live = true ∧ (label.ofWriter = true → label.worker = 0)

/-- A worker ends its wait on a slot only while the index that it has loaded is the current one and
no other worker is between its wait and its bump. -/
def OneClaim (rings : Rings Field) : Side Field → Prop
  | .input label => label.ofWriter = true → rings.input.Exclusive label
  | .output label => label.ofWriter = false → rings.output.Exclusive label

structure Sound (rings : Rings Field) : Prop where
  input : VideoShm.Steady rings.input
  output : VideoShm.Steady rings.output
  pipelineReads : VideoShm.SingleReader rings.input
  pipelineWrites : VideoShm.SingleWriter rings.output

theorem Sound.step {side : Side Field} (sound : Sound rings) (roles : Roles side)
    (claims : rings.OneClaim side) (stepped : rings.step side = some next) : Sound next := by
  cases side with
  | input label =>
    obtain ⟨input, moved, rfl⟩ := Option.map_eq_some_iff.mp stepped
    have exclusive : rings.input.Exclusive label := by
      cases writer : label.ofWriter with
      | true => exact claims writer
      | false => exact sound.pipelineReads.exclusive writer (roles.2 writer)
    exact ⟨sound.input.step roles.1 exclusive moved, sound.output,
      sound.pipelineReads.step roles.2 moved, sound.pipelineWrites⟩
  | output label =>
    obtain ⟨output, moved, rfl⟩ := Option.map_eq_some_iff.mp stepped
    have exclusive : rings.output.Exclusive label := by
      cases writer : label.ofWriter with
      | true => exact sound.pipelineWrites.exclusive writer (roles.2 writer)
      | false => exact claims writer
    exact ⟨sound.input, sound.output.step roles.1 exclusive moved, sound.pipelineReads,
      sound.pipelineWrites.step roles.2 moved⟩

/-- On both rings every write that returned `True` is read once, in order and with its own fields,
by one reader, and the indices count the messages; the pipeline gets every request that has been
committed, and a worker that is alone behind the waits every response. -/
theorem shared_rings_deliver {inputFields outputFields : Nat} {zero : Field}
    (reached : Reaches step (fun rings side => Roles side ∧ rings.OneClaim side)
      (opened inputFields outputFields zero) rings) :
    VideoShm.Delivered rings.input ∧ VideoShm.Delivered rings.output ∧
      (∀ ridx, rings.input.readers 0 = .waiting ridx →
        ∀ request, rings.input.committed[rings.input.consumed.length]? = some request →
          ∃ later, VideoShm.ByReader 0 rings.input later ∧
            later.consumed = rings.input.consumed ++ [request]) ∧
      ∀ worker ridx, rings.output.readers worker = .waiting ridx →
        ridx = rings.output.readerIndex → rings.output.ReaderAlone worker →
        ∀ response, rings.output.committed[rings.output.consumed.length]? = some response →
          ∃ later, VideoShm.ByReader worker rings.output later ∧
            later.consumed = rings.output.consumed ++ [response] := by
  have start : Sound (opened inputFields outputFields zero) :=
    ⟨.opened (by decide), .opened (by decide), .opened inputSlots inputFields zero,
      .opened outputSlots outputFields zero⟩
  have sound := reached.invariant Sound start fun _ _ _ sound allowed stepped =>
    sound.step allowed.1 allowed.2 stepped
  exact ⟨sound.input.delivered, sound.output.delivered,
    fun ridx place request => sound.input.sound.delivers place
      (sound.pipelineReads.current ridx place) sound.pipelineReads.alone,
    fun worker ridx place current alone response =>
      sound.output.sound.delivers place current alone⟩

/-- `OneClaim` with nobody to look at but the first workers. -/
def ClaimAmong (count : Nat) (rings : Rings Field) : Side Field → Prop
  | .input (.writer worker) => ∀ widx ∈ (rings.input.writers worker).waitsAt,
      (rings.input.at_ widx).filled = false → widx = rings.input.writerIndex ∧
        ∀ other, other < count → other ≠ worker → (rings.input.writers other).busy = false
  | .output (.reader worker) => ∀ ridx ∈ (rings.output.readers worker).waitsAt,
      (rings.output.at_ ridx).filled = true → ridx = rings.output.readerIndex ∧
        ∀ other, other < count → other ≠ worker → (rings.output.readers other).busy = false
  | _ => True

def Side.worker : Side Field → Nat
  | .input label | .output label => label.worker

theorem oneClaim_of_among {count : Nat} {side : Side Field} (roles : Roles side)
    (input : VideoShm.Few count rings.input) (output : VideoShm.Few count rings.output)
    (among : rings.ClaimAmong count side) : rings.OneClaim side := by
  cases side with
  | input label =>
    intro ofWriter
    cases label with
    | writer worker =>
      intro widx waits free
      obtain ⟨current, alone⟩ := among widx waits free
      refine ⟨current, fun other different => ?_⟩
      rcases Nat.lt_or_ge other count with inside | outside
      · exact alone other inside different
      · rw [(input other outside).1]
        rfl
    | crashWriter => cases roles.1
    | read | reader | abandonRead | crashReader | recoverReader => cases ofWriter
    | write | abandonWrite | recoverWriter => trivial
  | output label =>
    intro ofReader
    cases label with
    | reader worker =>
      intro ridx waits filled
      obtain ⟨current, alone⟩ := among ridx waits filled
      refine ⟨current, fun other different => ?_⟩
      rcases Nat.lt_or_ge other count with inside | outside
      · exact alone other inside different
      · rw [(output other outside).2]
        rfl
    | crashReader => cases roles.1
    | write | writer | abandonWrite | crashWriter | recoverWriter => cases ofReader
    | read | abandonRead | recoverReader => trivial

theorem few_of_step {count : Nat} {side : Side Field} (inside : side.worker < count)
    (few : VideoShm.Few count rings.input ∧ VideoShm.Few count rings.output)
    (stepped : rings.step side = some next) :
    VideoShm.Few count next.input ∧ VideoShm.Few count next.output := by
  cases side with
  | input label =>
    obtain ⟨input, moved, rfl⟩ := Option.map_eq_some_iff.mp stepped
    exact ⟨few.1.step inside moved, few.2⟩
  | output label =>
    obtain ⟨output, moved, rfl⟩ := Option.map_eq_some_iff.mp stepped
    exact ⟨few.1, few.2.step inside moved⟩

/-- A run of a few workers, checked step by step, has one claim at a time. -/
theorem oneClaim_of_checked {count inputFields outputFields : Nat} {zero : Field}
    (checked : Reaches step (fun rings side => (side.worker < count ∧ Roles side) ∧
      rings.ClaimAmong count side) (opened inputFields outputFields zero) rings) :
    Reaches step (fun rings side => Roles side ∧ rings.OneClaim side)
      (opened inputFields outputFields zero) rings := by
  induction checked with
  | refl => exact .refl
  | tail earlier permitted stepped ih =>
    have few := earlier.invariant
      (fun rings => VideoShm.Few count rings.input ∧ VideoShm.Few count rings.output)
      ⟨fun _ _ => ⟨rfl, rfl⟩, fun _ _ => ⟨rfl, rfl⟩⟩
      fun _ _ _ few permitted stepped => few_of_step permitted.1.1 few stepped
    exact .tail ih ⟨permitted.1.2, oneClaim_of_among permitted.1.2 few.1 few.2 permitted.2⟩ stepped

instance (side : Side Field) : Decidable (Roles side) :=
  match side with
  | .input label => inferInstanceAs (Decidable (label.live = true ∧ _))
  | .output label => inferInstanceAs (Decidable (label.live = true ∧ _))

instance (count : Nat) (rings : Rings Field) (side : Side Field) :
    Decidable (rings.ClaimAmong count side) :=
  match side with
  | .input (.writer worker) => inferInstanceAs (Decidable
      (∀ widx ∈ (rings.input.writers worker).waitsAt, (rings.input.at_ widx).filled = false →
        widx = rings.input.writerIndex ∧
          ∀ other, other < count → other ≠ worker → (rings.input.writers other).busy = false))
  | .output (.reader worker) => inferInstanceAs (Decidable
      (∀ ridx ∈ (rings.output.readers worker).waitsAt, (rings.output.at_ ridx).filled = true →
        ridx = rings.output.readerIndex ∧
          ∀ other, other < count → other ≠ worker → (rings.output.readers other).busy = false))
  | .input (.write ..) | .input (.abandonWrite _) | .input (.crashWriter _)
  | .input (.recoverWriter _) | .input (.read _) | .input (.reader _) | .input (.abandonRead _)
  | .input (.crashReader _) | .input (.recoverReader _) | .output (.write ..)
  | .output (.writer _) | .output (.abandonWrite _) | .output (.crashWriter _)
  | .output (.recoverWriter _) | .output (.read _) | .output (.abandonRead _)
  | .output (.crashReader _) | .output (.recoverReader _) => .isTrue trivial

/-- Two workers write one request each, one after the other, and the pipeline reads one. -/
def takeTurns : List (Side Nat) :=
  [.input (.write 0 [1]), .input (.writer 0), .input (.writer 0), .input (.writer 0),
    .input (.writer 0), .input (.write 1 [2]), .input (.writer 1), .input (.writer 1),
    .input (.writer 1), .input (.writer 1), .input (.read 0), .input (.reader 0),
    .input (.reader 0), .input (.reader 0), .input (.reader 0), .input (.read 0)]

theorem takeTurns_runs : (runWithin step (fun rings side => (side.worker < 2 ∧ Roles side) ∧
    rings.ClaimAmong 2 side) (opened 1 1 0) takeTurns).isSome = true := by
  decide +kernel

def turnsTaken : Rings Nat :=
  (runWithin step (fun rings side => (side.worker < 2 ∧ Roles side) ∧ rings.ClaimAmong 2 side)
    (opened 1 1 0) takeTurns).get takeTurns_runs

theorem shared_rings_deliver_turnsTaken : turnsTaken.input.writerIndex = 2 ∧
    ∃ later, VideoShm.ByReader 0 turnsTaken.input later ∧ later.consumed = [[1], [2]] := by
  have delivered := shared_rings_deliver (oneClaim_of_checked (reaches_get takeTurns_runs))
  refine ⟨by decide +kernel, ?_⟩
  exact delivered.2.2.1 1 (by decide +kernel) [2] (by decide +kernel)

/-- Two workers end their waits on the same slot. -/
def claimTogether : List (Side Nat) :=
  [.input (.write 0 [1]), .input (.write 1 [2]), .input (.writer 0), .input (.writer 1),
    .input (.writer 0), .input (.writer 1), .input (.writer 0), .input (.writer 0),
    .input (.writer 1), .input (.writer 1), .input (.read 0), .input (.reader 0),
    .input (.reader 0), .input (.reader 0), .input (.reader 0), .input (.read 0)]

theorem claimTogether_runs : (runWithin step (fun (_ : Rings Nat) side => Roles side)
    (opened 1 1 0) claimTogether).isSome = true := by
  decide +kernel

/-- Both writes return `True`, the index advances once, and the pipeline reads one request and
waits for a slot that is empty. -/
theorem shared_rings_lose_request : ∃ rings : Rings Nat,
    Reaches step (fun _ side => Roles side) (opened 1 1 0) rings ∧
      rings.input.accepted = [(0, [1]), (1, [2])] ∧ rings.input.writerIndex = 1 ∧
      rings.input.returned = [(0, [2])] ∧ rings.input.readers 0 = .waiting 1 ∧
      (rings.input.at_ 1).filled = false := by
  refine ⟨_, reaches_get claimTogether_runs, ?_, ?_, ?_, ?_, ?_⟩ <;> decide +kernel

end Rings
end InferenceServer.Ipc
