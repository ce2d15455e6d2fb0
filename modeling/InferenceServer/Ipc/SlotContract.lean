import InferenceServer.Ipc.PackedRing

/-! What both rings promise of their messages, and for which task ids they keep it. -/
namespace InferenceServer.Ipc.SlotCodec
open Machine Machine.ByteMemory

variable {Message : Type} {format : SlotFormat Message} {fields : Message → List Field}
  {accepts whole : Message → Prop} {received : Message → Message}

/-- No message of the calls has a task id that is cut within a character. -/
def AllWhole (whole : Message → Prop) (run : List (Call Message)) : Prop :=
  ∀ message shutdown, .write message shutdown ∈ run → whole message

/-- `plain` messages are those with a task id as the callers make them and numbers that 32 bits
hold, of which `cut` cuts the strings. -/
structure SlotContract (format : SlotFormat Message) (layout : List (Nat × Nat))
    (accepts plain whole : Message → Prop) [DecidablePred accepts]
    (cut received : Message → Message) : Prop where
  laidOut : LaidOut layout format.slotSize
  inside : ∀ buf off message place, place < off + 4 ∨ off + format.slotSize ≤ place →
    (format.pack buf off message).memory place = buf place
  readsBack : ∀ buf off message, accepts message → plain message →
    ∃ after, format.pack buf off message = .ok after ∧ format.unpack after off = some (cut message)
  rejects : ∀ buf off message, ¬ accepts message →
    ∃ stopped, format.pack buf off message = .error stopped
  unwritten : ∀ ring message shutdown,
    (PackedRing.write format ring message shutdown).2 = .unwritable →
      ∀ index, PackedRing.stateOf format (PackedRing.write format ring message shutdown).1 index =
          PackedRing.stateOf format ring index ∧
        (PackedRing.write format ring message shutdown).1.writerIndex = ring.writerIndex ∧
        (PackedRing.write format ring message shutdown).1.readerIndex = ring.readerIndex
  keeps : ∀ run, AllWhole whole run →
    (PackedRing.calls format {} run).2 =
        (queueCalls format.slots accepts (some ∘ received) [] run).2 ∧
      .unreadable ∉ (PackedRing.calls format {} run).2
  readable : ∀ message, accepts message →
    (whole message ↔ ∃ run found, .message found ∈
      (PackedRing.calls format (PackedRing.write format {} message false).1 run).2)

section Queues

variable [DecidablePred accepts] [DecidablePred whole] {slots : Nat} {pending : List Message}

/-- What is received of a message that may be cut within a character. -/
def ifWhole (whole : Message → Prop) [DecidablePred whole] (received : Message → Message)
    (message : Message) : Option Message :=
  if whole message then some (received message) else none

variable (slots accepts received)

section

variable (fine : ∀ message ∈ pending, whole message)
include fine

/-- Whole messages are never stuck. -/
theorem queueCall_whole (call : Call Message) (next : AllWhole whole [call]) :
    queueCall slots accepts (ifWhole whole received) pending call =
        queueCall slots accepts (some ∘ received) pending call ∧
      (∀ message ∈ (queueCall slots accepts (some ∘ received) pending call).1, whole message) ∧
      (queueCall slots accepts (some ∘ received) pending call).2 ≠ .unreadable := by
  cases call with
  | write message shutdown =>
    refine ⟨rfl, ?_, ?_⟩
    · rw [queueCall]
      split_ifs
      · exact fine
      · intro other member
        rcases List.mem_append.mp member with early | last
        · exact fine other early
        · rw [List.mem_singleton.mp last]
          exact next message shutdown (List.mem_singleton_self _)
      · exact fine
    · rw [queueCall]
      split_ifs <;> rintro ⟨⟩
  | read shutdown =>
    cases pending with
    | nil => exact ⟨rfl, fine, by rintro ⟨⟩⟩
    | cons message rest =>
      have here : ifWhole whole received message = some (received message) :=
        if_pos (fine message List.mem_cons_self)
      rw [queueCall, queueCall, here]
      split_ifs
      · exact ⟨rfl, fine, by rintro ⟨⟩⟩
      · exact ⟨rfl, fun other member => fine other (List.mem_cons_of_mem _ member), by rintro ⟨⟩⟩

theorem queueCalls_whole (run : List (Call Message)) (all : AllWhole whole run) :
    queueCalls slots accepts (ifWhole whole received) pending run =
        queueCalls slots accepts (some ∘ received) pending run ∧
      .unreadable ∉ (queueCalls slots accepts (some ∘ received) pending run).2 := by
  induction run generalizing pending with
  | nil => exact ⟨rfl, List.not_mem_nil⟩
  | cons call rest ih =>
    have first : AllWhole whole [call] := fun message shutdown member =>
      all message shutdown (List.mem_singleton.mp member ▸ List.mem_cons_self)
    obtain ⟨same, kept, readable⟩ :=
      queueCall_whole accepts received slots fine call first
    obtain ⟨later, others⟩ := ih kept fun message shutdown member =>
      all message shutdown (List.mem_cons_of_mem _ member)
    refine ⟨?_, ?_⟩
    · rw [queueCalls, queueCalls, same, later]
    · rw [queueCalls]
      intro member
      rcases List.mem_cons.mp member with here | there
      · exact readable here.symm
      · exact others there

end

/-- A message that cannot be received stays in front, and nothing is read any more. -/
theorem queueCalls_stuck {front : Message} (cut : ¬ whole front) (run : List (Call Message)) :
    ∀ found, .message found ∉
      (queueCalls slots accepts (ifWhole whole received) (front :: pending) run).2 := by
  induction run generalizing pending with
  | nil => exact fun _ => List.not_mem_nil
  | cons call rest ih =>
    have here : ifWhole whole received front = none := if_neg cut
    intro found
    rw [queueCalls]
    have stays : ∃ others, (queueCall slots accepts (ifWhole whole received) (front :: pending)
        call).1 = front :: others ∧ (queueCall slots accepts (ifWhole whole received)
          (front :: pending) call).2 ≠ .message found := by
      cases call with
      | write message shutdown =>
        rw [queueCall]
        split_ifs
        · exact ⟨pending, rfl, by rintro ⟨⟩⟩
        · exact ⟨pending ++ [message], rfl, by rintro ⟨⟩⟩
        · exact ⟨pending, rfl, by rintro ⟨⟩⟩
      | read shutdown =>
        rw [queueCall, here]
        split_ifs
        · exact ⟨pending, rfl, by rintro ⟨⟩⟩
        · exact ⟨pending, rfl, by rintro ⟨⟩⟩
    obtain ⟨others, front, answer⟩ := stays
    intro member
    rcases List.mem_cons.mp member with now | later
    · exact answer now.symm
    · rw [front] at later
      exact ih found later

end Queues

/-- A format that is right keeps the contract. -/
theorem contract_of_right [DecidablePred accepts] [DecidablePred whole] {layout : List (Nat × Nat)}
    {plain : Message → Prop} {cut : Message → Message}
    (right : RightFormat format fields accepts (ifWhole whole received))
    (laidOut : LaidOut layout format.slotSize)
    (plain_whole : ∀ message, plain message → whole message ∧ received message = cut message) :
    SlotContract format layout accepts plain whole cut received where
  laidOut := laidOut
  inside buf off message := pack_outside right buf off message
  readsBack buf off message fine plain := by
    obtain ⟨after, made⟩ := storeFields_ok ((right.accepted message).mp fine) buf
    obtain ⟨whole, same⟩ := plain_whole message plain
    refine ⟨after, (right.packs buf off message).trans made, ?_⟩
    rw [right.unpacks after off message (stored_of_storeFields (right.apart message) made),
      ifWhole, if_pos whole, same]
  rejects buf off message bad := by
    have missing : ∃ field ∈ fields message, field.2 = none := by
      by_contra none_
      refine bad ((right.accepted message).mpr fun field member => ?_)
      exact Option.ne_none_iff_isSome.mp fun here => none_ ⟨field, member, here⟩
    obtain ⟨stopped, made⟩ := storeFields_error missing buf
    exact ⟨stopped, (right.packs buf off message).trans made⟩
  unwritten ring message shutdown raised index := by
    have outside := pack_outside right ring.buf (PackedRing.slotOffset format ring.writerIndex)
      message
    unfold PackedRing.write at raised ⊢
    by_cases waits : shutdown = true ∨
        PackedRing.stateOf format ring ring.writerIndex ≠ SlotCodec.empty
    · rw [if_pos waits] at raised
      cases raised
    · rw [if_neg waits] at raised ⊢
      cases made : format.pack ring.buf (PackedRing.slotOffset format ring.writerIndex) message with
      | ok buf =>
        rw [made] at raised
        cases raised
      | error stopped =>
        rw [made] at outside
        refine ⟨congrArg fromLittleEndian (read_congr fun place since before => ?_), rfl, rfl⟩
        refine outside place ?_
        have word := right.word
        by_cases same : ring.writerIndex % format.slots = index % format.slots
        · have here : PackedRing.slotOffset format index =
              PackedRing.slotOffset format ring.writerIndex :=
            congrArg (· * format.slotSize) same.symm
          omega
        · have apart := slots_apart same
          omega
  keeps run all := by
    obtain ⟨same, readable⟩ := queueCalls_whole accepts received format.slots
      (List.forall_mem_nil whole) run all
    have answers := calls_follow right (holds_fresh right.positive) run
    rw [same] at answers
    exact ⟨answers, answers ▸ readable⟩
  readable message fine := by
    have written := call_follows right (holds_fresh right.positive) (.write message false)
    have queue : queueCall format.slots accepts (ifWhole whole received) [] (.write message false) =
        ([message], .written) := by
      have positive := right.positive.ne
      simp [queueCall, positive, fine]
    rw [queue] at written
    constructor
    · intro whole
      refine ⟨[.read false], received message, ?_⟩
      rw [PackedRing.call] at written
      rw [calls_follow right written.2]
      simp only [queueCalls, queueCall, ifWhole, whole, if_true, Bool.false_eq_true, if_false,
        List.mem_singleton]
    · rintro ⟨run, found, member⟩
      by_contra cut
      rw [PackedRing.call] at written
      rw [calls_follow right written.2] at member
      exact queueCalls_stuck _ _ _ cut run found member

section Rings

variable {Scale : Type}

/-- A request as the server makes them, with floats that 32 bits hold. -/
def PlainRequest (float : FloatFormat Scale) (request : VideoRequest Scale) : Prop :=
  PlainTaskId request.taskId ∧ rounded float request.guidanceScale = request.guidanceScale ∧
    rounded float request.guidanceScale2 = request.guidanceScale2

theorem input_contract (float : FloatFormat Scale) :
    SlotContract (inputFormat float) inputLayout (PackableRequest float) (PlainRequest float)
      (fun request => TaskIdWhole request.taskId) cutRequest (receivedRequest float) := by
  refine contract_of_right (input_right float) input_laidOut ?_
  rintro request ⟨plain, scale, scale2⟩
  refine ⟨plain.received.1, ?_⟩
  rw [receivedRequest, plain.received.2, scale, scale2]
  rfl

theorem output_contract : SlotContract outputFormat outputLayout PackableResponse
    (fun response => PlainTaskId response.taskId) (fun response => TaskIdWhole response.taskId)
    cutResponse receivedResponse := by
  refine contract_of_right output_right output_laidOut fun response plain => ?_
  refine ⟨plain.received.1, ?_⟩
  rw [receivedResponse, plain.received.2]
  rfl

/-- Both rings read back what was written, for task ids that are not cut within a character: a
message with another id is accepted, and then nothing more is read. -/
theorem slots_keep_messages (float : FloatFormat Scale) :
    SlotContract (inputFormat float) inputLayout (PackableRequest float) (PlainRequest float)
        (fun request => TaskIdWhole request.taskId) cutRequest (receivedRequest float) ∧
      SlotContract outputFormat outputLayout PackableResponse
        (fun response => PlainTaskId response.taskId)
        (fun response => TaskIdWhole response.taskId) cutResponse receivedResponse :=
  ⟨input_contract float, output_contract⟩

/-- The thirty-sixth byte is the first of a character of two. -/
def cutTaskId : Characters := List.replicate 35 97 ++ [0xE9]

def cutWithin : VideoResponse := ⟨cutTaskId, .success, [], []⟩

def behindIt : VideoResponse := ⟨[97], .success, [], []⟩

theorem cut_task_id_blocks :
    PackableResponse cutWithin ∧ PackableResponse behindIt ∧
      (PackedRing.calls outputFormat {} [.write cutWithin false, .read false,
        .write behindIt false, .read false, .read false]).2 =
        [.written, .unreadable, .written, .unreadable, .unreadable] ∧
      ¬ ∃ run found, .message found ∈ (PackedRing.calls outputFormat
        (PackedRing.write outputFormat {} cutWithin false).1 run).2 := by
  have accepted : PackableResponse cutWithin := by decide +kernel
  have follows := calls_follow output_right (holds_fresh output_right.positive)
  refine ⟨accepted, by decide +kernel, (follows _).trans (by decide +kernel), fun readable => ?_⟩
  have whole := (output_contract.readable cutWithin accepted).mpr readable
  exact absurd whole (by decide +kernel)

end Rings

end InferenceServer.Ipc.SlotCodec
