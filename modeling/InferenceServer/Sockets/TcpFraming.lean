import InferenceServer.Sockets.TcpTransport

/-! The polls give the messages that were sent. In every state what the receiver holds of an
unfinished frame, followed by the stream, is the frames of the messages not yet given and
the part of a frame that its call has pushed so far. However the kernel cuts the stream,
the next complete frame is therefore the next message. -/
namespace InferenceServer.Sockets

open Machine

/-- The messages that the transport takes. -/
def Sendable (data : Bytes) : Prop := data ≠ [] ∧ data.length ≤ maxMessageSizeBytes

instance (data : Bytes) : Decidable (Sendable data) := inferInstanceAs (Decidable (_ ∧ _))

def frame (data : Bytes) : Bytes := htonl data.length ++ data

variable {size : Nat} {undelivered : List Bytes} {tail more : Bytes}

@[simp] theorem length_htonl (size : Nat) : (htonl size).length = 4 := by simp [htonl]

theorem ntohl_htonl (bound : size ≤ maxMessageSizeBytes) : ntohl (htonl size) = size := by
  unfold ntohl htonl
  rw [List.foldl_reverse]
  exact foldr_littleEndian 4 size (by unfold maxMessageSizeBytes at bound; omega)

theorem frame_ne_nil (data : Bytes) : frame data ≠ [] := by
  intro empty
  simpa [frame] using congrArg List.length empty

/-- Part of a frame, not all of it. -/
def Unfinished (tail : Bytes) : Prop :=
  tail = [] ∨ ∃ data rest, Sendable data ∧ rest ≠ [] ∧ tail ++ rest = frame data

section

variable (sendable : ∀ data ∈ undelivered, Sendable data)
include sendable

section

variable (unfinished : Unfinished tail)
include unfinished

/-- What a stream of frames begins with. -/
theorem starts_with_frame {bytes : Bytes}
    (split : bytes ++ more = undelivered.flatMap frame ++ tail) (some_ : bytes ≠ []) :
    ∃ data, Sendable data ∧ ((∃ later, undelivered = data :: later ∧
          bytes ++ more = frame data ++ (later.flatMap frame ++ tail)) ∨
        undelivered = [] ∧ ∃ rest, rest ≠ [] ∧ bytes ++ more ++ rest = frame data) := by
  cases undelivered with
  | cons data later =>
    refine ⟨data, sendable data List.mem_cons_self, .inl ⟨later, rfl, ?_⟩⟩
    rw [split, List.flatMap_cons, List.append_assoc]
  | nil =>
    rw [List.flatMap_nil, List.nil_append] at split
    rcases unfinished with rfl | ⟨data, rest, ofData, missing, whole⟩
    · exact absurd (List.append_eq_nil_iff.mp split).1 some_
    · exact ⟨data, ofData, .inr ⟨rfl, rest, missing, split ▸ whole⟩⟩

/-- A complete header tells the length of the next message. -/
theorem header_of_frames {header : Bytes} (complete : header.length = 4)
    (split : header ++ more = undelivered.flatMap frame ++ tail) :
    ∃ data, Sendable data ∧ header = htonl data.length ∧
      ((∃ later, undelivered = data :: later ∧ more = data ++ (later.flatMap frame ++ tail)) ∨
        undelivered = [] ∧ ∃ rest, rest ≠ [] ∧ more ++ rest = data) := by
  have some_ : header ≠ [] := by
    rintro rfl
    cases complete
  obtain ⟨data, ofData, ⟨later, rfl, whole⟩ | ⟨rfl, rest, missing, whole⟩⟩ :=
    starts_with_frame sendable unfinished split some_
  · rw [frame, List.append_assoc] at whole
    obtain ⟨same, others⟩ := List.append_inj whole (by rw [complete, length_htonl])
    exact ⟨data, ofData, same, .inl ⟨later, rfl, others⟩⟩
  · rw [frame, List.append_assoc] at whole
    obtain ⟨same, others⟩ := List.append_inj whole (by rw [complete, length_htonl])
    exact ⟨data, ofData, same, .inr ⟨rfl, rest, missing, others⟩⟩

/-- A complete payload is the next message. -/
theorem payload_of_frames {payload : Bytes} (bound : size ≤ maxMessageSizeBytes)
    (complete : payload.length = size)
    (split : htonl size ++ payload ++ more = undelivered.flatMap frame ++ tail) :
    ∃ later, undelivered = payload :: later ∧ more = later.flatMap frame ++ tail := by
  rw [List.append_assoc] at split
  obtain ⟨data, ofData, header, whole⟩ :=
    header_of_frames sendable unfinished (length_htonl size) split
  have length : payload.length = data.length := by
    rw [complete, ← ntohl_htonl bound, header, ntohl_htonl ofData.2]
  rcases whole with ⟨later, rfl, whole⟩ | ⟨-, rest, missing, whole⟩
  · obtain ⟨rfl, others⟩ := List.append_inj whole length
    exact ⟨later, rfl, others⟩
  · have long : payload.length + more.length + rest.length = data.length := by
      rw [← whole]
      simp [Nat.add_assoc]
    have nonempty : 0 < rest.length := List.length_pos_iff.mpr missing
    omega

end

end

/-- What the call has not pushed yet. -/
def SendCall.unsent (call : SendCall) : Bytes := call.unsentHeader ++ call.unsentPayload

/-- The bytes of the sender's unfinished frame that are already pushed. -/
def Sender.Pushed (sender : Sender) (tail : Bytes) : Prop :=
  match sender.call with
  | some call =>
    Sendable call.data ∧ call.unsent ≠ [] ∧ tail ++ call.unsent = frame call.data
  | none => tail = [] ∨ sender.connected = false ∧ Unfinished tail

theorem Sender.Pushed.unfinished {sender : Sender} (pushed : sender.Pushed tail) :
    Unfinished tail := by
  unfold Sender.Pushed at pushed
  split at pushed
  · rename_i call _
    exact .inr ⟨call.data, call.unsent, pushed⟩
  · rcases pushed with empty | ⟨-, unfinished⟩
    · exact .inl empty
    · exact unfinished

/-- A loss of the connection leaves what is pushed. -/
theorem Sender.Pushed.lose {sender lost : Sender} (pushed : sender.Pushed tail)
    (same : lost.call = sender.call) (disconnected : lost.connected = false) :
    lost.Pushed tail := by
  unfold Sender.Pushed at *
  rw [same]
  split
  · rename_i call calling
    simpa only [calling] using pushed
  · rename_i calling
    simp only [calling] at pushed
    exact pushed.imp_right fun unfinished => ⟨disconnected, unfinished.2⟩

/-- What the receiver holds of the frame it is reading. -/
def ReceivePhase.held : ReceivePhase → Bytes
  | .idle => []
  | .header buffer _ => buffer
  | .payload size data buffer => htonl size ++ (data ++ buffer)

/-- The frame being read is not complete. -/
def ReceivePhase.Reading : ReceivePhase → Prop
  | .idle => True
  | .header buffer _ => buffer.length < 4
  | .payload size data buffer =>
    0 < size ∧ size ≤ maxMessageSizeBytes ∧ buffer.length < Receiver.chunk size data

theorem ReceivePhase.Reading.short {data buffer : Bytes}
    (reading : (ReceivePhase.payload size data buffer).Reading) :
    (data ++ buffer).length < size := by
  obtain ⟨-, -, short⟩ := reading
  unfold Receiver.chunk at short
  rw [List.length_append]
  omega

/-- No further bytes are read. -/
def Receiver.Detached (receiver : Receiver) : Prop :=
  receiver.connected = false ∧ receiver.phase = .idle

structure Framed (link : Link) : Prop where
  reading : link.receiver.phase.Reading
  sendable : ∀ data ∈ link.sender.sent, Sendable data
  pending : ∃ undelivered tail, link.sender.sent = link.receiver.delivered ++ undelivered ∧
    link.sender.Pushed tail ∧
    (link.receiver.Detached ∨
      link.receiver.phase.held ++ link.stream = undelivered.flatMap frame ++ tail)

/-- The steps of the two transports, with no other writer. -/
def Ours (_ : Link) : LinkEvent → Prop
  | .peerWrites _ => False
  | _ => True

@[simp] theorem delivered_finish (receiver : Receiver) (result : ReceiveResult) :
    (receiver.finish result).delivered = receiver.delivered ++
      match result with
      | .data bytes => [bytes]
      | _ => [] := by
  cases result <;> simp [Receiver.finish, Receiver.delivered]

@[simp] theorem delivered_close (receiver : Receiver) :
    receiver.close.delivered = receiver.delivered := by
  simp [Receiver.close, Receiver.finish, Receiver.delivered]

theorem framed_init : Framed {} where
  reading := trivial
  sendable _ member := absurd member List.not_mem_nil
  pending := ⟨[], [], rfl, .inl rfl, .inr rfl⟩

namespace Framed

variable {link : Link}

/-- The sender's own state does not matter to the frames beyond what it has pushed. -/
theorem withSender (framed : Framed link) {sender : Sender}
    (sent : sender.sent = link.sender.sent)
    (pushed : ∀ tail, link.sender.Pushed tail → sender.Pushed tail) :
    Framed { link with sender } where
  reading := framed.reading
  sendable := sent ▸ framed.sendable
  pending := by
    obtain ⟨undelivered, tail, split, tailPushed, stream⟩ := framed.pending
    exact ⟨undelivered, tail, sent ▸ split, pushed tail tailPushed, stream⟩

theorem sendRawData (framed : Framed link) (idle : link.sender.call = none) (data : Bytes) :
    Framed { link with sender := link.sender.sendRawData data } := by
  have kept : ∀ tail, link.sender.Pushed tail →
      ({ link.sender with passed := link.sender.passed ++ [data] } : Sender).Pushed tail :=
    fun _ => id
  unfold Sender.sendRawData
  simp only
  split
  · exact framed.withSender rfl kept
  split
  · exact framed.withSender rfl kept
  split
  · exact framed.withSender rfl kept
  rename_i connected nonempty short
  refine framed.withSender rfl fun tail pushed => ?_
  simp only [Sender.Pushed, idle] at pushed
  obtain rfl : tail = [] := by
    rcases pushed with empty | ⟨lost, -⟩
    · exact empty
    · simp [lost] at connected
  exact ⟨⟨nonempty, Nat.le_of_not_lt short⟩, frame_ne_nil data, rfl⟩

theorem giveUp (framed : Framed link) : Framed { link with sender := link.sender.giveUp } :=
  framed.withSender rfl fun _ pushed => .inr ⟨rfl, pushed.unfinished⟩

theorem took_unsent (call : SendCall) (count : Nat) :
    call.offered.take count ++ (call.took count).unsent = call.unsent := by
  unfold SendCall.offered SendCall.took SendCall.unsent
  split
  · rename_i headerSent
    simp [headerSent]
  · rw [← List.append_assoc, List.take_append_drop]

section

variable (framed : Framed link)
variable {call : SendCall} {receiver : Receiver} {stream buffer : Bytes} {count : Nat}
include framed

/-- The kernel has taken some of the frame; after the last byte the message is sent. -/
theorem push (calling : link.sender.call = some call) (count : Nat) :
    Framed { link with
      sender := link.sender.advance (call.took count)
      stream := link.stream ++ call.offered.take count } := by
  obtain ⟨undelivered, tail, split, pushed, stream⟩ := framed.pending
  simp only [Sender.Pushed, calling] at pushed
  obtain ⟨ofData, -, whole⟩ := pushed
  rw [← took_unsent call count, ← List.append_assoc] at whole
  have data : (call.took count).data = call.data := by
    unfold SendCall.took
    split <;> rfl
  have longer {undelivered : List Bytes} {tail : Bytes}
      (stream : link.receiver.Detached ∨
        link.receiver.phase.held ++ link.stream = undelivered.flatMap frame ++ tail)
      (bytes : Bytes) : link.receiver.Detached ∨
        link.receiver.phase.held ++ (link.stream ++ bytes) =
          undelivered.flatMap frame ++ (tail ++ bytes) := by
    refine stream.imp_right fun same => ?_
    rw [← List.append_assoc, same, List.append_assoc]
  unfold Sender.advance
  split_ifs with complete
  · have all : tail ++ call.offered.take count = frame call.data := by
      simpa [SendCall.unsent, complete] using whole
    refine ⟨framed.reading, ?_, undelivered ++ [call.data], [], ?_, .inl rfl, ?_⟩
    · intro message member
      rcases List.mem_append.mp member with earlier | new
      · exact framed.sendable message earlier
      · rwa [List.mem_singleton.mp new, data]
    · simp [split, data]
    · have grown := longer stream (call.offered.take count)
      rw [all] at grown
      simpa using grown
  · refine ⟨framed.reading, framed.sendable, undelivered, tail ++ call.offered.take count, split,
      ⟨?_, ?_, ?_⟩, longer stream _⟩
    · rwa [data]
    · intro empty
      exact complete (List.append_eq_nil_iff.mp empty)
    · rwa [data]

/-- The receiver's own state does not matter beyond what it holds and has given. -/
theorem withReceiver (reading : receiver.phase.Reading)
    (delivered : receiver.delivered = link.receiver.delivered)
    (held : ∀ bytes, link.receiver.Detached ∨ link.receiver.phase.held ++ link.stream = bytes →
      receiver.Detached ∨ receiver.phase.held ++ stream = bytes) :
    Framed { link with receiver, stream } where
  reading := reading
  sendable := framed.sendable
  pending := by
    obtain ⟨undelivered, tail, split, pushed, pending⟩ := framed.pending
    exact ⟨undelivered, tail, delivered ▸ split, pushed, held _ pending⟩

theorem close : Framed { link with receiver := link.receiver.close } :=
  framed.withReceiver trivial (by simp) fun _ _ => .inl ⟨rfl, rfl⟩

theorem tryReceiveMessage (idle : link.receiver.phase = .idle) :
    Framed { link with receiver := link.receiver.tryReceiveMessage } := by
  unfold Receiver.tryReceiveMessage
  split
  · rename_i connected
    refine framed.withReceiver (Nat.zero_lt_succ 3) rfl fun _ held => ?_
    rcases held with ⟨lost, -⟩ | same
    · rw [connected] at lost
      cases lost
    · rw [idle] at same
      exact .inr same
  · refine framed.withReceiver trivial (by split <;> simp) fun _ held => ?_
    rcases held with ⟨lost, -⟩ | same
    · exact .inl ⟨lost, rfl⟩
    · rw [idle] at same
      exact .inr same

/-- A poll that has read nothing leaves nothing behind. -/
theorem noData (nothing : link.receiver.phase.held = []) :
    Framed { link with receiver := link.receiver.finish .noData } := by
  refine framed.withReceiver trivial (by simp) fun _ held => ?_
  rcases held with ⟨lost, -⟩ | same
  · exact .inl ⟨lost, rfl⟩
  · rw [nothing] at same
    exact .inr same

/-- Bytes of the header have come. -/
theorem tookHeader {retries : Nat} (phase : link.receiver.phase = .header buffer retries)
    (room : count ≤ 4 - buffer.length) :
    Framed { link with
      receiver := link.receiver.tookHeader (buffer ++ link.stream.take count)
      stream := link.stream.drop count } := by
  have reading := framed.reading
  rw [phase] at reading
  have short : (buffer ++ link.stream.take count).length ≤ 4 := by
    have : buffer.length < 4 := reading
    rw [List.length_append, List.length_take]
    omega
  have attached {bytes : Bytes} (held : link.receiver.Detached ∨
      link.receiver.phase.held ++ link.stream = bytes) :
      buffer ++ link.stream.take count ++ link.stream.drop count = bytes := by
    rw [List.append_assoc, List.take_append_drop]
    rcases held with ⟨-, idle⟩ | same
    · rw [phase] at idle
      cases idle
    · rwa [phase] at same
  unfold Receiver.tookHeader
  split
  · exact framed.withReceiver ‹_› rfl fun _ held => .inr (attached held)
  split
  · exact framed.withReceiver trivial (by simp) fun _ _ => .inl ⟨rfl, rfl⟩
  · rename_i incomplete invalid
    have complete : (buffer ++ link.stream.take count).length = 4 := by omega
    obtain ⟨positive, bound⟩ := not_or.mp invalid
    obtain ⟨undelivered, tail, split, pushed, pending⟩ := framed.pending
    have sendable : ∀ data ∈ undelivered, Sendable data := fun data member =>
      framed.sendable data (split ▸ List.mem_append_right _ member)
    obtain ⟨data, ofData, header, -⟩ :=
      header_of_frames sendable pushed.unfinished complete (attached pending)
    refine framed.withReceiver ⟨Nat.pos_of_ne_zero positive, Nat.le_of_not_lt bound, ?_⟩ rfl
      fun _ held => .inr ?_
    · unfold Receiver.chunk payloadChunkBytes
      simp
      omega
    · rw [← attached held, header, ntohl_htonl ofData.2]
      simp [ReceivePhase.held]

/-- Bytes of the payload have come. -/
theorem tookPayload {size : Nat} {data : Bytes}
    (phase : link.receiver.phase = .payload size data buffer)
    (room : count ≤ Receiver.chunk size data - buffer.length) :
    Framed { link with
      receiver := link.receiver.tookPayload size data (buffer ++ link.stream.take count)
      stream := link.stream.drop count } := by
  have reading := framed.reading
  rw [phase] at reading
  obtain ⟨positive, bound, short⟩ := reading
  have room' : (buffer ++ link.stream.take count).length ≤ Receiver.chunk size data := by
    rw [List.length_append, List.length_take]
    omega
  have attached {bytes : Bytes} (held : link.receiver.Detached ∨
      link.receiver.phase.held ++ link.stream = bytes) :
      htonl size ++ (data ++ (buffer ++ link.stream.take count)) ++ link.stream.drop count =
        bytes := by
    rcases held with ⟨-, idle⟩ | same
    · rw [phase] at idle
      cases idle
    · rw [← same, phase]
      simp [ReceivePhase.held]
  generalize buffer ++ link.stream.take count = taken at room' attached ⊢
  unfold Receiver.tookPayload
  split
  · exact framed.withReceiver ⟨positive, bound, ‹_›⟩ rfl fun _ held => .inr (attached held)
  split
  · rename_i _ more
    refine framed.withReceiver ⟨positive, bound, ?_⟩ rfl fun _ held => .inr ?_
    · unfold Receiver.chunk payloadChunkBytes
      simp only [List.length_nil]
      omega
    · rw [← attached held]
      simp [ReceivePhase.held]
  · rename_i filled whole
    have complete : (data ++ taken).length = size := by
      unfold Receiver.chunk at room'
      rw [List.length_append] at whole ⊢
      omega
    obtain ⟨undelivered, tail, split, pushed, pending⟩ := framed.pending
    have sendable : ∀ data ∈ undelivered, Sendable data := fun data member =>
      framed.sendable data (split ▸ List.mem_append_right _ member)
    obtain ⟨later, rfl, rest⟩ :=
      payload_of_frames sendable pushed.unfinished bound complete (attached pending)
    refine ⟨trivial, framed.sendable, later, tail, ?_, pushed, .inr rest⟩
    rw [split, delivered_finish, List.append_assoc]
    rfl

theorem receiveExact {outcome : RecvOutcome}
    (stepped : link.receiver.receiveExact link.stream outcome = some (receiver, stream)) :
    Framed { link with receiver, stream } := by
  cases phase : link.receiver.phase with
  | idle =>
    simp only [Receiver.receiveExact, phase] at stepped
    cases stepped
  | header buffer retries =>
    simp only [Receiver.receiveExact, phase] at stepped
    have held : link.receiver.phase.held = buffer := by rw [phase]; rfl
    cases outcome with
    | gave count =>
      simp only at stepped
      split at stepped
      · cases stepped
        exact framed.tookHeader phase (by tauto)
      · cases stepped
    | wouldBlock =>
      simp only at stepped
      split at stepped
      · cases stepped
        exact framed.noData (by rwa [held])
      split at stepped
      · cases stepped
        exact framed.close
      split at stepped
      · cases stepped
        exact framed.close
      · cases stepped
        have reading := framed.reading
        rw [phase] at reading
        refine framed.withReceiver reading rfl fun _ held => ?_
        rcases held with ⟨-, idle⟩ | same
        · rw [phase] at idle
          cases idle
        · rw [phase] at same
          exact .inr same
    | hungUp =>
      cases stepped
      exact framed.close
    | budgetExpired =>
      simp only at stepped
      split at stepped
      · cases stepped
        exact framed.noData (by rwa [held])
      · cases stepped
        exact framed.close
  | payload size data buffer =>
    simp only [Receiver.receiveExact, phase] at stepped
    cases outcome with
    | gave count =>
      simp only at stepped
      split at stepped
      · cases stepped
        exact framed.tookPayload phase (by tauto)
      · cases stepped
    | wouldBlock =>
      simp only at stepped
      split at stepped
      · cases stepped
        exact framed
      · cases stepped
        exact framed.close
    | hungUp =>
      cases stepped
      exact framed.close
    | budgetExpired =>
      cases stepped
      exact framed.close

theorem send (calling : link.sender.call = some call) {outcome : SendOutcome} {sender : Sender}
    {bytes : Bytes} (stepped : link.sender.sendAll call outcome = some (sender, bytes)) :
    Framed { link with sender, stream := link.stream ++ bytes } := by
  cases outcome with
  | took count =>
    simp only [Sender.sendAll] at stepped
    split at stepped
    · cases stepped
      exact framed.push calling count
    · cases stepped
  | wouldBlock =>
    simp only [Sender.sendAll] at stepped
    cases stepped
    rw [List.append_nil]
    split
    · exact framed
    · exact framed.giveUp
  | failed =>
    cases stepped
    rw [List.append_nil]
    exact framed.giveUp
  | budgetExpired =>
    cases stepped
    rw [List.append_nil]
    exact framed.giveUp

theorem step {event : LinkEvent} {after : Link} (ours : Ours link event)
    (stepped : link.step event = some after) : Framed after := by
  cases event with
  | sendRawData data =>
    simp only [Link.step] at stepped
    split at stepped
    · rename_i idle
      cases stepped
      exact framed.sendRawData idle data
    · cases stepped
  | send outcome =>
    obtain ⟨call, calling, stepped⟩ := Option.bind_eq_some_iff.mp stepped
    obtain ⟨⟨sender, bytes⟩, sent, stepped⟩ := Option.bind_eq_some_iff.mp stepped
    cases stepped
    exact framed.send calling sent
  | tryReceiveMessage =>
    simp only [Link.step] at stepped
    split at stepped
    · rename_i idle
      cases stepped
      exact framed.tryReceiveMessage idle
    · cases stepped
  | recv outcome =>
    obtain ⟨⟨receiver, stream⟩, received, stepped⟩ := Option.bind_eq_some_iff.mp stepped
    cases stepped
    exact framed.receiveExact received
  | senderLost =>
    cases stepped
    exact framed.withSender rfl fun _ pushed => pushed.lose rfl rfl
  | senderStops =>
    cases stepped
    exact framed.withSender rfl fun _ pushed => pushed.lose rfl rfl
  | receiverLost =>
    cases stepped
    refine framed.withReceiver framed.reading rfl fun _ held => ?_
    exact held.imp_left fun detached => ⟨rfl, detached.2⟩
  | receiverStops =>
    cases stepped
    refine framed.withReceiver framed.reading rfl fun _ held => ?_
    exact held.imp_left fun detached => ⟨rfl, detached.2⟩
  | peerWrites bytes => exact ours.elim

/-- What polls have given so far are the first messages sent. -/
theorem delivered_of_sent : link.receiver.delivered <+: link.sender.sent := by
  obtain ⟨undelivered, _, split, _⟩ := framed.pending
  exact ⟨undelivered, split.symm⟩

end

end Framed

end InferenceServer.Sockets
