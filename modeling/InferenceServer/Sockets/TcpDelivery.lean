import InferenceServer.Sockets.TcpFraming

/-! What polls give over a whole connection. While the kernel only takes and gives bytes the
connection stays and all that was sent can be polled; a length that no sender writes closes
it and nothing is given after that. -/
namespace InferenceServer.Sockets

open Machine

/-- Having nothing to give is within the budget of retries. -/
def ReceivePhase.MayWait : ReceivePhase → Prop
  | .header buffer retries => buffer = [] ∨ retries < maxHeaderRetries
  | _ => True

instance : (phase : ReceivePhase) → Decidable phase.MayWait
  | .idle => inferInstanceAs (Decidable True)
  | .header _ _ => inferInstanceAs (Decidable (_ ∨ _))
  | .payload _ _ _ => inferInstanceAs (Decidable True)

/-- The kernel takes and gives in pieces and may have nothing to give, within the budget of
retries in the middle of a header; nothing else happens to the connection. -/
def Live (link : Link) : LinkEvent → Prop
  | .sendRawData _ => True
  | .send (.took _) => True
  | .send .wouldBlock => True
  | .tryReceiveMessage => True
  | .recv (.gave _) => True
  | .recv .wouldBlock => link.receiver.phase.MayWait
  | _ => False

instance (link : Link) : (event : LinkEvent) → Decidable (Live link event)
  | .sendRawData _ => inferInstanceAs (Decidable True)
  | .send (.took _) => inferInstanceAs (Decidable True)
  | .send .wouldBlock => inferInstanceAs (Decidable True)
  | .send .failed => inferInstanceAs (Decidable False)
  | .send .budgetExpired => inferInstanceAs (Decidable False)
  | .tryReceiveMessage => inferInstanceAs (Decidable True)
  | .recv (.gave _) => inferInstanceAs (Decidable True)
  | .recv .wouldBlock => inferInstanceAs (Decidable link.receiver.phase.MayWait)
  | .recv .hungUp => inferInstanceAs (Decidable False)
  | .recv .budgetExpired => inferInstanceAs (Decidable False)
  | .senderLost => inferInstanceAs (Decidable False)
  | .senderStops => inferInstanceAs (Decidable False)
  | .receiverLost => inferInstanceAs (Decidable False)
  | .receiverStops => inferInstanceAs (Decidable False)
  | .peerWrites _ => inferInstanceAs (Decidable False)

/-- The connection stays, and every message that the transport takes is sent or being sent. -/
structure Sender.Whole (sender : Sender) : Prop where
  connected : sender.connected = true
  running : sender.running = true
  taken : sender.passed.filter (Sendable ·) =
    sender.sent ++ (sender.call.map SendCall.data).toList

structure Receiver.Open (receiver : Receiver) : Prop where
  connected : receiver.connected = true
  running : receiver.running = true
  neverClosed : .closed ∉ receiver.results

variable {sender : Sender} {receiver : Receiver} {link : Link}

theorem Sender.Whole.sendRawData (whole : sender.Whole) (idle : sender.call = none) (data : Bytes) :
    (sender.sendRawData data).Whole := by
  have taken := whole.taken
  rw [idle] at taken
  have refused (not_sendable : ¬Sendable data) :
      ({ sender with passed := sender.passed ++ [data] } : Sender).Whole := by
    refine ⟨whole.connected, whole.running, ?_⟩
    simpa [idle, not_sendable] using taken
  unfold Sender.sendRawData
  simp only
  rw [if_neg (by simp [whole.connected])]
  split
  · rename_i empty
    exact refused fun sendable => sendable.1 empty
  split
  · rename_i long
    exact refused fun sendable => Nat.not_lt.mpr sendable.2 long
  · rename_i nonempty short
    have sendable : Sendable data := ⟨nonempty, Nat.le_of_not_lt short⟩
    refine ⟨whole.connected, whole.running, ?_⟩
    simpa [sendable] using taken

theorem Sender.Whole.advance (whole : sender.Whole) {call : SendCall}
    (calling : sender.call = some call) (count : Nat) :
    (sender.advance (call.took count)).Whole := by
  have taken := whole.taken
  rw [calling] at taken
  have data : (call.took count).data = call.data := by
    unfold SendCall.took
    split <;> rfl
  unfold Sender.advance
  split_ifs
  · exact ⟨whole.connected, whole.running, by simpa [data] using taken⟩
  · exact ⟨whole.connected, whole.running, by simpa [data] using taken⟩

theorem Receiver.Open.finish (open_ : receiver.Open) {result : ReceiveResult}
    (given : result ≠ .closed) : (receiver.finish result).Open := by
  refine ⟨open_.connected, open_.running, fun member => ?_⟩
  rcases List.mem_append.mp member with earlier | new
  · exact open_.neverClosed earlier
  · exact given (List.mem_singleton.mp new).symm

/-- A receiver in the middle of a frame is at the frames not yet given. -/
theorem Framed.attached (framed : Framed link) (busy : link.receiver.phase ≠ .idle) :
    ∃ (undelivered : List Bytes) (tail : Bytes),
      link.sender.Pushed tail ∧ (∀ data ∈ undelivered, Sendable data) ∧
        link.receiver.phase.held ++ link.stream = undelivered.flatMap frame ++ tail := by
  obtain ⟨undelivered, tail, split, pushed, ⟨-, idle⟩ | same⟩ := framed.pending
  · exact absurd idle busy
  · exact ⟨undelivered, tail, pushed, fun data member =>
      framed.sendable data (split ▸ List.mem_append_right _ member), same⟩

/-- The steps of a live connection keep it: a header is never refused. -/
theorem Receiver.Open.receiveExact (open_ : link.receiver.Open) (framed : Framed link)
    {outcome : RecvOutcome} (live : Live link (.recv outcome)) {stream : Bytes}
    (stepped : link.receiver.receiveExact link.stream outcome = some (receiver, stream)) :
    receiver.Open := by
  have opened (phase : ReceivePhase) : ({ link.receiver with phase } : Receiver).Open :=
    ⟨open_.connected, open_.running, open_.neverClosed⟩
  have reading := framed.reading
  cases phase : link.receiver.phase with
  | idle =>
    simp only [Receiver.receiveExact, phase] at stepped
    cases stepped
  | header buffer retries =>
    rw [phase] at reading
    simp only [Receiver.receiveExact, phase] at stepped
    cases outcome with
    | gave count =>
      simp only at stepped
      split at stepped
      · rename_i room
        cases stepped
        obtain ⟨undelivered, tail, pushed, sendable, same⟩ :=
          framed.attached (by simp [phase])
        rw [phase, ← List.take_append_drop count link.stream, ← List.append_assoc] at same
        have short : (buffer ++ link.stream.take count).length ≤ 4 := by
          rw [List.length_append, List.length_take]
          have : buffer.length < 4 := reading
          omega
        unfold Receiver.tookHeader
        split
        · exact opened _
        rename_i incomplete
        have complete : (buffer ++ link.stream.take count).length = 4 := by omega
        obtain ⟨data, ofData, header, -⟩ :=
          header_of_frames sendable pushed.unfinished complete same
        have valid : ¬(ntohl (buffer ++ link.stream.take count) = 0 ∨
            ntohl (buffer ++ link.stream.take count) > maxMessageSizeBytes) := by
          rw [header, ntohl_htonl ofData.2]
          have positive := List.length_pos_iff.mpr ofData.1
          have bound := ofData.2
          omega
        rw [if_neg valid]
        exact opened _
      · cases stepped
    | wouldBlock =>
      simp only [Live, phase, ReceivePhase.MayWait] at live
      simp only at stepped
      split at stepped
      · cases stepped
        exact open_.finish (by simp)
      · rename_i some_
        have budget : ¬retries + 1 > maxHeaderRetries :=
          Nat.not_lt.mpr (live.resolve_left some_)
        rw [if_neg (by simp [open_.running]), if_neg budget] at stepped
        cases stepped
        exact opened _
    | hungUp => exact live.elim
    | budgetExpired => exact live.elim
  | payload size data buffer =>
    simp only [Receiver.receiveExact, phase] at stepped
    cases outcome with
    | gave count =>
      simp only at stepped
      split at stepped
      · cases stepped
        unfold Receiver.tookPayload
        split_ifs
        · exact opened _
        · exact opened _
        · exact open_.finish (by simp)
      · cases stepped
    | wouldBlock =>
      simp only [open_.running, if_true] at stepped
      cases stepped
      exact open_
    | hungUp => exact live.elim
    | budgetExpired => exact live.elim

structure Kept (link : Link) : Prop where
  framed : Framed link
  whole : link.sender.Whole
  open_ : link.receiver.Open

theorem kept_init : Kept {} where
  framed := framed_init
  whole := ⟨rfl, rfl, rfl⟩
  open_ := ⟨rfl, rfl, List.not_mem_nil⟩

theorem ours_of_live {event : LinkEvent} (live : Live link event) : Ours link event := by
  cases event with
  | peerWrites bytes => exact live.elim
  | _ => trivial

namespace Kept

variable {link : Link}

section

variable (kept : Kept link)
include kept

theorem step {event : LinkEvent} {after : Link} (live : Live link event)
    (stepped : link.step event = some after) : Kept after := by
  have framed := kept.framed.step (ours_of_live live) stepped
  cases event with
  | sendRawData data =>
    simp only [Link.step] at stepped
    split at stepped
    · rename_i idle
      cases stepped
      exact ⟨framed, kept.whole.sendRawData idle data, kept.open_⟩
    · cases stepped
  | send outcome =>
    obtain ⟨call, calling, stepped⟩ := Option.bind_eq_some_iff.mp stepped
    obtain ⟨⟨sender, bytes⟩, sent, stepped⟩ := Option.bind_eq_some_iff.mp stepped
    cases stepped
    refine ⟨framed, ?_, kept.open_⟩
    cases outcome with
    | took count =>
      simp only [Sender.sendAll] at sent
      split at sent
      · cases sent
        exact kept.whole.advance calling count
      · cases sent
    | wouldBlock =>
      simp only [Sender.sendAll, kept.whole.running, if_true] at sent
      cases sent
      exact kept.whole
    | failed => exact live.elim
    | budgetExpired => exact live.elim
  | tryReceiveMessage =>
    simp only [Link.step] at stepped
    split at stepped
    · cases stepped
      refine ⟨framed, kept.whole, ?_⟩
      simp only [Receiver.tryReceiveMessage, kept.open_.connected, if_true]
      exact ⟨rfl, kept.open_.running, kept.open_.neverClosed⟩
    · cases stepped
  | recv outcome =>
    obtain ⟨⟨receiver, stream⟩, received, stepped⟩ := Option.bind_eq_some_iff.mp stepped
    cases stepped
    exact ⟨framed, kept.whole, kept.open_.receiveExact kept.framed live received⟩
  | senderLost => exact live.elim
  | senderStops => exact live.elim
  | receiverLost => exact live.elim
  | receiverStops => exact live.elim
  | peerWrites bytes => exact live.elim

theorem run {later : Link} (reached : Reaches Link.step Live link later) : Kept later :=
  reached.invariant Kept kept fun _ _ _ kept live stepped => kept.step live stepped

/-- With nothing on its way, all that the transport took is given. -/
theorem drained (idle : link.sender.call = none) (empty : link.stream = [])
    (polled : link.receiver.phase = .idle) :
    link.receiver.delivered = link.sender.passed.filter (Sendable ·) := by
  obtain ⟨undelivered, tail, split, pushed, held⟩ := kept.framed.pending
  have taken := kept.whole.taken
  rw [idle, Option.map_none, Option.toList_none, List.append_nil] at taken
  rcases held with ⟨lost, -⟩ | same
  · rw [kept.open_.connected] at lost
    cases lost
  · rw [polled, empty] at same
    cases undelivered with
    | nil => rw [taken, split, List.append_nil]
    | cons data later =>
      have none_ := (List.append_eq_nil_iff.mp same.symm).1
      rw [List.flatMap_cons] at none_
      exact absurd (List.append_eq_nil_iff.mp none_).1 (frame_ne_nil data)

/-- A poll in the middle of a frame finds the rest of it on the stream, unless it has just
begun. -/
theorem begun_of_empty (idle : link.sender.call = none) (busy : link.receiver.phase ≠ .idle)
    (empty : link.stream = []) : ∃ retries, link.receiver.phase = .header [] retries := by
  obtain ⟨undelivered, tail, pushed, sendable, same⟩ := kept.framed.attached busy
  have reading := kept.framed.reading
  obtain rfl : tail = [] := by
    simp only [Sender.Pushed, idle] at pushed
    rcases pushed with none_ | ⟨lost, -⟩
    · exact none_
    · rw [kept.whole.connected] at lost
      cases lost
  rw [empty, List.append_nil, List.append_nil] at same
  cases phase : link.receiver.phase with
  | idle => exact absurd phase busy
  | header buffer retries =>
    rw [phase] at same reading
    cases undelivered with
    | nil => exact ⟨retries, by rw [show buffer = [] from same]⟩
    | cons data later =>
      have long := congrArg List.length same
      have short : buffer.length < 4 := reading
      simp only [ReceivePhase.held, List.flatMap_cons, frame, List.length_append,
        length_htonl] at long
      omega
  | payload size data buffer =>
    rw [phase] at same reading
    have short := reading.short
    obtain ⟨-, bound, -⟩ := reading
    cases undelivered with
    | nil => simpa [ReceivePhase.held] using congrArg List.length same
    | cons message later =>
      simp only [ReceivePhase.held, List.flatMap_cons, frame, List.append_assoc] at same
      obtain ⟨header, whole⟩ := List.append_inj same (by simp)
      have sizes : size = message.length := by
        rw [← ntohl_htonl bound, header, ntohl_htonl (sendable _ List.mem_cons_self).2]
      have long := congrArg List.length whole
      simp only [List.length_append] at long short
      omega

/-- A poll that has just begun ends without a message when there is nothing to read. -/
theorem gives_up (idle : link.sender.call = none) (busy : link.receiver.phase ≠ .idle)
    (empty : link.stream = []) :
    ∃ later, Reaches Link.step Live link later ∧ later.sender = link.sender ∧
      later.stream = [] ∧ later.receiver.phase = .idle := by
  obtain ⟨retries, begun⟩ := kept.begun_of_empty idle busy empty
  refine ⟨{ link with receiver := link.receiver.finish .noData },
    .tail .refl (?_ : Live link (.recv .wouldBlock)) ?_, rfl, empty, rfl⟩
  · simp [Live, begun, ReceivePhase.MayWait]
  · simp [Link.step, Receiver.receiveExact, begun]

/-- While bytes are there a poll that is under way can be given some. -/
theorem receiveExact_gave (busy : link.receiver.phase ≠ .idle) (some_ : link.stream ≠ []) :
    ∃ receiver,
      link.receiver.receiveExact link.stream (.gave 1) = some (receiver, link.stream.drop 1) := by
  have reading := kept.framed.reading
  have available : 1 ≤ link.stream.length := List.length_pos_iff.mpr some_
  cases phase : link.receiver.phase with
  | idle => exact absurd phase busy
  | header buffer retries =>
    rw [phase] at reading
    have room : 1 ≤ 4 - buffer.length := Nat.sub_pos_of_lt reading
    simp only [Receiver.receiveExact, phase]
    exact ⟨_, if_pos ⟨Nat.one_pos, room, available⟩⟩
  | payload size data buffer =>
    rw [phase] at reading
    have room : 1 ≤ Receiver.chunk size data - buffer.length := Nat.sub_pos_of_lt reading.2.2
    simp only [Receiver.receiveExact, phase]
    exact ⟨_, if_pos ⟨Nat.one_pos, room, available⟩⟩

end

/-- Polls alone can bring everything that is on its way. By induction on the bytes left, a
poll that begins counting as one more half. -/
theorem drains : ∀ (size : Nat) (link : Link), Kept link → link.sender.call = none →
    2 * link.stream.length + (if link.receiver.phase = .idle then 1 else 0) ≤ size →
    ∃ later, Reaches Link.step Live link later ∧ later.sender = link.sender ∧
      later.stream = [] ∧ later.receiver.phase = .idle := by
  intro size
  induction size with
  | zero =>
    intro link kept idle bound
    have empty : link.stream = [] := List.length_eq_zero_iff.mp (by omega)
    have busy : link.receiver.phase ≠ .idle := by
      intro polled
      rw [if_pos polled] at bound
      omega
    exact kept.gives_up idle busy empty
  | succ size ih =>
    intro link kept idle bound
    by_cases empty : link.stream = []
    · by_cases polled : link.receiver.phase = .idle
      · exact ⟨link, .refl, rfl, empty, polled⟩
      · exact kept.gives_up idle polled empty
    · have advance (event : LinkEvent) (next : Link) (live : Live link event)
          (stepped : link.step event = some next) (sender : next.sender = link.sender)
          (fewer : 2 * next.stream.length + (if next.receiver.phase = .idle then 1 else 0) ≤
            size) : ∃ later, Reaches Link.step Live link later ∧ later.sender = link.sender ∧
              later.stream = [] ∧ later.receiver.phase = .idle := by
        obtain ⟨later, reached, kept_, drained⟩ :=
          ih next (kept.step live stepped) (by rwa [sender]) fewer
        exact ⟨later, .trans (.tail .refl live stepped) reached, kept_.trans sender, drained⟩
      by_cases polled : link.receiver.phase = .idle
      · refine advance .tryReceiveMessage
          { link with receiver := link.receiver.tryReceiveMessage } trivial
          (if_pos polled) rfl ?_
        rw [if_pos polled] at bound
        simpa [Receiver.tryReceiveMessage, kept.open_.connected] using bound
      · obtain ⟨receiver, gave⟩ := kept.receiveExact_gave polled empty
        have available := List.length_pos_iff.mpr empty
        refine advance (.recv (.gave 1)) { link with receiver, stream := link.stream.drop 1 }
          trivial (by simp [Link.step, gave]) rfl ?_
        simp only [List.length_drop]
        split <;> omega

end Kept

/-- A length that is never sent: none, or above the cap. -/
def Refused (netSize : Bytes) : Prop :=
  netSize.length = 4 ∧ (ntohl netSize = 0 ∨ ntohl netSize > maxMessageSizeBytes)

/-- The length is not read through. -/
def Unread (netSize : Bytes) (link : Link) : Prop :=
  (∃ rest, link.receiver.phase.held ++ link.stream = netSize ++ rest) ∧
    (link.receiver.phase = .idle ∨
      ∃ buffer retries, link.receiver.phase = .header buffer retries ∧ buffer.length < 4)

/-- Since some results no message was given, and the connection is closed as soon as the
length is read. -/
def Poisoned (netSize : Bytes) (results : List ReceiveResult) (link : Link) : Prop :=
  ∃ later, link.receiver.results = results ++ later ∧ (∀ bytes, .data bytes ∉ later) ∧
    (Unread netSize link ∨ link.receiver.Detached ∧ .closed ∈ later)

namespace Poisoned

variable {netSize : Bytes} {results : List ReceiveResult} {link : Link}

section

variable (poisoned : Poisoned netSize results link)
include poisoned

/-- More bytes at the end of the stream. -/
theorem grow (sender : Sender) (bytes : Bytes) :
    Poisoned netSize results { link with sender, stream := link.stream ++ bytes } := by
  obtain ⟨later, same, noData, ⟨⟨rest, split⟩, phase⟩ | closed⟩ := poisoned
  · refine ⟨later, same, noData, .inl ⟨⟨rest ++ bytes, ?_⟩, phase⟩⟩
    rw [← List.append_assoc, split, List.append_assoc]
  · exact ⟨later, same, noData, .inr closed⟩

/-- A poll that gives no message. -/
theorem finish {result : ReceiveResult} (given : ∀ bytes, result ≠ .data bytes)
    (nothing : link.receiver.phase.held = []) :
    Poisoned netSize results { link with receiver := link.receiver.finish result } := by
  obtain ⟨later, same, noData, state⟩ := poisoned
  refine ⟨later ++ [result], ?_, fun bytes member => ?_, ?_⟩
  · simp [Receiver.finish, same]
  · rcases List.mem_append.mp member with earlier | new
    · exact noData bytes earlier
    · exact given bytes (List.mem_singleton.mp new).symm
  · rcases state with ⟨⟨rest, split⟩, -⟩ | ⟨⟨lost, -⟩, closed⟩
    · rw [nothing] at split
      exact .inl ⟨⟨rest, split⟩, .inl rfl⟩
    · exact .inr ⟨⟨lost, rfl⟩, List.mem_append_left _ closed⟩

theorem close (stream : Bytes) :
    Poisoned netSize results { link with receiver := link.receiver.close, stream } := by
  obtain ⟨later, same, noData, -⟩ := poisoned
  refine ⟨later ++ [.closed], ?_, fun bytes member => ?_, .inr ⟨⟨rfl, rfl⟩, by simp⟩⟩
  · simp [Receiver.close, Receiver.finish, same]
  · rcases List.mem_append.mp member with earlier | new
    · exact noData bytes earlier
    · cases List.mem_singleton.mp new

theorem tryReceiveMessage (idle : link.receiver.phase = .idle) :
    Poisoned netSize results
      { link with receiver := link.receiver.tryReceiveMessage } := by
  unfold Receiver.tryReceiveMessage
  split
  · rename_i connected
    obtain ⟨later, same, noData, ⟨⟨rest, split⟩, -⟩ | ⟨⟨lost, -⟩, -⟩⟩ := poisoned
    · rw [idle] at split
      exact ⟨later, same, noData,
        .inl ⟨⟨rest, split⟩, .inr ⟨[], 0, rfl, Nat.zero_lt_succ 3⟩⟩⟩
    · rw [connected] at lost
      cases lost
  · refine poisoned.finish (fun bytes => ?_) (by rw [idle]; rfl)
    split <;> simp

theorem receiveExact (refused : Refused netSize) {outcome : RecvOutcome} {receiver : Receiver}
    {stream : Bytes}
    (stepped : link.receiver.receiveExact link.stream outcome = some (receiver, stream)) :
    Poisoned netSize results { link with receiver, stream } := by
  have whole := poisoned
  obtain ⟨later, same, noData, ⟨⟨rest, split⟩, idle | ⟨buffer, retries, phase, short⟩⟩ |
    ⟨⟨-, idle⟩, -⟩⟩ := poisoned
  · simp [Receiver.receiveExact, idle] at stepped
  · rw [phase] at split
    have held : link.receiver.phase.held = buffer := by rw [phase]; rfl
    have unread (receiver : Receiver) (buffer : Bytes) (retries : Nat) (stream : Bytes)
        (given : receiver.results = link.receiver.results)
        (phase : receiver.phase = .header buffer retries) (short : buffer.length < 4)
        (split : buffer ++ stream = netSize ++ rest) :
        Poisoned netSize results { link with receiver, stream } := by
      refine ⟨later, given.trans same, noData,
        .inl ⟨⟨rest, ?_⟩, .inr ⟨buffer, retries, phase, short⟩⟩⟩
      rw [phase]
      exact split
    simp only [Receiver.receiveExact, phase] at stepped
    cases outcome with
    | gave count =>
      simp only at stepped
      split at stepped
      · rename_i room
        cases stepped
        simp only [ReceivePhase.held] at split
        rw [← List.take_append_drop count link.stream, ← List.append_assoc] at split
        unfold Receiver.tookHeader
        split
        · exact unread _ _ 0 _ rfl rfl ‹_› split
        · rename_i long
          have complete : (buffer ++ link.stream.take count).length = netSize.length := by
            rw [refused.1]
            rw [List.length_append, List.length_take] at long ⊢
            omega
          obtain ⟨header, -⟩ := List.append_inj split complete
          rw [header, if_pos refused.2]
          exact whole.close _
      · cases stepped
    | wouldBlock =>
      simp only at stepped
      split at stepped
      · cases stepped
        exact whole.finish (fun _ => by simp) (by rwa [held])
      split at stepped
      · cases stepped
        exact whole.close _
      split at stepped
      · cases stepped
        exact whole.close _
      · cases stepped
        exact unread _ buffer (retries + 1) _ rfl rfl short split
    | hungUp =>
      cases stepped
      exact whole.close _
    | budgetExpired =>
      simp only at stepped
      split at stepped
      · cases stepped
        exact whole.finish (fun _ => by simp) (by rwa [held])
      · cases stepped
        exact whole.close _
  · simp [Receiver.receiveExact, idle] at stepped

theorem lose {receiver : Receiver} (given : receiver.results = link.receiver.results)
    (phase : receiver.phase = link.receiver.phase) (lost : receiver.connected = false) :
    Poisoned netSize results { link with receiver } := by
  obtain ⟨later, same, noData, state⟩ := poisoned
  refine ⟨later, given.trans same, noData, ?_⟩
  rcases state with unread | ⟨⟨-, idle⟩, closed⟩
  · exact .inl (by simpa only [Unread, phase] using unread)
  · exact .inr ⟨⟨lost, phase.trans idle⟩, closed⟩

theorem step (refused : Refused netSize) {event : LinkEvent} {after : Link}
    (stepped : link.step event = some after) : Poisoned netSize results after := by
  have sender (sender : Sender) : Poisoned netSize results { link with sender } := by
    have grown := poisoned.grow sender []
    rwa [List.append_nil] at grown
  cases event with
  | sendRawData data =>
    simp only [Link.step] at stepped
    split at stepped
    · cases stepped
      exact sender _
    · cases stepped
  | send outcome =>
    obtain ⟨call, -, stepped⟩ := Option.bind_eq_some_iff.mp stepped
    obtain ⟨⟨sender, bytes⟩, -, stepped⟩ := Option.bind_eq_some_iff.mp stepped
    cases stepped
    exact poisoned.grow sender bytes
  | tryReceiveMessage =>
    simp only [Link.step] at stepped
    split at stepped
    · rename_i idle
      cases stepped
      exact poisoned.tryReceiveMessage idle
    · cases stepped
  | recv outcome =>
    obtain ⟨⟨receiver, stream⟩, received, stepped⟩ := Option.bind_eq_some_iff.mp stepped
    cases stepped
    exact poisoned.receiveExact refused received
  | senderLost =>
    cases stepped
    exact sender _
  | senderStops =>
    cases stepped
    exact sender _
  | receiverLost =>
    cases stepped
    exact poisoned.lose rfl rfl rfl
  | receiverStops =>
    cases stepped
    exact poisoned.lose rfl rfl rfl
  | peerWrites bytes =>
    cases stepped
    exact poisoned.grow link.sender bytes

theorem run {later : Link} (refused : Refused netSize)
    (reached : Reaches Link.step (fun _ _ => True) link later) : Poisoned netSize results later :=
  reached.invariant (Poisoned netSize results) poisoned
    fun _ _ _ poisoned _ stepped => poisoned.step refused stepped

end

end Poisoned

/-- The polls give exactly the messages sent, in their order: a beginning of them however
the connection ends, and all of them on a connection that lives, whatever the kernel takes
and gives at once. After a length of zero or above the cap they give none, and the poll
that reads it closes the connection. -/
theorem frames_delivered :
    (∀ link, Reaches Link.step Ours {} link →
      link.receiver.delivered <+: link.sender.sent) ∧
    (∀ link, Reaches Link.step Live {} link →
      .closed ∉ link.receiver.results ∧
      link.receiver.delivered <+: link.sender.passed.filter (Sendable ·) ∧
      (link.sender.call = none → link.stream = [] → link.receiver.phase = .idle →
        link.receiver.delivered = link.sender.passed.filter (Sendable ·)) ∧
      (link.sender.call = none → ∃ later, Reaches Link.step Live link later ∧
        later.receiver.delivered = link.sender.passed.filter (Sendable ·))) ∧
    (∀ start link netSize rest, start.receiver.phase = .idle → start.stream = netSize ++ rest →
      Refused netSize → Reaches Link.step (fun _ _ => True) start link →
      Poisoned netSize start.receiver.results link) := by
  refine ⟨fun link reached => ?_, fun link reached => ?_, ?_⟩
  · exact (reached.invariant Framed framed_init
      fun _ _ _ framed ours stepped => framed.step ours stepped).delivered_of_sent
  · have kept := kept_init.run reached
    refine ⟨kept.open_.neverClosed, ?_, kept.drained, fun idle => ?_⟩
    · rw [kept.whole.taken]
      exact kept.framed.delivered_of_sent.trans (List.prefix_append _ _)
    · obtain ⟨later, further, same, empty, polled⟩ := Kept.drains _ link kept idle le_rfl
      refine ⟨later, further, ?_⟩
      rw [← same]
      exact (kept.run further).drained (by rwa [same]) empty polled
  · intro start link netSize rest idle split refused reached
    have poisoned : Poisoned netSize start.receiver.results start :=
      ⟨[], (List.append_nil _).symm, fun _ => List.not_mem_nil,
        .inl ⟨⟨rest, by rw [idle]; exact split⟩, .inl idle⟩⟩
    exact poisoned.run refused reached

/-- A message that arrives in pieces, its header in two and its payload byte by byte. -/
def inPieces : List LinkEvent :=
  [.sendRawData [1, 2], .send (.took 3), .tryReceiveMessage, .recv (.gave 3),
    .recv .wouldBlock, .send .wouldBlock, .send (.took 1), .recv (.gave 1), .send (.took 2),
    .recv (.gave 1), .recv .wouldBlock, .recv (.gave 1)]

theorem inPieces_isSome : (runWithin Link.step Live {} inPieces).isSome := by decide +kernel

theorem frames_delivered_inPieces :
    ((runWithin Link.step Live {} inPieces).get inPieces_isSome).receiver.delivered = [[1, 2]] ∧
      .closed ∉ ((runWithin Link.step Live {} inPieces).get inPieces_isSome).receiver.results :=
  ⟨by decide +kernel, (frames_delivered.2.1 _ (reaches_get inPieces_isSome)).1⟩

end InferenceServer.Sockets
