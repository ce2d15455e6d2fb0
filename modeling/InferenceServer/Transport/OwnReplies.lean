import InferenceServer.Transport.ControlChannel

/-! Whose replies a migration takes. A reply is told by its type and uuid alone, so one that an
earlier call has given up on can stand in for a later one. Where none is left over for the same
uuid, a call that succeeds has had the replies to its own messages; where none is left over at
all, the next call takes its own replies and succeeds if the receiver does its part. -/
namespace InferenceServer.Transport

open Machine

/-- The requests of a migration. -/
def KvControlType.isRequest : KvControlType → Bool
  | .beginMigration | .windowReady | .doneMarker => true
  | _ => false

/-- The phases in which a reply is awaited. -/
def MigratePhase.awaits : MigratePhase → Bool
  | .awaitingReady _ | .awaitingWindowAck _ _ | .awaitingAck _ _ => true
  | _ => false

/-- The start of a call, as against the steps within one. -/
def ChannelEvent.starts : ChannelEvent → Bool
  | .migrate _ _ => true
  | _ => false

/-- A call that returned `true` had each of its windows drained, and took the replies to its own
messages: the start, its windows in order and the end. -/
def CallResult.Backed (drained : List Tag) (result : CallResult) : Prop :=
  result.ok = true →
    (∀ index, 1 ≤ index → index ≤ result.windows → ⟨result.call, index⟩ ∈ drained) ∧
      result.consumed = (List.range (result.windows + 2)).map (⟨result.call, ·⟩)

/-- A request gets one reply, with its uuid; a window is acked as drained when it is. -/
theorem KvMigrationReceiver.handle_spec (receiver : KvMigrationReceiver) (ok : Table UInt64 Bool)
    (devicesOk : Bool) {msg : KvControlMessage} (request : msg.type.isRequest = true) :
    ∃ reply, (receiver.handle ok devicesOk msg).reply = some reply ∧ reply.uuid = msg.uuid ∧
      (receiver.handle ok devicesOk msg).serving = true ∧
      (reply.type = .windowAck → reply.ok = true →
        msg.type = .windowReady ∧ receiver.drainWindow devicesOk = true) := by
  unfold KvMigrationReceiver.handle
  cases typed : msg.type with
  | beginMigration => exact ⟨_, rfl, rfl, rfl, nofun⟩
  | windowReady => exact ⟨_, rfl, rfl, rfl, fun _ drained => ⟨rfl, drained⟩⟩
  | doneMarker => exact ⟨_, rfl, rfl, rfl, nofun⟩
  | tableExchange | ack | bounceReady | windowAck =>
    rw [typed] at request
    cases request

namespace ControlChannel

variable {receiver : KvMigrationReceiver} {channel after : ControlChannel}

/-- Replies on the channel or still to be made, in their order, by tag and uuid. -/
def pending (channel : ControlChannel) : List (Tag × UInt64) :=
  (channel.toSender ++ channel.toReceiver).map fun sent => (sent.tag, sent.message.uuid)

/-- The tags of the first messages of the present call. -/
def own (channel : ControlChannel) (count : Nat) : List Tag :=
  (List.range count).map (⟨channel.calls, ·⟩)

theorem own_succ (channel : ControlChannel) (count : Nat) :
    channel.own (count + 1) = channel.own count ++ [⟨channel.calls, count⟩] := by
  rw [own, List.range_succ, List.map_append]
  rfl

structure Regular (channel : ControlChannel) : Prop where
  requests : ∀ sent ∈ channel.toReceiver, sent.message.type.isRequest = true
  serving : channel.serving = true
  acked : ∀ sent ∈ channel.toSender, sent.message.type = .windowAck → sent.message.ok = true →
    sent.tag ∈ channel.drained

/-- What serving a request does: its reply joins the others and nothing at the sender moves. -/
theorem serve_spec {devicesOk : Bool} (regular : channel.Regular)
    (stepped : step receiver channel (.serve devicesOk) = some after) :
    ∃ sent rest reply drained,
      channel.toReceiver = sent :: rest ∧ reply.uuid = sent.message.uuid ∧
      (receiver.handle channel.okByUuid devicesOk sent.message).reply = some reply ∧
      (∀ tag ∈ channel.drained, tag ∈ drained) ∧
      (reply.type = .windowAck → reply.ok = true → sent.tag ∈ drained) ∧
      after = { channel with
        toReceiver := rest
        okByUuid := (receiver.handle channel.okByUuid devicesOk sent.message).ok
        drained
        toSender := channel.toSender ++ [⟨sent.tag, reply⟩] } := by
  simp only [step] at stepped
  split at stepped
  · rename_i tag message rest serving waiting
    have request := regular.requests _ (by rw [waiting]; exact List.mem_cons_self)
    obtain ⟨reply, replied, uuid, serves, honest⟩ :=
      receiver.handle_spec channel.okByUuid devicesOk request
    obtain rfl := (Option.some.inj stepped).symm
    refine ⟨⟨tag, message⟩, rest, reply,
      if message.type = .windowReady ∧ receiver.drainWindow devicesOk then
        channel.drained ++ [tag] else channel.drained, waiting, uuid, replied, ?_, ?_, ?_⟩
    · intro other member
      split
      · exact List.mem_append_left _ member
      · exact member
    · intro acked good
      rw [if_pos (honest acked good)]
      exact List.mem_append_right _ List.mem_cons_self
    · rw [replied, serves, serving]
      rfl
  · cases stepped

theorem pending_serve {devicesOk : Bool} (regular : channel.Regular)
    (stepped : step receiver channel (.serve devicesOk) = some after) :
    after.pending = channel.pending := by
  obtain ⟨sent, rest, reply, _, waiting, uuid, _, _, _, rfl⟩ := serve_spec regular stepped
  simp [pending, waiting, uuid]

/-- What the sender does with a reply: it goes on, or the call is over. -/
theorem take_cases {message : KvControlMessage} (taken : channel.take message = some after) :
    (∃ windows, channel.sender ≠ .idle ∧ after = channel.finish windows false) ∨
    (∃ uuid, channel.sender = .awaitingReady uuid ∧ message.type = .bounceReady ∧
      message.uuid = uuid ∧ after = { channel with sender := .transferring uuid 0 }) ∨
    (∃ uuid windows, channel.sender = .awaitingWindowAck uuid windows ∧
      message.type = .windowAck ∧ message.uuid = uuid ∧ message.ok = true ∧
      after = { channel with sender := .transferring uuid (windows + 1) }) ∨
    (∃ uuid windows, channel.sender = .awaitingAck uuid windows ∧ message.uuid = uuid ∧
      after = channel.finish windows true) := by
  unfold take at taken
  split at taken
  · rename_i uuid phase
    split at taken
    · exact .inl ⟨0, by rw [phase]; nofun, (Option.some.inj taken).symm⟩
    · rename_i matched
      rw [not_or, not_not, not_not] at matched
      split at taken
      · exact .inl ⟨0, by rw [phase]; nofun, (Option.some.inj taken).symm⟩
      · exact .inr (.inl ⟨uuid, phase, matched.1, matched.2, (Option.some.inj taken).symm⟩)
  · rename_i uuid windows phase
    split at taken
    · exact .inl ⟨windows, by rw [phase]; nofun, (Option.some.inj taken).symm⟩
    · rename_i matched
      rw [not_or, not_or, not_not, not_not, Bool.not_eq_false] at matched
      exact .inr (.inr (.inl ⟨uuid, windows, phase, matched.1, matched.2.1, matched.2.2,
        (Option.some.inj taken).symm⟩))
  · rename_i uuid windows phase
    split at taken
    · exact .inl ⟨windows, by rw [phase]; nofun, (Option.some.inj taken).symm⟩
    · rename_i matched
      rw [not_or, not_or, not_not, not_not] at matched
      exact .inr (.inr (.inr ⟨uuid, windows, phase, matched.2.1, (Option.some.inj taken).symm⟩))
  · cases taken

theorem migrate_spec {uuid : UInt64} {request : MigrationRequest}
    (stepped : step receiver channel (.migrate uuid request) = some after) :
    channel.sender = .idle ∧ after = { channel with
      calls := channel.calls + 1
      sender := .awaitingReady uuid
      consumed := []
      toReceiver := channel.toReceiver ++
        [⟨⟨channel.calls + 1, 0⟩, beginMessage uuid request.dstSlice⟩] } := by
  simp only [step] at stepped
  split at stepped
  · rename_i idle
    exact ⟨idle, (Option.some.inj stepped).symm⟩
  · cases stepped

theorem receive_spec (stepped : step receiver channel .receive = some after) :
    ∃ reply rest, channel.toSender = reply :: rest ∧
      { channel with
        toSender := rest, consumed := channel.consumed ++ [reply.tag] }.take reply.message =
          some after := by
  simp only [step] at stepped
  split at stepped
  · cases stepped
  · rename_i reply rest waiting
    exact ⟨reply, rest, waiting, stepped⟩

theorem giveUp_spec (stepped : step receiver channel .giveUp = some after) :
    ∃ windows, channel.sender.awaits = true ∧
      after = { channel with gaveUp := channel.gaveUp + 1 }.finish windows false := by
  simp only [step] at stepped
  split at stepped
  · rename_i phase
    exact ⟨0, by rw [phase]; rfl, (Option.some.inj stepped).symm⟩
  · rename_i windows phase
    exact ⟨windows, by rw [phase]; rfl, (Option.some.inj stepped).symm⟩
  · rename_i windows phase
    exact ⟨windows, by rw [phase]; rfl, (Option.some.inj stepped).symm⟩
  · cases stepped

theorem sink_spec {window : List BounceSectionDescriptor}
    (stepped : step receiver channel (.sink window) = some after) :
    ∃ uuid windows, channel.sender = .transferring uuid windows ∧
      after = { channel with sender := .awaitingWindowAck uuid windows }.send (windows + 1)
        { type := .windowReady, uuid, window } := by
  simp only [step] at stepped
  split at stepped
  · rename_i uuid windows phase
    exact ⟨uuid, windows, phase, (Option.some.inj stepped).symm⟩
  · cases stepped

theorem transferFails_spec (stepped : step receiver channel .transferFails = some after) :
    ∃ uuid windows, channel.sender = .transferring uuid windows ∧
      after = channel.finish windows false := by
  simp only [step] at stepped
  split at stepped
  · rename_i uuid windows phase
    exact ⟨uuid, windows, phase, (Option.some.inj stepped).symm⟩
  · cases stepped

theorem transferDone_spec (stepped : step receiver channel .transferDone = some after) :
    ∃ uuid windows, channel.sender = .transferring uuid windows ∧
      after = { channel with sender := .awaitingAck uuid windows }.send (windows + 1)
        { type := .doneMarker, uuid } := by
  simp only [step] at stepped
  split at stepped
  · rename_i uuid windows phase
    exact ⟨uuid, windows, phase, (Option.some.inj stepped).symm⟩
  · cases stepped

/-- Looking at a reply moves the sender only. -/
structure SenderOnly (channel after : ControlChannel) : Prop where
  calls : after.calls = channel.calls
  consumed : after.consumed = channel.consumed
  gaveUp : after.gaveUp = channel.gaveUp
  toReceiver : after.toReceiver = channel.toReceiver
  okByUuid : after.okByUuid = channel.okByUuid
  serving : after.serving = channel.serving
  drained : after.drained = channel.drained
  toSender : after.toSender = channel.toSender

theorem take_senderOnly {message : KvControlMessage} (taken : channel.take message = some after) :
    channel.SenderOnly after := by
  rcases take_cases taken with ⟨_, _, rfl⟩ | ⟨_, _, _, _, rfl⟩ | ⟨_, _, _, _, _, _, rfl⟩ |
    ⟨_, _, _, _, rfl⟩
  all_goals exact ⟨rfl, rfl, rfl, rfl, rfl, rfl, rfl, rfl⟩

/-- Only a sender that waits takes a reply, and then it waits no longer. -/
theorem take_awaits {message : KvControlMessage} (taken : channel.take message = some after) :
    channel.sender.awaits = true ∧ after.sender.awaits = false := by
  rcases take_cases taken with ⟨_, busy, rfl⟩ | ⟨_, phase, _, _, rfl⟩ | ⟨_, _, phase, _, _, _, rfl⟩ |
    ⟨_, _, phase, _, rfl⟩
  · refine ⟨?_, rfl⟩
    unfold take at taken
    cases phase : channel.sender with
    | idle => exact absurd phase busy
    | transferring uuid windows =>
      rw [phase] at taken
      cases taken
    | awaitingReady _ | awaitingWindowAck _ _ | awaitingAck _ _ => rfl
  all_goals
    rw [phase]
    exact ⟨rfl, rfl⟩

theorem Regular.send {index : Nat} {message : KvControlMessage} (regular : channel.Regular)
    (request : message.type.isRequest = true) : (channel.send index message).Regular where
  requests sent member := by
    rcases List.mem_append.mp member with earlier | new
    · exact regular.requests sent earlier
    · obtain rfl := List.mem_singleton.mp new
      exact request
  serving := regular.serving
  acked := regular.acked

theorem Regular.step {label : ChannelEvent} (regular : channel.Regular)
    (stepped : step receiver channel label = some after) : after.Regular := by
  cases label with
  | migrate uuid request =>
    obtain ⟨_, rfl⟩ := migrate_spec stepped
    have begun : ({ channel with
      calls := channel.calls + 1
      sender := .awaitingReady uuid
      consumed := [] } : ControlChannel).Regular :=
      ⟨regular.requests, regular.serving, regular.acked⟩
    exact @Regular.send _ 0 (beginMessage uuid request.dstSlice) begun rfl
  | receive =>
    obtain ⟨reply, rest, waiting, taken⟩ := receive_spec stepped
    have same := take_senderOnly taken
    refine ⟨?_, same.serving.trans regular.serving, ?_⟩
    · rw [same.toReceiver]
      exact regular.requests
    · rw [same.toSender, same.drained]
      intro sent member
      exact regular.acked sent (by rw [waiting]; exact List.mem_cons_of_mem _ member)
  | giveUp =>
    obtain ⟨windows, _, rfl⟩ := giveUp_spec stepped
    exact ⟨regular.requests, regular.serving, regular.acked⟩
  | sink window =>
    obtain ⟨uuid, windows, _, rfl⟩ := sink_spec stepped
    exact Regular.send ⟨regular.requests, regular.serving, regular.acked⟩ rfl
  | transferFails =>
    obtain ⟨uuid, windows, _, rfl⟩ := transferFails_spec stepped
    exact ⟨regular.requests, regular.serving, regular.acked⟩
  | transferDone =>
    obtain ⟨uuid, windows, _, rfl⟩ := transferDone_spec stepped
    exact Regular.send ⟨regular.requests, regular.serving, regular.acked⟩ rfl
  | serve devicesOk =>
    obtain ⟨sent, rest, reply, drained, waiting, _, _, kept, honest, rfl⟩ :=
      serve_spec regular stepped
    refine ⟨fun other member => regular.requests other ?_, regular.serving, ?_⟩
    · rw [waiting]
      exact List.mem_cons_of_mem _ member
    · intro other member acked good
      rcases List.mem_append.mp member with earlier | new
      · exact kept _ (regular.acked other earlier acked good)
      · obtain rfl := List.mem_singleton.mp new
        exact honest acked good

theorem pending_send (channel : ControlChannel) (index : Nat) (message : KvControlMessage) :
    (channel.send index message).pending =
      channel.pending ++ [(⟨channel.calls, index⟩, message.uuid)] := by
  simp [pending, send, ← List.append_assoc]

/-- The present call has had its own replies so far, and only its own is still to come. -/
def Alone (channel : ControlChannel) : Prop :=
  match channel.sender with
  | .idle => ∃ count, channel.consumed = channel.own count
  | .awaitingReady uuid =>
    channel.pending = [(⟨channel.calls, 0⟩, uuid)] ∧ channel.consumed = channel.own 0
  | .transferring _ windows => channel.pending = [] ∧ channel.consumed = channel.own (windows + 1)
  | .awaitingWindowAck uuid windows | .awaitingAck uuid windows =>
    channel.pending = [(⟨channel.calls, windows + 1⟩, uuid)] ∧
      channel.consumed = channel.own (windows + 1)

/-- The one reply to come is the one that is taken. -/
theorem took_pending {reply : Sent} {rest : List Sent} {tag : Tag} {uuid : UInt64}
    (waiting : channel.toSender = reply :: rest) (pending : channel.pending = [(tag, uuid)]) :
    reply.tag = tag ∧ reply.message.uuid = uuid ∧ rest = [] ∧ channel.toReceiver = [] := by
  rw [ControlChannel.pending, waiting, List.cons_append, List.map_cons] at pending
  obtain ⟨first, others⟩ := List.cons.inj pending
  have none_ := List.append_eq_nil_iff.mp (List.map_eq_nil_iff.mp others)
  exact ⟨congrArg Prod.fst first, congrArg Prod.snd first, none_⟩

section

variable (alone : channel.Alone)
include alone

/-- With one reply to come, its place among the messages of the call is the number of replies
that the call has had. -/
theorem Alone.awaits (awaits : channel.sender.awaits = true) :
    ∃ uuid count, channel.pending = [(⟨channel.calls, count⟩, uuid)] ∧
      channel.consumed = channel.own count := by
  unfold Alone at alone
  cases phase : channel.sender with
  | idle | transferring uuid windows =>
    rw [phase] at awaits
    cases awaits
  | awaitingReady uuid =>
    rw [phase] at alone
    exact ⟨uuid, 0, alone⟩
  | awaitingWindowAck uuid windows | awaitingAck uuid windows =>
    rw [phase] at alone
    exact ⟨uuid, windows + 1, alone⟩

theorem Alone.receive (stepped : step receiver channel .receive = some after) :
    after.Alone ∧ after.calls = channel.calls := by
  obtain ⟨reply, rest, waiting, taken⟩ := receive_spec stepped
  refine ⟨?_, (take_senderOnly taken).calls⟩
  have emptied : ∀ {count uuid}, channel.pending = [(⟨channel.calls, count⟩, uuid)] →
      channel.consumed = channel.own count →
      rest ++ channel.toReceiver = [] ∧
        channel.consumed ++ [reply.tag] = channel.own (count + 1) := by
    intro count uuid pending consumed
    obtain ⟨tagged, _, none_, served⟩ := took_pending waiting pending
    rw [none_, served, consumed, tagged, own_succ]
    exact ⟨rfl, rfl⟩
  rcases take_cases taken with ⟨windows, _, rfl⟩ | ⟨uuid, phase, _, _, rfl⟩ |
    ⟨uuid, windows, phase, _, _, _, rfl⟩ | ⟨uuid, windows, phase, _, rfl⟩
  · have awaits : channel.sender.awaits = true := (take_awaits taken).1
    obtain ⟨uuid, count, pending, consumed⟩ := alone.awaits awaits
    exact ⟨count + 1, (emptied pending consumed).2⟩
  · unfold Alone at alone
    rw [show channel.sender = _ from phase] at alone
    obtain ⟨empty, own⟩ := emptied alone.1 alone.2
    exact ⟨congrArg (List.map _) empty, own⟩
  · unfold Alone at alone
    rw [show channel.sender = _ from phase] at alone
    obtain ⟨empty, own⟩ := emptied alone.1 alone.2
    exact ⟨congrArg (List.map _) empty, own⟩
  · unfold Alone at alone
    rw [show channel.sender = _ from phase] at alone
    exact ⟨windows + 2, (emptied alone.1 alone.2).2⟩

theorem Alone.step {label : ChannelEvent} (regular : channel.Regular)
    (within : label.starts = false) (stepped : step receiver channel label = some after) :
    after.Alone ∧ after.calls = channel.calls := by
  cases label with
  | migrate uuid request => cases within
  | receive => exact alone.receive stepped
  | giveUp =>
    obtain ⟨windows, awaits, rfl⟩ := giveUp_spec stepped
    obtain ⟨uuid, count, _, consumed⟩ := alone.awaits awaits
    exact ⟨⟨count, consumed⟩, rfl⟩
  | sink window =>
    obtain ⟨uuid, windows, phase, rfl⟩ := sink_spec stepped
    unfold Alone at alone
    rw [phase] at alone
    refine ⟨⟨?_, alone.2⟩, rfl⟩
    rw [pending_send]
    exact congrArg (· ++ _) alone.1
  | transferFails =>
    obtain ⟨uuid, windows, phase, rfl⟩ := transferFails_spec stepped
    unfold Alone at alone
    rw [phase] at alone
    exact ⟨⟨windows + 1, alone.2⟩, rfl⟩
  | transferDone =>
    obtain ⟨uuid, windows, phase, rfl⟩ := transferDone_spec stepped
    unfold Alone at alone
    rw [phase] at alone
    refine ⟨⟨?_, alone.2⟩, rfl⟩
    rw [pending_send]
    exact congrArg (· ++ _) alone.1
  | serve devicesOk =>
    have same := pending_serve regular stepped
    obtain ⟨sent, rest, reply, drained, _, _, _, _, _, rfl⟩ := serve_spec regular stepped
    refine ⟨?_, rfl⟩
    unfold Alone at alone ⊢
    rw [same]
    exact alone

end

/-- No reply to an earlier call with the same uuid is still to come when a call starts. -/
def Unowed (channel : ControlChannel) : ChannelEvent → Prop
  | .migrate uuid _ => ∀ owed ∈ channel.pending, owed.2 ≠ uuid
  | _ => True

instance (channel : ControlChannel) : (label : ChannelEvent) → Decidable (channel.Unowed label)
  | .migrate uuid _ => inferInstanceAs (Decidable (∀ owed ∈ channel.pending, owed.2 ≠ uuid))
  | .receive | .giveUp | .sink _ | .transferFails | .transferDone | .serve _ =>
    inferInstanceAs (Decidable True)

/-- The first windows of the present call are drained. -/
def AllDrained (channel : ControlChannel) (windows : Nat) : Prop :=
  ∀ index, 1 ≤ index → index ≤ windows → ⟨channel.calls, index⟩ ∈ channel.drained

/-- Replies with another uuid may come before the first of a call; once it has that, the call is
alone on the channel. -/
def Matched (channel : ControlChannel) : Prop :=
  match channel.sender with
  | .idle => True
  | .awaitingReady uuid => channel.consumed = channel.own 0 ∧ ∃ stale,
      channel.pending = stale ++ [(⟨channel.calls, 0⟩, uuid)] ∧ ∀ earlier ∈ stale, earlier.2 ≠ uuid
  | .transferring _ windows | .awaitingWindowAck _ windows | .awaitingAck _ windows =>
    channel.Alone ∧ channel.AllDrained windows

/-- The step that matters: the reply that a call takes. -/
theorem Matched.receive (matched : channel.Matched) (regular : channel.Regular)
    (stepped : step receiver channel .receive = some after) :
    after.Matched ∧ (∃ added, after.results = channel.results ++ added ∧
      ∀ result ∈ added, result.Backed after.drained) := by
  obtain ⟨reply, rest, waiting, taken⟩ := receive_spec stepped
  unfold Matched at matched
  rcases take_cases taken with ⟨windows, _, rfl⟩ | ⟨uuid, phase, _, sameUuid, rfl⟩ |
    ⟨uuid, windows, phase, acked, _, good, rfl⟩ | ⟨uuid, windows, phase, _, rfl⟩
  · refine ⟨trivial, _, rfl, fun result member succeeded => ?_⟩
    obtain rfl := List.mem_singleton.mp member
    cases succeeded
  · rw [show channel.sender = _ from phase] at matched
    obtain ⟨consumed, stale, pending, others⟩ := matched
    -- The reply has the uuid of the call, so nothing stale came before it.
    have none_ : stale = [] := by
      cases stale with
      | nil => rfl
      | cons earlier later =>
        have front := pending
        rw [ControlChannel.pending, waiting, List.cons_append, List.map_cons,
          List.cons_append] at front
        obtain rfl := (List.cons.inj front).1
        exact absurd sameUuid (others _ List.mem_cons_self)
    subst none_
    have alone : channel.Alone := by
      unfold Alone
      rw [show channel.sender = _ from phase]
      exact ⟨pending, consumed⟩
    refine ⟨⟨(alone.receive stepped).1, ?_⟩, [], (List.append_nil _).symm, nofun⟩
    intro index low high
    omega
  · rw [show channel.sender = _ from phase] at matched
    obtain ⟨alone, drained⟩ := matched
    refine ⟨⟨(alone.receive stepped).1, ?_⟩, [], (List.append_nil _).symm, nofun⟩
    unfold Alone at alone
    rw [show channel.sender = _ from phase] at alone
    have tagged := (took_pending waiting alone.1).1
    intro index low high
    rcases Nat.lt_or_eq_of_le high with earlier | rfl
    · exact drained index low (Nat.le_of_lt_succ earlier)
    · rw [← tagged]
      exact regular.acked reply (by rw [waiting]; exact List.mem_cons_self) acked good
  · rw [show channel.sender = _ from phase] at matched
    obtain ⟨alone, drained⟩ := matched
    unfold Alone at alone
    rw [show channel.sender = _ from phase] at alone
    have tagged := (took_pending waiting alone.1).1
    refine ⟨trivial, _, rfl, fun result member _ => ?_⟩
    obtain rfl := List.mem_singleton.mp member
    refine ⟨drained, ?_⟩
    change channel.consumed ++ [reply.tag] = channel.own (windows + 2)
    rw [alone.2, tagged, ← own_succ]

theorem backed_mono {drained more : List Tag} (grows : ∀ tag ∈ drained, tag ∈ more)
    {result : CallResult} (backed : result.Backed drained) : result.Backed more := by
  intro succeeded
  obtain ⟨windows, consumed⟩ := backed succeeded
  exact ⟨fun index low high => grows _ (windows index low high), consumed⟩

theorem Matched.serve {devicesOk : Bool} (matched : channel.Matched) (regular : channel.Regular)
    (stepped : step receiver channel (.serve devicesOk) = some after) : after.Matched := by
  have same := pending_serve regular stepped
  obtain ⟨sent, rest, reply, drained, _, _, _, kept, _, shape⟩ := serve_spec regular stepped
  have sender : after.sender = channel.sender := by rw [shape]
  have calls : after.calls = channel.calls := by rw [shape]
  have consumed : after.consumed = channel.consumed := by rw [shape]
  unfold Matched at matched ⊢
  rw [sender]
  cases phase : channel.sender with
  | idle => trivial
  | awaitingReady uuid =>
    rw [phase] at matched
    simp only [own, same, calls, consumed] at matched ⊢
    exact matched
  | transferring _ windows | awaitingWindowAck _ windows | awaitingAck _ windows =>
    rw [phase] at matched
    refine ⟨(matched.1.step regular rfl stepped).1, fun index low high => ?_⟩
    rw [calls, shape]
    exact kept _ (matched.2 index low high)

structure Sound (channel : ControlChannel) : Prop where
  regular : channel.Regular
  matched : channel.Matched
  backed : ∀ result ∈ channel.results, result.Backed channel.drained

theorem Sound.initial : ({} : ControlChannel).Sound where
  regular := ⟨nofun, rfl, nofun⟩
  matched := trivial
  backed := nofun

theorem Sound.failed (sound : channel.Sound) {windows gaveUp : Nat} :
    ({ channel with gaveUp := gaveUp }.finish windows false).Sound where
  regular := ⟨sound.regular.requests, sound.regular.serving, sound.regular.acked⟩
  matched := trivial
  backed result member := by
    rcases List.mem_append.mp member with earlier | new
    · exact sound.backed result earlier
    · obtain rfl := List.mem_singleton.mp new
      exact nofun

theorem Sound.step {label : ChannelEvent} (sound : channel.Sound) (unowed : channel.Unowed label)
    (stepped : step receiver channel label = some after) : after.Sound := by
  have regular := sound.regular.step stepped
  have matched := sound.matched
  unfold Matched at matched
  cases label with
  | migrate uuid request =>
    obtain ⟨_, rfl⟩ := migrate_spec stepped
    refine ⟨regular, ⟨rfl, channel.pending, ?_, unowed⟩, sound.backed⟩
    simp only [pending, ← List.append_assoc, List.map_append, List.map_cons, List.map_nil]
    rfl
  | receive =>
    obtain ⟨matched, added, results, backed⟩ := sound.matched.receive sound.regular stepped
    refine ⟨regular, matched, fun result member => ?_⟩
    rw [results] at member
    rcases List.mem_append.mp member with earlier | new
    · obtain ⟨reply, rest, _, taken⟩ := receive_spec stepped
      rw [(take_senderOnly taken).drained]
      exact sound.backed result earlier
    · exact backed result new
  | giveUp =>
    obtain ⟨windows, _, rfl⟩ := giveUp_spec stepped
    exact sound.failed
  | sink window =>
    have alone := fun alone : channel.Alone => (alone.step sound.regular rfl stepped).1
    obtain ⟨uuid, windows, phase, rfl⟩ := sink_spec stepped
    rw [phase] at matched
    exact ⟨regular, ⟨alone matched.1, matched.2⟩, sound.backed⟩
  | transferFails =>
    obtain ⟨uuid, windows, _, rfl⟩ := transferFails_spec stepped
    exact sound.failed
  | transferDone =>
    have alone := fun alone : channel.Alone => (alone.step sound.regular rfl stepped).1
    obtain ⟨uuid, windows, phase, rfl⟩ := transferDone_spec stepped
    rw [phase] at matched
    exact ⟨regular, ⟨alone matched.1, matched.2⟩, sound.backed⟩
  | serve devicesOk =>
    have served := sound.matched.serve sound.regular stepped
    obtain ⟨sent, rest, reply, drained, _, _, _, kept, _, rfl⟩ := serve_spec sound.regular stepped
    exact ⟨regular, served, fun result member => backed_mono kept (sound.backed result member)⟩

/-- While no call starts with a reply to an earlier one with its uuid still to come, every call
that returns `true` had its windows drained and its own end acknowledged. -/
theorem success_is_own (reached : Reaches (step receiver) Unowed {} channel) :
    ∀ result ∈ channel.results, result.Backed channel.drained :=
  (reached.invariant Sound Sound.initial fun _ _ _ sound unowed stepped =>
    sound.step unowed stepped).backed

/-- A decode host with a registered buffer. -/
def decodeHost : KvMigrationReceiver where
  receiver := some ⟨true, [100], 4, 4096⟩

/-- A window of one section. -/
def oneSection : List BounceSectionDescriptor := [{ size := 64, targets := [⟨1, 4096⟩] }]

/-- A migration of one window whose replies all come in time. -/
def inTime : List ChannelEvent :=
  [.migrate 1 {}, .serve true, .receive, .sink oneSection, .serve true, .receive, .transferDone,
    .serve true, .receive]

theorem inTime_runs : (runWithin (step decodeHost) Unowed {} inTime).isSome = true := by
  decide +kernel

theorem success_is_own_inTime :
    ((runWithin (step decodeHost) Unowed {} inTime).get inTime_runs).results =
      [⟨1, true, 1, [⟨1, 0⟩, ⟨1, 1⟩, ⟨1, 2⟩]⟩] ∧
    ∀ result ∈ ((runWithin (step decodeHost) Unowed {} inTime).get inTime_runs).results,
      result.Backed ((runWithin (step decodeHost) Unowed {} inTime).get inTime_runs).drained :=
  ⟨by decide +kernel, success_is_own (reaches_get inTime_runs)⟩

/-- One migration tried five times. The first two give up on the replies to their starts; these
stand in for those of the third, whose own then serve the fourth, whose own serve the fifth. -/
def retried : List ChannelEvent :=
  [.migrate 1 {}, .giveUp, .migrate 1 {}, .giveUp, .serve true, .serve true,
    .migrate 1 {}, .receive, .sink oneSection, .receive, .serve true, .serve true,
    .migrate 1 {}, .receive, .sink oneSection, .receive, .transferDone, .giveUp,
    .serve true, .serve true, .serve true,
    .migrate 1 {}, .receive, .sink oneSection, .receive, .transferDone, .receive]

theorem retried_runs :
    (runWithin (step decodeHost) (fun _ _ => True) {} retried).isSome = true := by
  decide +kernel

/-- The fifth try returns `true` before the receiver has seen any message of it. -/
theorem success_not_own :
    ¬ ∀ (receiver : KvMigrationReceiver) (channel : ControlChannel),
      Reaches (step receiver) (fun _ _ => True) {} channel →
      ∀ result ∈ channel.results, result.Backed channel.drained := by
  intro law
  have last : (⟨5, true, 1, [⟨4, 0⟩, ⟨4, 1⟩, ⟨4, 2⟩]⟩ : CallResult) ∈
      ((runWithin (step decodeHost) (fun _ _ => True) {} retried).get retried_runs).results := by
    decide +kernel
  have backed := law decodeHost _ (reaches_get retried_runs) _ last rfl
  have undrained : (⟨5, 1⟩ : Tag) ∉
      ((runWithin (step decodeHost) (fun _ _ => True) {} retried).get retried_runs).drained := by
    decide +kernel
  exact undrained (backed.1 1 (Nat.le_refl _) (Nat.le_refl _))

end ControlChannel

end InferenceServer.Transport
