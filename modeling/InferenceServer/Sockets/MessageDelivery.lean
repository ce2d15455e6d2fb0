import InferenceServer.Sockets.TcpDelivery
import InferenceServer.Sockets.Messages
import Mathlib.Data.List.Forall2

/-! Messages of the protocol over a connection: serialized, framed, polled and read. -/
namespace InferenceServer.Sockets
open Machine

section Protocol

variable {ar : BinaryArchive} {link : Link} {messages : List (ByteString × Message)}

/-- A message under its tag, as it is sent. -/
def wire (ar : BinaryArchive) (message : ByteString × Message) : Bytes :=
  serializeMessage ar message.1 message.2

/-- What is polled is read as the message that was sent. -/
def Arrives (ar : BinaryArchive) (data : Bytes) (message : ByteString × Message) : Prop :=
  readMessageType ar data = some message.1 ∧
    deserializePayload ar message.2.type data = some message.2.received

theorem arrives_wire (messages : List (ByteString × Message)) :
    List.Forall₂ (Arrives ar) (messages.map (wire ar)) messages :=
  List.forall₂_map_left_iff.mpr (List.forall₂_same.mpr fun message _ =>
    ⟨readMessageType_serializeMessage ar message.1 message.2,
      deserializePayload_serializeMessage ar message.1 message.2⟩)

/-- On a live connection the polls give the messages of the protocol that fit a frame, in order and
each under its tag, and all of them can be polled. -/
theorem messages_arrive (reached : Reaches Link.step Live {} link)
    (passed : link.sender.passed = messages.map (wire ar)) :
    (∃ arrived, arrived <+: messages.filter (Sendable <| wire ar ·) ∧
      List.Forall₂ (Arrives ar) link.receiver.delivered arrived) ∧
    (link.sender.call = none → ∃ later, Reaches Link.step Live link later ∧
      List.Forall₂ (Arrives ar) later.receiver.delivered
        (messages.filter (Sendable <| wire ar ·))) := by
  have kept := kept_init.run reached
  have taken : link.sender.passed.filter (Sendable ·) =
      (messages.filter (Sendable <| wire ar ·)).map (wire ar) := by
    rw [passed]
    exact List.filter_map
  refine ⟨⟨_, List.take_prefix link.receiver.delivered.length _, ?_⟩, fun idle => ?_⟩
  · have first : link.receiver.delivered <+: link.sender.passed.filter (Sendable ·) := by
      rw [kept.whole.taken]
      exact kept.framed.delivered_of_sent.trans (List.prefix_append _ _)
    rw [taken, List.prefix_iff_eq_take, ← List.map_take] at first
    have arrived := @arrives_wire ar
      ((messages.filter (Sendable <| wire ar ·)).take link.receiver.delivered.length)
    rwa [← first] at arrived
  · obtain ⟨later, further, same, empty, polled⟩ := Kept.drains _ link kept idle le_rfl
    refine ⟨later, further, ?_⟩
    rw [(kept.run further).drained (by rwa [same]) empty polled, same, taken]
    exact arrives_wire _

/-- A probe that is sent whole. -/
def probeSent : List LinkEvent :=
  [.sendRawData (wire .host (.empty, .registrationProbe {})), .send (.took 4), .send (.took 8)]

theorem probeSent_isSome : (runWithin Link.step Live {} probeSent).isSome := by decide +kernel

theorem messages_arrive_probe :
    ∃ later, Reaches Link.step Live ((runWithin Link.step Live {} probeSent).get probeSent_isSome)
        later ∧ List.Forall₂ (Arrives .host) later.receiver.delivered
          [(.empty, .registrationProbe {})] :=
  (@messages_arrive .host _ [(.empty, .registrationProbe {})] (reaches_get probeSent_isSome)
    (by decide +kernel)).2 (by decide +kernel)

end Protocol

end InferenceServer.Sockets
