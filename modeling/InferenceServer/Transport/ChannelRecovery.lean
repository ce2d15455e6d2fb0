import InferenceServer.Transport.OwnReplies

/-! What a migration that failed leaves on its channel. Each time a call gives up on a reply, one
reply stays over, and every later call takes the replies to messages before its own. Where none
has given up, the channel is clear and the next call takes its own replies. -/
namespace InferenceServer.Transport

open Machine

/-- The receiver can ready its buffer: it has one, registered and under a name. -/
def KvMigrationReceiver.Readies (receiver : KvMigrationReceiver) : Prop :=
  ∃ bounce, receiver.receiver = some bounce ∧ bounce.registered = true ∧ bounce.segmentName ≠ []

namespace ControlChannel

variable {receiver : KvMigrationReceiver} {channel after : ControlChannel}

/-- One reply is owed for each that was given up on and for the one that is awaited. -/
structure Counted (channel : ControlChannel) : Prop where
  regular : channel.Regular
  owed : channel.pending.length = channel.gaveUp + channel.sender.awaits.toNat
  numbered : ∀ owed ∈ channel.pending, owed.1.call ≤ channel.calls
  results : ∀ result ∈ channel.results, result.call ≤ channel.calls

theorem Counted.initial : ({} : ControlChannel).Counted where
  regular := ⟨nofun, rfl, nofun⟩
  owed := rfl
  numbered := nofun
  results := nofun

/-- The results that are there with one more of the present call. -/
theorem results_finish {windows : Nat} {ok : Bool}
    (numbered : ∀ result ∈ channel.results, result.call ≤ channel.calls) :
    ∀ result ∈ (channel.finish windows ok).results, result.call ≤ channel.calls := by
  intro result member
  rcases List.mem_append.mp member with earlier | new
  · exact numbered result earlier
  · obtain rfl := List.mem_singleton.mp new
    exact Nat.le_refl _

theorem numbered_send {index : Nat} {message : KvControlMessage}
    (numbered : ∀ owed ∈ channel.pending, owed.1.call ≤ channel.calls) :
    ∀ owed ∈ (channel.send index message).pending, owed.1.call ≤ channel.calls := by
  intro owed member
  rw [pending_send] at member
  rcases List.mem_append.mp member with earlier | new
  · exact numbered owed earlier
  · obtain rfl := List.mem_singleton.mp new
    exact Nat.le_refl _

theorem Counted.step {label : ChannelEvent} (counted : channel.Counted)
    (stepped : step receiver channel label = some after) : after.Counted := by
  have regular := counted.regular.step stepped
  have owed := counted.owed
  cases label with
  | migrate uuid request =>
    obtain ⟨idle, rfl⟩ := migrate_spec stepped
    rw [idle] at owed
    have sent := pending_send { channel with calls := channel.calls + 1 } 0
      (beginMessage uuid request.dstSlice)
    refine ⟨regular, ?_, ?_, fun result member => Nat.le_succ_of_le (counted.results _ member)⟩
    · refine (congrArg List.length sent).trans ?_
      rw [List.length_append]
      exact congrArg (· + 1) owed
    · exact @numbered_send { channel with calls := channel.calls + 1 } _ _
        fun owed member => Nat.le_succ_of_le (counted.numbered owed member)
  | receive =>
    obtain ⟨reply, rest, waiting, taken⟩ := receive_spec stepped
    have same := take_senderOnly taken
    have waits := take_awaits taken
    have pending : channel.pending = (reply.tag, reply.message.uuid) :: after.pending := by
      simp [ControlChannel.pending, waiting, same.toSender, same.toReceiver]
    refine ⟨regular, ?_, ?_, ?_⟩
    · rw [pending, List.length_cons, show channel.sender.awaits = true from waits.1] at owed
      rw [same.gaveUp, waits.2]
      exact Nat.succ.inj owed
    · rw [same.calls]
      exact fun owed member => counted.numbered owed (by
        rw [pending]
        exact List.mem_cons_of_mem _ member)
    · rw [same.calls]
      intro result member
      rcases take_cases taken with ⟨_, _, rfl⟩ | ⟨_, _, _, _, rfl⟩ | ⟨_, _, _, _, _, _, rfl⟩ |
        ⟨_, _, _, _, rfl⟩
      · exact results_finish (by exact counted.results) result member
      · exact counted.results result member
      · exact counted.results result member
      · exact results_finish (by exact counted.results) result member
  | giveUp =>
    obtain ⟨windows, waits, rfl⟩ := giveUp_spec stepped
    rw [waits] at owed
    exact ⟨regular, owed, counted.numbered, results_finish counted.results⟩
  | sink window =>
    obtain ⟨uuid, windows, phase, rfl⟩ := sink_spec stepped
    rw [phase] at owed
    refine ⟨regular, ?_, numbered_send counted.numbered, counted.results⟩
    rw [pending_send, List.length_append]
    exact congrArg (· + 1) owed
  | transferFails =>
    obtain ⟨uuid, windows, phase, rfl⟩ := transferFails_spec stepped
    rw [phase] at owed
    exact ⟨regular, owed, counted.numbered, results_finish counted.results⟩
  | transferDone =>
    obtain ⟨uuid, windows, phase, rfl⟩ := transferDone_spec stepped
    rw [phase] at owed
    refine ⟨regular, ?_, numbered_send counted.numbered, counted.results⟩
    rw [pending_send, List.length_append]
    exact congrArg (· + 1) owed
  | serve devicesOk =>
    have same := pending_serve counted.regular stepped
    obtain ⟨sent, rest, reply, drained, _, _, _, _, _, shape⟩ :=
      serve_spec counted.regular stepped
    have sender : after.sender = channel.sender := by rw [shape]
    have gaveUp : after.gaveUp = channel.gaveUp := by rw [shape]
    have calls : after.calls = channel.calls := by rw [shape]
    have results : after.results = channel.results := by rw [shape]
    refine ⟨regular, ?_, ?_, ?_⟩
    · rw [same, sender, gaveUp]
      exact owed
    · rw [same, calls]
      exact counted.numbered
    · rw [results, calls]
      exact counted.results

theorem Counted.reached {Allowed : ControlChannel → ChannelEvent → Prop}
    (reached : Reaches (ControlChannel.step receiver) Allowed {} channel) : channel.Counted :=
  reached.invariant Counted Counted.initial fun _ _ _ counted _ stepped => counted.step stepped

/-- Steps within a call. -/
def WithinCall (_ : ControlChannel) (label : ChannelEvent) : Prop := label.starts = false

/-- Steps in which the receiver drains what it is sent, the transfer does not fail and every
reply is waited for. -/
def Smooth (receiver : KvMigrationReceiver) (_ : ControlChannel) : ChannelEvent → Prop
  | .receive | .sink _ | .transferDone => True
  | .serve devicesOk => receiver.drainWindow devicesOk = true
  | .migrate _ _ | .giveUp | .transferFails => False

/-- The next call takes the replies to its own messages, in order; and where the receiver readies
and drains it, it never fails and can go on until it has returned. -/
def Recovers (receiver : KvMigrationReceiver) (channel : ControlChannel) (uuid : UInt64)
    (request : MigrationRequest) : Prop :=
  ∀ begun, step receiver channel (.migrate uuid request) = some begun →
    (∀ later, Reaches (step receiver) WithinCall begun later →
      ∃ count, later.consumed = begun.own count) ∧
    (receiver.Readies → ∀ later, Reaches (step receiver) (Smooth receiver) begun later →
      (∀ result ∈ later.results, result.call = begun.calls → result.ok = true) ∧
      (later.sender ≠ .idle →
        ∃ label next, Smooth receiver later label ∧ step receiver later label = some next))

/-- The present call has asked and the receiver will answer, or has answered, as hoped. -/
inductive Expects (channel : ControlChannel) (uuid : UInt64) (request : KvControlType)
    (Good : KvControlMessage → Prop) : Prop
  | asked (sent : Sent) (queued : channel.toReceiver = [sent]) (unanswered : channel.toSender = [])
      (type : sent.message.type = request) (same : sent.message.uuid = uuid)
      (held : request ≠ .beginMigration → channel.okByUuid.lookup uuid = some true)
  | answered (reply : Sent) (served : channel.toReceiver = []) (waiting : channel.toSender = [reply])
      (same : reply.message.uuid = uuid) (good : Good reply.message)
      (held : request ≠ .doneMarker → channel.okByUuid.lookup uuid = some true)

def IsReady (message : KvControlMessage) : Prop :=
  message.type = .bounceReady ∧ message.ok = true ∧ message.segmentName ≠ []

def IsAck (type : KvControlType) (message : KvControlMessage) : Prop :=
  message.type = type ∧ message.ok = true

/-- All has gone well in the present call. -/
def OnCourse (channel : ControlChannel) : Prop :=
  match channel.sender with
  | .idle => True
  | .awaitingReady uuid => channel.Expects uuid .beginMigration IsReady
  | .transferring uuid _ => channel.toReceiver = [] ∧ channel.toSender = [] ∧
      channel.okByUuid.lookup uuid = some true
  | .awaitingWindowAck uuid _ => channel.Expects uuid .windowReady (IsAck .windowAck)
  | .awaitingAck uuid _ => channel.Expects uuid .doneMarker (IsAck .ack)

/-- The answers of a receiver that does its part. -/
theorem Expects.serve {uuid : UInt64} {request : KvControlType} {devicesOk : Bool}
    {Good : KvControlMessage → Prop} (expects : channel.Expects uuid request Good)
    (regular : channel.Regular) (answers : ∀ message, message.type = request → message.uuid = uuid →
      (request ≠ .beginMigration → channel.okByUuid.lookup uuid = some true) →
      ∀ reply, (receiver.handle channel.okByUuid devicesOk message).reply = some reply →
        Good reply ∧ (request ≠ .doneMarker →
          (receiver.handle channel.okByUuid devicesOk message).ok.lookup uuid = some true))
    (stepped : step receiver channel (.serve devicesOk) = some after) :
    after.Expects uuid request Good := by
  obtain ⟨sent, rest, reply, drained, queue, same, replied, _, _, rfl⟩ :=
    serve_spec regular stepped
  cases expects with
  | asked asked queued unanswered type sameUuid held =>
    obtain ⟨rfl, rfl⟩ := List.cons.inj (queue.symm.trans queued)
    obtain ⟨good, kept⟩ := answers sent.message type sameUuid held reply replied
    refine .answered ⟨sent.tag, reply⟩ rfl ?_ (same.trans sameUuid) good kept
    rw [unanswered, List.nil_append]
  | answered answer served =>
    rw [served] at queue
    cases queue

theorem OnCourse.serve {devicesOk : Bool} (course : channel.OnCourse) (regular : channel.Regular)
    (readies : receiver.Readies) (drains : receiver.drainWindow devicesOk = true)
    (stepped : step receiver channel (.serve devicesOk) = some after) : after.OnCourse := by
  obtain ⟨_, _, _, _, queue, _, _, _, _, shape⟩ := serve_spec regular stepped
  have sender : after.sender = channel.sender := by rw [shape]
  unfold OnCourse at course ⊢
  rw [sender]
  cases phase : channel.sender with
  | idle => trivial
  | transferring uuid windows =>
    rw [phase] at course
    rw [course.1] at queue
    cases queue
  | awaitingReady uuid =>
    rw [phase] at course
    refine course.serve regular (fun message type same _ reply replied => ?_) stepped
    obtain ⟨bounce, known, registered, named⟩ := readies
    have ready : receiver.registered = true := by
      rw [KvMigrationReceiver.registered, known]
      exact registered
    simp only [KvMigrationReceiver.handle, type, ready, known, Option.map_some, Option.getD_some,
      if_true, Option.some.injEq] at replied ⊢
    subst replied
    exact ⟨⟨rfl, rfl, named⟩, fun _ => by rw [same, AList.lookup_insert]⟩
  | awaitingWindowAck uuid windows =>
    rw [phase] at course
    refine course.serve regular (fun message type same held reply replied => ?_) stepped
    simp only [KvMigrationReceiver.handle, type, drains, if_true, Option.some.injEq] at replied ⊢
    subst replied
    exact ⟨⟨rfl, rfl⟩, fun _ => held nofun⟩
  | awaitingAck uuid windows =>
    rw [phase] at course
    refine course.serve regular (fun message type same held reply replied => ?_) stepped
    have kept : channel.okByUuid.lookup message.uuid = some true := by
      rw [same]
      exact held nofun
    simp only [KvMigrationReceiver.handle, type, kept, Option.getD_some, Option.some.injEq]
      at replied
    subst replied
    exact ⟨⟨rfl, rfl⟩, fun done => absurd rfl done⟩

/-- Where all has gone well a reply takes the call on, or ends it with success. -/
theorem OnCourse.receive (course : channel.OnCourse)
    (stepped : step receiver channel .receive = some after) :
    after.OnCourse ∧ ∃ added, after.results = channel.results ++ added ∧
      ∀ result ∈ added, result.ok = true := by
  obtain ⟨reply, rest, waiting, taken⟩ := receive_spec stepped
  have answered : ∀ {uuid request Good}, channel.Expects uuid request Good →
      channel.toReceiver = [] ∧ rest = [] ∧ reply.message.uuid = uuid ∧ Good reply.message ∧
        (request ≠ .doneMarker → channel.okByUuid.lookup uuid = some true) := by
    intro uuid request Good expects
    cases expects with
    | asked sent queued unanswered =>
      rw [unanswered] at waiting
      cases waiting
    | answered answer served queued same good held =>
      obtain ⟨rfl, rfl⟩ := List.cons.inj (waiting.symm.trans queued)
      exact ⟨served, rfl, same, good, held⟩
  unfold OnCourse at course
  unfold take at taken
  cases phase : channel.sender with
  | idle | transferring uuid windows =>
    rw [phase] at taken
    cases taken
  | awaitingReady uuid =>
    rw [phase] at course taken
    obtain ⟨served, rfl, same, ⟨type, ok, named⟩, held⟩ := answered course
    simp only [type, same, ok, named, ne_eq, not_true_eq_false, or_self, if_false, Bool.true_eq_false,
      Option.some.injEq] at taken
    subst taken
    exact ⟨⟨served, rfl, held nofun⟩, [], (List.append_nil _).symm, nofun⟩
  | awaitingWindowAck uuid windows =>
    rw [phase] at course taken
    obtain ⟨served, rfl, same, ⟨type, ok⟩, held⟩ := answered course
    simp only [type, same, ok, ne_eq, not_true_eq_false, or_self, if_false, Bool.true_eq_false,
      Option.some.injEq] at taken
    subst taken
    exact ⟨⟨served, rfl, held nofun⟩, [], (List.append_nil _).symm, nofun⟩
  | awaitingAck uuid windows =>
    rw [phase] at course taken
    obtain ⟨served, rfl, same, ⟨type, ok⟩, held⟩ := answered course
    simp only [type, same, ok, ne_eq, not_true_eq_false, or_self, if_false, Bool.true_eq_false,
      Option.some.injEq] at taken
    subst taken
    refine ⟨trivial, _, rfl, fun result member => ?_⟩
    obtain rfl := List.mem_singleton.mp member
    rfl

/-- The present call of a smooth run. -/
structure Smoothly (call : Nat) (channel : ControlChannel) : Prop where
  regular : channel.Regular
  course : channel.OnCourse
  results : ∀ result ∈ channel.results, result.call = call → result.ok = true

theorem Smoothly.step {call : Nat} {label : ChannelEvent} (smoothly : Smoothly call channel)
    (readies : receiver.Readies) (smooth : Smooth receiver channel label)
    (stepped : step receiver channel label = some after) : Smoothly call after := by
  have regular := smoothly.regular.step stepped
  have course := smoothly.course
  cases label with
  | migrate uuid request => exact smooth.elim
  | giveUp => exact smooth.elim
  | transferFails => exact smooth.elim
  | receive =>
    obtain ⟨course, added, results, good⟩ := course.receive stepped
    refine ⟨regular, course, fun result member same => ?_⟩
    rw [results] at member
    rcases List.mem_append.mp member with earlier | new
    · exact smoothly.results result earlier same
    · exact good result new
  | sink window =>
    obtain ⟨uuid, windows, phase, rfl⟩ := sink_spec stepped
    unfold OnCourse at course
    rw [phase] at course
    obtain ⟨served, empty, held⟩ := course
    refine ⟨regular, .asked ⟨⟨channel.calls, windows + 1⟩, { type := .windowReady, uuid, window }⟩ ?_
      empty rfl rfl fun _ => held, smoothly.results⟩
    exact congrArg (· ++ _) served
  | transferDone =>
    obtain ⟨uuid, windows, phase, rfl⟩ := transferDone_spec stepped
    unfold OnCourse at course
    rw [phase] at course
    obtain ⟨served, empty, held⟩ := course
    refine ⟨regular, .asked ⟨⟨channel.calls, windows + 1⟩, { type := .doneMarker, uuid }⟩ ?_
      empty rfl rfl fun _ => held, smoothly.results⟩
    exact congrArg (· ++ _) served
  | serve devicesOk =>
    have served := course.serve smoothly.regular readies smooth stepped
    obtain ⟨_, _, _, _, _, _, _, _, _, rfl⟩ := serve_spec smoothly.regular stepped
    exact ⟨regular, served, smoothly.results⟩

/-- A sender that waits takes whatever comes first. -/
theorem receive_of_awaits {reply : Sent} {rest : List Sent} (awaits : channel.sender.awaits = true)
    (waiting : channel.toSender = reply :: rest) :
    ∃ next, step receiver channel .receive = some next := by
  simp only [step, waiting, take]
  cases phase : channel.sender with
  | idle | transferring _ _ =>
    rw [phase] at awaits
    cases awaits
  | awaitingReady uuid =>
    dsimp only
    split
    · exact ⟨_, rfl⟩
    · split <;> exact ⟨_, rfl⟩
  | awaitingWindowAck uuid windows | awaitingAck uuid windows =>
    dsimp only
    split <;> exact ⟨_, rfl⟩

/-- A call on course is never stuck. -/
theorem OnCourse.progress (course : channel.OnCourse) (regular : channel.Regular)
    (readies : receiver.Readies) (busy : channel.sender ≠ .idle) :
    ∃ label next, Smooth receiver channel label ∧ step receiver channel label = some next := by
  obtain ⟨bounce, known, registered, _⟩ := readies
  have drains : receiver.drainWindow true = true := by
    rw [KvMigrationReceiver.drainWindow, KvMigrationReceiver.registered, known]
    exact congrArg (· && true) registered
  have onward : ∀ {uuid request Good}, channel.Expects uuid request Good →
      channel.sender.awaits = true →
      ∃ label next, Smooth receiver channel label ∧ step receiver channel label = some next := by
    intro uuid request Good expects awaits
    cases expects with
    | asked sent queued =>
      obtain ⟨next, served⟩ : ∃ next, step receiver channel (.serve true) = some next := by
        simp only [step, queued, regular.serving]
        exact ⟨_, rfl⟩
      exact ⟨.serve true, next, drains, served⟩
    | answered reply served waiting =>
      obtain ⟨next, received⟩ := receive_of_awaits awaits waiting
      exact ⟨.receive, next, trivial, received⟩
  unfold OnCourse at course
  cases phase : channel.sender with
  | idle => exact absurd phase busy
  | transferring uuid windows =>
    obtain ⟨next, done⟩ : ∃ next, step receiver channel .transferDone = some next := by
      simp only [step, phase]
      exact ⟨_, rfl⟩
    exact ⟨.transferDone, next, trivial, done⟩
  | awaitingReady uuid | awaitingWindowAck uuid windows | awaitingAck uuid windows =>
    rw [phase] at course
    exact onward course (by rw [phase]; rfl)

theorem Alone.consumed_own (alone : channel.Alone) :
    ∃ count, channel.consumed = channel.own count := by
  unfold Alone at alone
  cases phase : channel.sender with
  | idle =>
    rw [phase] at alone
    exact alone
  | awaitingReady uuid =>
    rw [phase] at alone
    exact ⟨0, alone.2⟩
  | transferring uuid windows | awaitingWindowAck uuid windows | awaitingAck uuid windows =>
    rw [phase] at alone
    exact ⟨windows + 1, alone.2⟩

/-- A call that starts alone takes its own replies to its end. -/
theorem Alone.reached {later : ControlChannel} (alone : channel.Alone) (regular : channel.Regular)
    (reached : Reaches (ControlChannel.step receiver) WithinCall channel later) :
    ∃ count, later.consumed = channel.own count := by
  have kept := reached.invariant
    (fun later => later.Regular ∧ later.Alone ∧ later.calls = channel.calls)
    ⟨regular, alone, rfl⟩ fun before label next held within stepped =>
      have moved := held.2.1.step held.1 within stepped
      ⟨held.1.step stepped, moved.1, moved.2.trans held.2.2⟩
  obtain ⟨count, consumed⟩ := kept.2.1.consumed_own
  exact ⟨count, consumed.trans (by rw [own, own, kept.2.2])⟩

/-- Once everything sent is delivered, the next call takes its own replies, and succeeds when the
receiver does its part, if and only if no call before it gave up on a reply. -/
theorem recovers_iff (reached : Reaches (step receiver) (fun _ _ => True) {} channel)
    (idle : channel.sender = .idle) (delivered : channel.toReceiver = []) (uuid : UInt64)
    (request : MigrationRequest) :
    Recovers receiver channel uuid request ↔ channel.gaveUp = 0 := by
  have counted := Counted.reached reached
  have owed := counted.owed
  rw [idle, show MigratePhase.idle.awaits.toNat = 0 from rfl, Nat.add_zero] at owed
  obtain ⟨begun, started⟩ : ∃ begun, step receiver channel (.migrate uuid request) = some begun := by
    simp only [step, idle]
    exact ⟨_, rfl⟩
  have shape := (migrate_spec started).2
  constructor
  · intro recovers
    by_contra gaveUp
    cases waiting : channel.toSender with
    | nil =>
      rw [pending, waiting, delivered] at owed
      exact gaveUp owed.symm
    | cons reply rest =>
      have queued : begun.toSender = reply :: rest := by rw [shape]; exact waiting
      obtain ⟨next, received⟩ := @receive_of_awaits receiver begun _ _ (by rw [shape]; rfl) queued
      obtain ⟨count, own⟩ := (recovers begun started).1 next 
        (.tail .refl (show WithinCall begun .receive from rfl) received)
      obtain ⟨_, _, front, taken⟩ := receive_spec received
      obtain ⟨rfl, rfl⟩ := List.cons.inj (queued.symm.trans front)
      rw [(take_senderOnly taken).consumed, shape, List.nil_append] at own
      -- The first reply would carry the number of the new call, and it is an earlier one's.
      have same : reply.tag ∈ ControlChannel.own { channel with calls := channel.calls + 1 } count :=
        own ▸ List.mem_cons_self
      obtain ⟨index, _, tagged⟩ := List.mem_map.mp same
      have earlier := counted.numbered (reply.tag, reply.message.uuid) (by
        rw [pending, waiting]
        exact List.mem_cons_self)
      rw [← tagged] at earlier
      exact absurd earlier (Nat.not_succ_le_self _)
  · intro none_ other otherStarted
    obtain rfl := Option.some.inj (started.symm.trans otherStarted)
    rw [none_] at owed
    have clear := List.eq_nil_of_length_eq_zero owed
    have regular := counted.regular.step started
    have nothing := List.append_eq_nil_iff.mp (List.map_eq_nil_iff.mp clear)
    refine ⟨fun later => Alone.reached ?_ regular, fun readies later run => ?_⟩
    · rw [shape]
      refine ⟨?_, rfl⟩
      rw [pending, nothing.1, nothing.2]
      rfl
    · have smoothly := run.invariant (Smoothly begun.calls) ⟨regular, ?_, ?_⟩
        fun before label next held smooth stepped => held.step readies smooth stepped
      · exact ⟨smoothly.results, smoothly.course.progress smoothly.regular readies⟩
      · rw [shape]
        refine .asked ⟨⟨channel.calls + 1, 0⟩, beginMessage uuid request.dstSlice⟩ ?_ nothing.1 rfl rfl
          (fun other => absurd rfl other)
        rw [nothing.2]
        rfl
      · rw [shape]
        intro result member same
        have earlier := counted.results result member
        rw [same] at earlier
        exact absurd earlier (Nat.not_succ_le_self _)

/-- A migration whose only window is not drained. -/
def badWindow : List ChannelEvent :=
  [.migrate 1 {}, .serve true, .receive, .sink oneSection, .serve false, .receive]

theorem badWindow_runs :
    (runWithin (step decodeHost) (fun _ _ => True) {} badWindow).isSome = true := by
  decide +kernel

theorem recovers_iff_badWindow :
    Recovers decodeHost ((runWithin (step decodeHost) (fun _ _ => True) {} badWindow).get
      badWindow_runs) 2 {} :=
  (recovers_iff (reaches_get badWindow_runs) (by decide +kernel) (by decide +kernel) 2 {}).mpr
    (by decide +kernel)

/-- A migration that gives up on the reply to its start, which then comes. -/
def lateReady : List ChannelEvent := [.migrate 1 {}, .giveUp, .serve true]

theorem lateReady_runs :
    (runWithin (step decodeHost) (fun _ _ => True) {} lateReady).isSome = true := by
  decide +kernel

/-- The channel once the late reply is on it. -/
def lateChannel : ControlChannel :=
  (runWithin (step decodeHost) (fun _ _ => True) {} lateReady).get lateReady_runs

theorem lateChannel_begins : (step decodeHost lateChannel (.migrate 2 {})).isSome = true := by
  decide +kernel

theorem lateChannel_takes :
    (step decodeHost ((step decodeHost lateChannel (.migrate 2 {})).get lateChannel_begins)
      .receive).isSome = true := by
  decide +kernel

/-- The next migration takes that reply for the one to its own start, and fails. -/
theorem not_recovers :
    ¬ ∀ (receiver : KvMigrationReceiver) (labels : List ChannelEvent) (channel : ControlChannel)
      (uuid : UInt64) (request : MigrationRequest),
      runWithin (step receiver) (fun _ _ => True) {} labels = some channel →
      channel.sender = .idle → channel.results.getLast?.map CallResult.ok = some false →
      channel.toReceiver = [] → (∀ earlier, .migrate uuid earlier ∉ labels) →
      Recovers receiver channel uuid request := by
  intro law
  have fresh : ∀ earlier, ChannelEvent.migrate 2 earlier ∉ lateReady := by
    intro earlier member
    simp [lateReady] at member
  have recovers := law decodeHost lateReady lateChannel 2 {} (Option.some_get lateReady_runs).symm
    (by decide +kernel) (by decide +kernel) (by decide +kernel) fresh
  have run : Reaches (step decodeHost) (Smooth decodeHost) _ _ :=
    .tail .refl (show Smooth decodeHost _ .receive from trivial)
      (Option.some_get lateChannel_takes).symm
  have failed := ((recovers _ (Option.some_get lateChannel_begins).symm).2
    ⟨_, rfl, rfl, by decide⟩ _ run).1 ⟨2, false, 0, [⟨1, 0⟩]⟩ (by decide +kernel) (by decide +kernel)
  cases failed

end ControlChannel

end InferenceServer.Transport
