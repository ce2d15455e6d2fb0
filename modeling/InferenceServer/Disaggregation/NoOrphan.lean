import InferenceServer.Disaggregation.PendingOnce
import InferenceServer.Disaggregation.SlotReservation

/-! Where the session of a reservation is kept in flight for. As long as a granted answer
finds its request and the request's work is launched, some message, handler, work or result
still names the session. -/
namespace InferenceServer.Disaggregation
open Machine

/-- An answer with a slot, on which the prefill server runs the task. -/
def SlotReservationResponseMessage.Granted (message : SlotReservationResponseMessage) : Prop :=
  message.error = false ∧ message.hasSlot = true

instance (message : SlotReservationResponseMessage) : Decidable message.Granted :=
  inferInstanceAs (Decidable (_ ∧ _))

/-- The task that a handler of the prefill server is about. -/
def PrefillFirst.Frame.taskIds : PrefillFirst.Frame → List TaskId
  | discovering _ message | reading _ message _ | updating _ message _ | connecting _ message
  | sending _ message => [message.taskId]
  | unreserved _ taskId _ | aborting _ taskId | stopping taskId => [taskId]
  | applying _ result => [result.taskId]
  | resolving work => [work.taskId]
  | failingAll taskIds => taskIds
  | failing _ taskId rest => taskId :: rest

namespace Reservations

/-- No message of the task is on the way or being handled, and the prefill server does not
know the task. -/
structure Quiet (servers : Reservations) (taskId : TaskId) : Prop where
  requests : ∀ message ∈ servers.requests, message.taskId ≠ taskId
  reservations : ∀ reservation ∈ servers.reservations, reservation.taskId ≠ taskId
  responses : ∀ message ∈ servers.responses, message.taskId ≠ taskId
  pending : servers.prefill.shared.pendingSlotReservations.lookup taskId = none
  frames : ∀ frame ∈ servers.prefill.frames, taskId ∉ frame.taskIds
  works : ∀ work ∈ servers.works, work.taskId ≠ taskId

/-- A session that is still in flight for a task of which nothing is left has been named in
a result. -/
def NoOrphan (servers : Reservations) (taskId : TaskId) (sessionId : SessionId) : Prop :=
  servers.Quiet taskId → servers.holder sessionId = some (.reserved taskId) →
    ∃ result ∈ servers.results, result.taskId = taskId ∧ result.sessionId = sessionId

/-- A granted answer is not lost and finds its request, which waits for a result, and the
work is launched; all this only while the session is in flight for the task. -/
def HandedOn (servers : Reservations) : Move → Prop
  | .handleSlotReservationResponse message =>
    message.Granted → servers.holder message.sessionId = some (.reserved message.taskId) →
      (servers.prefill.shared.pendingSlotReservations.lookup message.taskId).map (·.reply) =
        some .result
  | .loseResponse message =>
    message.Granted → servers.holder message.sessionId ≠ some (.reserved message.taskId)
  | .prefill (.resume (.resolving work) outcome) =>
    servers.holder work.decodeSessionId = some (.reserved work.taskId) →
      outcome.error = none ∧ outcome.accepted = true
  | _ => True

instance (servers : Reservations) (move : Move) : Decidable (servers.HandedOn move) := by
  unfold HandedOn
  split <;> infer_instance

/-- What can name the session of a reservation. -/
inductive Carrier
  | reservation (reservation : Reservation)
  | response (message : SlotReservationResponseMessage)
  | frame (frame : PrefillFirst.Frame)
  | work (work : LaunchedWork)
  | result (result : PrefillResultMessage)

def Carrier.Names (taskId : TaskId) (sessionId : SessionId) : Carrier → Prop
  | reservation (.responding own slot) =>
    own = taskId ∧ slot.sessionId = sessionId ∧ slot.slotId ≠ invalidSlotId
  | response message =>
    message.Granted ∧ message.taskId = taskId ∧ message.sessionId = sessionId
  | frame (.applying pending message) =>
    message.Granted ∧ pending.reply = .result ∧ message.taskId = taskId ∧
      message.sessionId = sessionId
  | frame (.resolving launched) | work launched =>
    launched.reply = .result ∧ launched.taskId = taskId ∧ launched.decodeSessionId = sessionId
  | result made => made.taskId = taskId ∧ made.sessionId = sessionId
  | _ => False

def Carries (servers : Reservations) : Carrier → Prop
  | .reservation reservation => reservation ∈ servers.reservations
  | .response message => message ∈ servers.responses
  | .frame frame => frame ∈ servers.prefill.frames
  | .work work => work ∈ servers.works
  | .result result => result ∈ servers.results

/-- Something names the session as reserved for the task. -/
def Placed (servers : Reservations) (taskId : TaskId) (sessionId : SessionId) : Prop :=
  ∃ carrier : Carrier, servers.Carries carrier ∧ carrier.Names taskId sessionId

/-- Every session in flight for a task is named somewhere. -/
structure Kept (servers : Reservations) : Prop where
  placed : ∀ taskId sessionId, servers.holder sessionId = some (.reserved taskId) →
    servers.Placed taskId sessionId
  /-- The prefill server's trace has been handed on. -/
  collected : servers.prefill.shared.trace = []
  named : servers.holder "" = none

variable {options : Options} {before after : Reservations}

theorem Kept.noOrphan (kept : Kept before) (taskId : TaskId) (sessionId : SessionId) :
    before.NoOrphan taskId sessionId := by
  intro quiet held
  obtain ⟨carrier, there, names⟩ := kept.placed taskId sessionId held
  cases carrier with
  | reservation reservation =>
    cases reservation with
    | responding own slot => exact absurd names.1 (quiet.reservations _ there)
    | allocating own copied => exact names.elim
    | refusing own text => exact names.elim
  | response message => exact absurd names.2.1 (quiet.responses _ there)
  | frame frame =>
    cases frame with
    | applying pending message =>
      exact absurd (List.mem_singleton.mpr names.2.2.1.symm) (quiet.frames _ there)
    | resolving work =>
      exact absurd (List.mem_singleton.mpr names.2.1.symm) (quiet.frames _ there)
    | _ => exact names.elim
  | work work => exact absurd names.2.1 (quiet.works _ there)
  | result result => exact ⟨result, there, names⟩

/-- A step keeps what names a session, or moves it on. -/
theorem Kept.of_moved (kept : Kept before) (collected : after.prefill.shared.trace = [])
    (named : after.holder "" = none)
    (held : ∀ taskId sessionId, after.holder sessionId = some (.reserved taskId) →
      before.holder sessionId = some (.reserved taskId) ∨ after.Placed taskId sessionId)
    (moved : ∀ carrier, before.Carries carrier → after.Carries carrier ∨
      ∀ taskId sessionId, carrier.Names taskId sessionId →
        after.holder sessionId = some (.reserved taskId) →
          before.holder sessionId = some (.reserved taskId) → after.Placed taskId sessionId) :
    Kept after where
  placed taskId sessionId now := by
    rcases held taskId sessionId now with then_ | placed
    · obtain ⟨carrier, there, names⟩ := kept.placed taskId sessionId then_
      rcases moved carrier there with stays | moves
      · exact ⟨carrier, stays, names⟩
      · exact moves taskId sessionId names now then_
    · exact placed
  collected := collected
  named := named

section SetHolder

variable (servers : Reservations) (sessionId : SessionId) (holder : Holder)

theorem holder_setHolder (other : SessionId) : (servers.setHolder sessionId holder).holder other =
    if other = sessionId then (servers.holder sessionId).map fun _ => holder
    else servers.holder other := by
  unfold setHolder
  cases found : servers.sessions.lookup sessionId with
  | none =>
    by_cases same : other = sessionId
    · subst same
      simp [Reservations.holder, found]
    · simp [same]
  | some session =>
    by_cases same : other = sessionId
    · subst same
      simp [Reservations.holder, found]
    · simp [Reservations.holder, same, AList.lookup_insert_ne same]

variable {servers sessionId holder} in
theorem unnamed_setHolder (unnamed : servers.holder "" = none) :
    (servers.setHolder sessionId holder).holder "" = none := by
  rw [holder_setHolder]
  split
  · rename_i same
    rw [← same, unnamed]
    rfl
  · exact unnamed

@[simp] theorem setHolder_prefill : (servers.setHolder sessionId holder).prefill =
    servers.prefill := by
  unfold setHolder
  split <;> rfl

@[simp] theorem setHolder_works : (servers.setHolder sessionId holder).works = servers.works := by
  unfold setHolder
  split <;> rfl

@[simp] theorem setHolder_reservations : (servers.setHolder sessionId holder).reservations =
    servers.reservations := by
  unfold setHolder
  split <;> rfl

@[simp] theorem setHolder_responses : (servers.setHolder sessionId holder).responses =
    servers.responses := by
  unfold setHolder
  split <;> rfl

@[simp] theorem setHolder_results : (servers.setHolder sessionId holder).results =
    servers.results := by
  unfold setHolder
  split <;> rfl

end SetHolder

theorem Carries.collect {carrier : Carrier} (there : before.Carries carrier)
    {prefill : Running PrefillFirst PrefillFirst.Frame}
    (frames : ∀ frame, carrier = .frame frame → frame ∈ prefill.frames) :
    (before.collect prefill).Carries carrier := by
  cases carrier with
  | reservation reservation => exact there
  | response message => exact there
  | frame frame => exact frames frame rfl
  | work work => exact List.mem_append_left _ there
  | result result => exact List.mem_append_left _ there

namespace Kept

section

variable (kept : Kept before)
include kept

theorem called (call : PrefillFirst.Call) :
    Kept (before.collect
      { shared := (PrefillFirst.call options before.prefill.shared call).1
        frames := (PrefillFirst.call options before.prefill.shared call).2.toList ++
          before.prefill.frames }) := by
  refine kept.of_moved rfl kept.named (fun _ _ held => .inl held) fun carrier there => .inl ?_
  refine there.collect fun frame same => ?_
  subst same
  exact List.mem_append_right _ there

theorem resumed {frame : PrefillFirst.Frame} {outcome : PrefillFirst.Outcome}
    (handed : before.HandedOn (.prefill (.resume frame outcome))) :
    Kept (before.collect
      { shared := (before.prefill.shared.resume frame outcome).1
        frames := (before.prefill.shared.resume frame outcome).2.toList ++
          before.prefill.frames.erase frame }) := by
  refine kept.of_moved rfl kept.named (fun _ _ held => .inl held) fun carrier there => ?_
  by_cases own : carrier = .frame frame
  · subst own
    refine .inr fun taskId sessionId names now held => ?_
    cases frame with
    | applying pending message =>
      obtain ⟨granted, reply, task, named⟩ := names
      have resolves : before.prefill.shared.resume (.applying pending message) outcome =
          (before.prefill.shared, some (.resolving (pending.granted message))) := by
        simp [PrefillFirst.resume, granted.1, granted.2]
      rw [resolves]
      exact ⟨.frame (.resolving (pending.granted message)), List.mem_cons_self, reply, task, named⟩
    | resolving work =>
      obtain ⟨reply, rfl, rfl⟩ := names
      obtain ⟨found, taken⟩ := handed held
      refine ⟨.work { work with migrationId := outcome.migrationId }, ?_, reply, rfl, rfl⟩
      simp [Carries, Reservations.collect, PrefillFirst.resume, found, taken, PrefillFirst.note,
        PrefillFirst.Event.work]
    | _ => exact names.elim
  · refine .inl (there.collect fun other same => ?_)
    subst same
    refine List.mem_append_right _ ((List.mem_erase_of_ne fun equal => own ?_).mpr there)
    rw [equal]

theorem answered {message : SlotReservationResponseMessage}
    (handed : before.HandedOn (.handleSlotReservationResponse message)) :
    Kept (collect { before with responses := before.responses.erase message }
      { shared := (PrefillFirst.call options before.prefill.shared
          (.handleSlotReservationResponse message)).1
        frames := (PrefillFirst.call options before.prefill.shared
          (.handleSlotReservationResponse message)).2.toList ++ before.prefill.frames }) := by
  have trace : (PrefillFirst.call options before.prefill.shared
      (.handleSlotReservationResponse message)).1.trace = [] := by
    simp only [PrefillFirst.call]
    split <;> exact kept.collected
  refine kept.of_moved rfl kept.named (fun _ _ held => .inl held) fun carrier there => ?_
  by_cases own : carrier = .response message
  · subst own
    refine .inr fun taskId sessionId names now held => ?_
    obtain ⟨granted, rfl, rfl⟩ := names
    obtain ⟨pending, found, reply⟩ := Option.map_eq_some_iff.mp (handed granted held)
    refine ⟨.frame (.applying pending message), ?_, granted, reply, rfl, rfl⟩
    simp [Carries, Reservations.collect, PrefillFirst.call, found]
  · refine .inl ?_
    cases carrier with
    | response other =>
      exact (List.mem_erase_of_ne fun equal => own (by rw [equal])).mpr there
    | frame frame => exact List.mem_append_right _ there
    | reservation reservation => exact there
    | work work => exact List.mem_append_left _ there
    | result result => exact List.mem_append_left _ there

/-- Messages come and go, but what names a session is only answered. -/
theorem of_messages {requests : List SlotReservationRequestMessage}
    {reservations : List Reservation} {responses : List SlotReservationResponseMessage}
    (answers : ∀ reservation ∈ before.reservations, reservation ∈ reservations ∨
      ∀ taskId sessionId, Carrier.Names taskId sessionId (.reservation reservation) →
        before.holder sessionId = some (.reserved taskId) →
          ∃ message ∈ responses, Carrier.Names taskId sessionId (.response message))
    (stays : ∀ message ∈ before.responses, message ∈ responses ∨
      ∀ taskId sessionId, Carrier.Names taskId sessionId (.response message) →
        before.holder sessionId ≠ some (.reserved taskId)) :
    Kept { before with requests, reservations, responses } := by
  refine kept.of_moved kept.collected kept.named (fun _ _ held => .inl held)
    fun carrier there => ?_
  cases carrier with
  | reservation reservation =>
    refine (answers reservation there).imp_right fun moves taskId sessionId names _ held => ?_
    obtain ⟨message, sent, named⟩ := moves taskId sessionId names held
    exact ⟨.response message, sent, named⟩
  | response message =>
    exact (stays message there).imp_right fun free taskId sessionId names _ held =>
      absurd held (free taskId sessionId names)
  | frame frame => exact .inl there
  | work work => exact .inl there
  | result result => exact .inl there

/-- A session is marked in flight for a task that is told so. -/
theorem reserves {taskId : TaskId} {sessionId : SessionId} {slot : DecodeDestinationSlot}
    (named : slot.sessionId = sessionId) (valid : slot.slotId ≠ invalidSlotId) :
    Kept { before.setHolder sessionId (.reserved taskId) with
      reservations := .responding taskId slot :: before.reservations } := by
  have holder : ∀ other, Reservations.holder { before.setHolder sessionId (.reserved taskId) with
      reservations := .responding taskId slot :: before.reservations } other =
        (before.setHolder sessionId (.reserved taskId)).holder other := fun other => rfl
  refine kept.of_moved ?_ ?_ (fun own other held => ?_) fun carrier there => .inl ?_
  · simpa using kept.collected
  · exact unnamed_setHolder kept.named
  · rw [holder, holder_setHolder] at held
    split at held
    · rename_i same
      obtain ⟨earlier, -, mine⟩ := Option.map_eq_some_iff.mp held
      cases mine
      exact .inr ⟨.reservation (.responding taskId slot), List.mem_cons_self, rfl,
        named.trans same.symm, valid⟩
    · exact .inl held
  · cases carrier with
    | reservation reservation => exact List.mem_cons_of_mem _ there
    | response message => simpa [Carries] using there
    | frame frame => simpa [Carries] using there
    | work work => simpa [Carries] using there
    | result result => simpa [Carries] using there

/-- A session gets another holder than a reservation. -/
theorem releases {sessionId : SessionId} {holder : Holder}
    (free : ∀ taskId, holder ≠ .reserved taskId) : Kept (before.setHolder sessionId holder) := by
  refine kept.of_moved ?_ ?_ (fun taskId other held => ?_) fun carrier there => .inl ?_
  · simpa using kept.collected
  · exact unnamed_setHolder kept.named
  · rw [holder_setHolder] at held
    split at held
    · obtain ⟨earlier, -, mine⟩ := Option.map_eq_some_iff.mp held
      exact absurd mine (free taskId)
    · exact .inl held
  · cases carrier <;> simpa [Carries] using there

/-- The session table changes for others only. -/
theorem of_sessions {sessions : Table SessionId DecodeSession}
    (less : ∀ sessionId session, sessions.lookup sessionId = some session →
      before.sessions.lookup sessionId = some session ∨
        (session.holder = .idle ∧ sessionId ≠ "")) : Kept { before with sessions } := by
  refine kept.of_moved kept.collected ?_ (fun taskId sessionId held => ?_)
    fun carrier there => .inl (by cases carrier <;> exact there)
  · cases found : sessions.lookup "" with
    | none => simp [Reservations.holder, found]
    | some session =>
      rcases less "" session found with there | new
      · have named := kept.named
        simp [Reservations.holder, there] at named
      · exact absurd rfl new.2
  · obtain ⟨session, found, reserved⟩ := Option.map_eq_some_iff.mp held
    rcases less sessionId session found with there | new
    · exact .inl (Option.map_eq_some_iff.mpr ⟨session, there, reserved⟩)
    · rw [new.1] at reserved
      cases reserved

end

end Kept

/-- A final chunk of work that waits for a result names the session in it. -/
theorem answer_final {work : LaunchedWork} (reply : work.reply = .result) (chunk : LLMStreamChunk) :
    ∃ result ∈ work.answer chunk true, result.taskId = work.taskId ∧
      result.sessionId = work.decodeSessionId := by
  simp only [LaunchedWork.answer, reply]
  split
  · exact ⟨_, rfl, rfl, rfl⟩
  · exact ⟨_, rfl, rfl, rfl⟩

namespace Kept

theorem setHolder_reservations_comm (servers : Reservations) (sessionId : SessionId)
    (holder : Holder) (reservations : List Reservation) :
    setHolder { servers with reservations } sessionId holder =
      { servers.setHolder sessionId holder with reservations } := by
  unfold setHolder
  cases servers.sessions.lookup sessionId <;> rfl

section

variable (kept : Kept before)
include kept

/-- A reservation that names no session is replaced. -/
theorem replaces (reservation : Reservation) (rest : List Reservation)
    (unnamed : ∀ taskId sessionId, ¬Carrier.Names taskId sessionId (.reservation reservation)) :
    Kept { before with reservations := rest ++ before.reservations.erase reservation } := by
  refine kept.of_messages (fun other there => ?_) fun message sent => .inl sent
  by_cases own : other = reservation
  · exact .inr fun taskId sessionId names => absurd (own ▸ names) (unnamed taskId sessionId)
  · exact .inl (List.mem_append_right _ ((List.mem_erase_of_ne own).mpr there))

/-- A reservation of a session that is not in flight for its task is dropped. -/
theorem drops {reservation : Reservation}
    (free : ∀ taskId sessionId, Carrier.Names taskId sessionId (.reservation reservation) →
      before.holder sessionId ≠ some (.reserved taskId)) :
    Kept { before with reservations := before.reservations.erase reservation } := by
  refine kept.of_messages (fun other there => ?_) fun message sent => .inl sent
  by_cases own : other = reservation
  · exact .inr fun taskId sessionId names held =>
      absurd held (free taskId sessionId (own ▸ names))
  · exact .inl ((List.mem_erase_of_ne own).mpr there)

theorem adds (reservation : Reservation) :
    Kept { before with reservations := reservation :: before.reservations } :=
  kept.of_messages (fun _ there => .inl (List.mem_cons_of_mem _ there)) fun _ sent => .inl sent

theorem resolved {message : SlotReservationRequestMessage} {found : Lookup}
    (stepped : resolveDecodeDestinationSlot before message found = some after) : Kept after := by
  cases found with
  | miss copyMatchedTokens =>
    cases stepped
    exact kept.adds _
  | busy text =>
    simp only [resolveDecodeDestinationSlot] at stepped
    split at stepped
    · cases stepped
      exact kept.adds _
    · cases stepped
  | hit sessionId matchedTokens thinkTokens =>
    simp only [resolveDecodeDestinationSlot] at stepped
    split at stepped
    · cases stepped
    · rename_i session there
      split at stepped
      · cases stepped
        refine kept.reserves ?_ ?_
        · unfold acquired
          split <;> rfl
        · unfold acquired
          split <;> exact session.valid
      · cases stepped

theorem acquires (taskId : TaskId) (copyMatchedTokens : Option UInt32) (sessionId : SessionId) :
    Kept (acquireInFlight before taskId copyMatchedTokens sessionId) := by
  unfold acquireInFlight
  split
  · exact kept.adds _
  · rename_i session there
    split
    · refine kept.reserves ?_ ?_
      · unfold DecodeDestinationSlot.fromNewSession
        split
        · rfl
        · split <;> rfl
      · unfold DecodeDestinationSlot.fromNewSession
        split
        · exact session.valid
        · split <;> exact session.valid
    · exact kept

theorem responds {reservation : Reservation} {sent : Bool}
    (stepped : Reservations.step options before (.respond reservation sent) = some after) :
    Kept after := by
  simp only [Reservations.step] at stepped
  split at stepped
  · cases reservation with
    | allocating taskId copyMatchedTokens => cases stepped
    | responding taskId slot =>
      cases sent with
      | true =>
        cases stepped
        refine kept.of_messages (fun other there => ?_)
          fun message there => .inl (List.mem_append_left _ there)
        by_cases own : other = .responding taskId slot
        · subst own
          refine .inr fun own sessionId names held => ⟨slot.response taskId,
            List.mem_append_right _ (List.mem_singleton_self _), ⟨rfl, ?_⟩, names.1, names.2.1⟩
          simpa [DecodeDestinationSlot.response] using names.2.2
        · exact .inl ((List.mem_erase_of_ne own).mpr there)
      | false =>
        simp only [Bool.false_eq_true, if_false] at stepped
        split at stepped
        · rename_i unnamed
          cases stepped
          refine kept.drops fun own sessionId names held => ?_
          rw [← names.2.1, unnamed, kept.named] at held
          cases held
        · cases stepped
          rw [setHolder_reservations_comm, ← setHolder_reservations before slot.sessionId .idle]
          have released : Kept (before.setHolder slot.sessionId .idle) :=
            kept.releases fun taskId same => by cases same
          refine released.drops fun own sessionId names held => ?_
          rw [← names.2.1, holder_setHolder, if_pos rfl] at held
          obtain ⟨earlier, -, mine⟩ := Option.map_eq_some_iff.mp held
          cases mine
    | refusing taskId text =>
      have replaced := kept.replaces (.refusing taskId text) [] fun _ _ names => names
      cases sent with
      | true =>
        cases stepped
        exact replaced.of_messages (fun _ there => .inl there)
          fun _ there => .inl (List.mem_append_left _ there)
      | false =>
        cases stepped
        exact replaced
  · cases stepped

theorem chunked {work : LaunchedWork} (chunk : LLMStreamChunk) {isFinal : Bool} :
    Kept { before with
      works := if isFinal then before.works.erase work else before.works
      results := before.results ++ (work.answer chunk isFinal).toList } := by
  refine kept.of_moved kept.collected kept.named (fun _ _ held => .inl held)
    fun carrier there => ?_
  cases carrier with
  | work other =>
    cases isFinal with
    | false => exact .inl there
    | true =>
      by_cases own : other = work
      · subst own
        refine .inr fun taskId sessionId names _ _ => ?_
        obtain ⟨reply, rfl, rfl⟩ := names
        obtain ⟨result, made, named⟩ := answer_final reply chunk
        exact ⟨.result result, List.mem_append_right _ (Option.mem_toList.mpr made), named⟩
      · exact .inl ((List.mem_erase_of_ne own).mpr there)
  | result result => exact .inl (List.mem_append_left _ there)
  | reservation reservation => exact .inl there
  | response message => exact .inl there
  | frame frame => exact .inl there

theorem step {move : Move} (handed : before.HandedOn move)
    (stepped : Reservations.step options before move = some after) : Kept after := by
  cases move with
  | prefill turn =>
    cases turn with
    | call call =>
      cases call with
      | handleSlotReservationResponse message => cases stepped
      | enqueuePrefillFirst request registrationHashes reply =>
        exact Option.some.inj stepped ▸ kept.called _
      | abortRequest taskId => exact Option.some.inj stepped ▸ kept.called _
      | connectionLost => exact Option.some.inj stepped ▸ kept.called _
    | resume frame outcome =>
      simp only [Reservations.step, Handlers.step] at stepped
      split at stepped
      · cases stepped
        exact kept.resumed handed
      · cases stepped
  | chunk work chunk isFinal =>
    simp only [Reservations.step] at stepped
    split at stepped
    · cases stepped
      exact kept.chunked chunk
    · cases stepped
  | handleSlotReservationRequest message found =>
    simp only [Reservations.step] at stepped
    split at stepped
    · exact (kept.of_messages (fun _ there => .inl there) fun _ there => .inl there).resolved stepped
    · cases stepped
  | allocated reservation sessionId =>
    cases reservation with
    | allocating taskId copyMatchedTokens =>
      simp only [Reservations.step] at stepped
      split at stepped
      · cases stepped
        exact (kept.replaces (.allocating taskId copyMatchedTokens) []
          fun _ _ names => names).acquires taskId copyMatchedTokens sessionId
      · cases stepped
    | _ => cases stepped
  | allocationFailed reservation text =>
    cases reservation with
    | allocating taskId copyMatchedTokens =>
      simp only [Reservations.step] at stepped
      split at stepped
      · cases stepped
        exact kept.replaces (.allocating taskId copyMatchedTokens) [.refusing taskId text]
          fun _ _ names => names
      · cases stepped
    | _ => cases stepped
  | respond reservation sent => exact kept.responds stepped
  | handleSlotReservationResponse message =>
    simp only [Reservations.step] at stepped
    split at stepped
    · exact Option.some.inj stepped ▸ kept.answered handed
    · cases stepped
  | loseRequest message =>
    cases stepped
    exact kept.of_messages (fun _ there => .inl there) fun _ there => .inl there
  | loseResponse message =>
    cases stepped
    refine kept.of_messages (fun _ there => .inl there) fun other there => ?_
    by_cases own : other = message
    · subst own
      refine .inr fun taskId sessionId names held => ?_
      obtain ⟨granted, rfl, rfl⟩ := names
      exact handed granted held
    · exact .inl ((List.mem_erase_of_ne own).mpr there)
  | createSession sessionId slotId =>
    simp only [Reservations.step] at stepped
    split at stepped
    · split at stepped
      · rename_i valid fresh
        cases stepped
        refine kept.of_sessions fun other session found => ?_
        by_cases same : other = sessionId
        · subst same
          rw [AList.lookup_insert] at found
          cases found
          exact .inr ⟨rfl, fresh.1⟩
        · rw [AList.lookup_insert_ne same] at found
          exact .inl found
      · cases stepped
    · cases stepped
  | closeSession sessionId =>
    cases stepped
    refine kept.of_sessions fun other session found => .inl ?_
    by_cases same : other = sessionId
    · subst same
      rw [AList.lookup_erase] at found
      cases found
    · rwa [AList.lookup_erase_ne same] at found
  | markInFlight sessionId =>
    simp only [Reservations.step] at stepped
    split at stepped
    · cases stepped
      exact kept.releases fun taskId same => by cases same
    · cases stepped
  | releaseInFlight sessionId =>
    cases stepped
    exact kept.releases fun taskId same => by cases same

end

theorem initial : Kept {} where
  placed _ _ held := by cases held
  collected := rfl
  named := rfl

end Kept

/-- In every run in which each granted answer finds its request and its work is launched, no
session stays in flight for a task of which nothing is left, unless a result names it. -/
theorem no_orphan {servers : Reservations}
    (reached : Reaches (step options) HandedOn {} servers) (taskId : TaskId)
    (sessionId : SessionId) : servers.NoOrphan taskId sessionId := by
  have kept : servers.Kept := reached.invariant Kept .initial
    fun before move after kept handed stepped => kept.step handed stepped
  exact kept.noOrphan taskId sessionId

/-- The slot of a session of which two blocks match. -/
def matchedSlot : DecodeDestinationSlot :=
  .fromAcquiredPrefix "s" 3 64 0

/-- A session is reserved for a request, and the prefill server is told so. -/
def reserveSlot : List Move :=
  [.createSession "s" 3, .prefill (.call (.enqueuePrefillFirst PrefillFirst.request [9] .result)),
    .prefill (.resume (.discovering 0 PrefillFirst.reservation)
      { peers := [PrefillFirst.decodePeer] }),
    .prefill (.resume (.reading 0 PrefillFirst.reservation PrefillFirst.decodePeer) {}),
    .prefill (.resume (.updating 0 PrefillFirst.reservation PrefillFirst.pendingRequest) {}),
    .prefill (.resume (.connecting 0 PrefillFirst.reservation) {}),
    .prefill (.resume (.sending 0 PrefillFirst.reservation) {}),
    .handleSlotReservationRequest PrefillFirst.reservation (.hit "s" 64 0),
    .respond (.responding 5 matchedSlot) true]

/-- The work is launched, and its result names the session. -/
def namedSession : List Move :=
  reserveSlot ++ [.handleSlotReservationResponse (matchedSlot.response 5),
    .prefill (.resume (.applying PrefillFirst.pendingRequest (matchedSlot.response 5)) {}),
    .prefill (.resume (.resolving
      (PrefillFirst.pendingRequest.granted (matchedSlot.response 5))) {}),
    .chunk (PrefillFirst.pendingRequest.granted (matchedSlot.response 5)) { taskId := 5 } true]

theorem namedSession_runs : (runWithin (step {}) HandedOn {} namedSession).isSome = true := by
  decide +kernel

theorem no_orphan_namedSession :
    ((runWithin (step {}) HandedOn {} namedSession).get namedSession_runs).NoOrphan 5 "s" :=
  no_orphan (reaches_get namedSession_runs) 5 "s"

/-- The request is aborted before the answer to its reservation comes. -/
def abortedBeforeAnswer : List Move :=
  reserveSlot ++ [.prefill (.call (.abortRequest 5)),
    .prefill (.resume (.aborting PrefillFirst.pendingRequest 5) {}),
    .prefill (.resume (.stopping 5) {}), .handleSlotReservationResponse (matchedSlot.response 5)]

theorem abortedBeforeAnswer_runs :
    (runWithin (step {}) (fun _ _ => True) {} abortedBeforeAnswer).isSome = true := by
  decide +kernel

def abandoned : Reservations :=
  (runWithin (step {}) (fun _ _ => True) {} abortedBeforeAnswer).get abortedBeforeAnswer_runs

/-- Then the session stays in flight and no result names it. -/
theorem aborted_reservation_orphaned : ¬∀ (options : Options) (servers : Reservations)
    (taskId : TaskId) (sessionId : SessionId),
    Reaches (step options) (fun _ _ => True) {} servers → servers.NoOrphan taskId sessionId := by
  intro claim
  have quiet : abandoned.Quiet 5 := by
    constructor <;> decide +kernel
  have held : abandoned.holder "s" = some (.reserved 5) := by decide +kernel
  have unnamed : ∀ result ∈ abandoned.results, result.sessionId ≠ "s" := by decide +kernel
  obtain ⟨result, made, -, named⟩ :=
    claim {} abandoned 5 "s" (reaches_get abortedBeforeAnswer_runs) quiet held
  exact unnamed result made named

end Reservations

end InferenceServer.Disaggregation
