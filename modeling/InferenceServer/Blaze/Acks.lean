import InferenceServer.Blaze.Desk
import InferenceServer.Blaze.World

/-! Acks. The STOP and EVICT acks the scheduler still owes a slot are exactly the
one the slot waits for, whatever the order of its answers. -/
namespace InferenceServer.Blaze

/-- What a request or response of slot `s` acks, when it is a STOP or an EVICT. -/
def ackFor (s : Fin n) (type : RequestType) (requestId : UInt32) (slotId : Option (Fin n)) :
    Option (RequestType × UInt32) :=
  if (type = .stop ∨ type = .evict) ∧ slotId = some s then some (type, requestId) else none

namespace SchedulerPort

/-- The acks owed to a slot: of requests not answered yet and of responses not
drained yet. -/
def acks (port : SchedulerPort n) (s : Fin n) : List (RequestType × UInt32) :=
  (port.awaiting.filterMap fun request =>
      ackFor s request.type request.requestId request.slotId) ++
    port.responses.filterMap fun response =>
      ackFor s response.requestType response.requestId response.slotId

section

variable (port : SchedulerPort n)
include port

theorem acks_accept_task {request : ISRequest n} {task : UInt32} (named : request.slotId = some s')
    (s : Fin n) : (port.accept request (some task)).acks s = port.acks s := by
  simp [accept, named, acks]

theorem acks_accept_other {request : ISRequest n}
    (other : ackFor s request.type request.requestId request.slotId = none) :
    (port.accept request none).acks s = port.acks s := by
  simp [accept, acks, other]

theorem acks_accept_ack {request : ISRequest n}
    (ack : ackFor s request.type request.requestId request.slotId = some owed)
    (none_owed : port.acks s = []) : (port.accept request none).acks s = [owed] := by
  simp only [acks, List.append_eq_nil_iff] at none_owed
  simp [accept, acks, ack, none_owed.1, none_owed.2]

end

end SchedulerPort

/-- The ack a phase waits for. -/
def Phase.awaits : Phase → Option (RequestType × UInt32)
  | .stopping task .. => some (.stop, task)
  | .evicting ackId _ => some (.evict, ackId)
  | _ => none

theorem Phase.awaits_stop {phase : Phase} (awaits : phase.awaits = some (.stop, task)) :
    ∃ evict latched, phase = .stopping task evict latched := by
  cases phase <;> simp_all [Phase.awaits]

theorem Phase.awaits_evict {phase : Phase} (awaits : phase.awaits = some (.evict, requestId)) :
    ∃ owner, phase = .evicting requestId owner := by
  cases phase <;> simp_all [Phase.awaits]

namespace Desk

variable {config : BlazeConfig} {d d' : Desk n} {answer : SchedulerAnswer} {s : Fin n}
variable {response : SchedulerResponse n} {rest : List (SchedulerResponse n)}
  {request : ManageMemoryTask n}

/-- Every slot is owed exactly the ack it waits for. -/
def Coupled (d : Desk n) : Prop :=
  ∀ s, d.scheduler.acks s = (d.slotManager s).awaits.toList

/-- Every slot but one, which is owed nothing. -/
def CoupledExcept (d : Desk n) (s : Fin n) : Prop :=
  d.scheduler.acks s = [] ∧ ∀ s', s' ≠ s → d.scheduler.acks s' = (d.slotManager s').awaits.toList

theorem initial_coupled (n : Nat) : Coupled (initial n) := fun _ => rfl

/-- What owes and awaits the same stays coupled. -/
theorem Coupled.of_same (coupled : Coupled d) (owed : ∀ s, d'.scheduler.acks s = d.scheduler.acks s)
    (awaited : ∀ s, (d'.slotManager s).awaits = (d.slotManager s).awaits) : Coupled d' := by
  intro s
  rw [owed, awaited, coupled s]

theorem CoupledExcept.update (except : CoupledExcept d s) (phase : Phase)
    (owed : ∀ s', s' ≠ s → d'.scheduler.acks s' = d.scheduler.acks s')
    (here : d'.scheduler.acks s = phase.awaits.toList)
    (moved : d'.slotManager = Function.update d.slotManager s phase) : Coupled d' := by
  intro s'
  by_cases same : s' = s
  · subst same
    simpa [moved] using here
  · rw [moved, Function.update_of_ne same, owed s' same, except.2 s' same]

theorem Coupled.except (coupled : Coupled d) (calm : (d.slotManager s).awaits = none) :
    CoupledExcept d s :=
  ⟨by rw [coupled s, calm]; rfl, fun s' _ => coupled s'⟩

theorem CoupledExcept.setPhase (except : CoupledExcept d s) {phase : Phase}
    (calm : phase.awaits = none) : Coupled (setPhase d s phase) :=
  except.update phase (fun _ _ => rfl) (by rw [calm]; exact except.1) rfl

theorem Coupled.setPhase (coupled : Coupled d) {phase : Phase}
    (same : phase.awaits = (d.slotManager s).awaits) : Coupled (setPhase d s phase) := by
  refine coupled.of_same (fun _ => rfl) fun s' => ?_
  simp only [setPhase_slotManager, Function.update_apply]
  split
  · rename_i here
    rw [here, same]
  · rfl

/-- An ack that is due is the one its slot waits for, and then no longer owed. -/
theorem Coupled.pop_ack (coupled : Coupled d) (oldest : d.scheduler.responses = response :: rest)
    (ack : ackFor s response.requestType response.requestId response.slotId = some owed) :
    (d.slotManager s).awaits = some owed ∧ CoupledExcept (d.popResponse rest) s := by
  have here := coupled s
  simp only [SchedulerPort.acks, oldest, List.filterMap_cons, ack] at here
  have nowhere : ∀ s', s' ≠ s →
      ackFor s' response.requestType response.requestId response.slotId = none := by
    intro s' differs
    unfold ackFor at ack ⊢
    split at ack
    · rename_i stops
      rw [if_neg]
      rintro ⟨-, slot⟩
      exact differs (Option.some.inj (slot.symm.trans stops.2))
    · contradiction
  have elsewhere : ∀ s', s' ≠ s →
      (d.popResponse rest).scheduler.acks s' = (d.slotManager s').awaits.toList := by
    intro s' differs
    rw [← coupled s']
    simp [SchedulerPort.acks, oldest, Runner.popResponse, nowhere s' differs]
  cases awaits : (d.slotManager s).awaits with
  | none => simp [awaits] at here
  | some waited =>
    rw [awaits, Option.toList_some, List.append_eq_singleton_iff] at here
    rcases here with ⟨waiting, due⟩ | ⟨-, due⟩
    · obtain ⟨same, others⟩ := List.cons.inj due
      refine ⟨by rw [same], ?_, elsewhere⟩
      simp [SchedulerPort.acks, Runner.popResponse, waiting, others]
    · contradiction

/-- Taking any other response off the queue leaves the acks owed. -/
theorem Coupled.pop_other (coupled : Coupled d) (oldest : d.scheduler.responses = response :: rest)
    (other : response.requestType ≠ .stop ∧ response.requestType ≠ .evict) :
    Coupled (d.popResponse rest) := by
  refine coupled.of_same (fun s => ?_) fun _ => rfl
  simp [SchedulerPort.acks, oldest, Runner.popResponse, ackFor, other.1, other.2]

@[simp] theorem evictPendingTask_scheduler (config : BlazeConfig) (d : Desk n) (s : Fin n) :
    (d.evictPendingTask config s).scheduler = d.scheduler := by
  unfold Runner.evictPendingTask
  repeat' split
  all_goals rfl

@[simp] theorem closeLatched_scheduler (d : Desk n) (latched : Option Sequence) :
    (closeLatched d latched).scheduler = d.scheduler := by
  cases latched <;> rfl

theorem coupled_evictHeld (coupled : Coupled d) {owner : Option UInt32}
    (calm : (d.slotManager s).awaits = none) :
    Coupled (evictHeld config d answer request s owner) := by
  have except := coupled.except calm
  unfold evictHeld
  simp only
  split
  · rename_i accepts
    have port : ∀ e : Desk n, e.scheduler = (d.pushRequest answer
        (makeEvictRequest request.taskId s) none).scheduler →
        e.slotManager = d.slotManager → Coupled (setPhase e s (.evicting request.taskId owner)) := by
      intro e scheduler slots
      refine except.update (.evicting request.taskId owner) ?_ ?_ (by simp [slots])
      · intro s' differs
        simp only [setPhase, scheduler, Runner.pushRequest, accepts, ↓reduceIte]
        refine SchedulerPort.acks_accept_other _ ?_
        simp [ackFor, makeEvictRequest, Ne.symm differs]
      · simp only [setPhase, scheduler, Runner.pushRequest, accepts, ↓reduceIte]
        refine SchedulerPort.acks_accept_ack _ ?_ except.1
        simp [ackFor, makeEvictRequest]
    cases owner <;> exact port _ (by simp [Runner.note]) (by simp)
  · rename_i refused
    exact coupled.of_same (fun _ => by simp [Runner.deferMemoryTask, Runner.pushRequest, refused])
      fun _ => rfl

theorem coupled_evict (coupled : Coupled d) : Coupled (evict config d answer request s) := by
  unfold evict Desk.phase
  cases phase : d.slotManager s with
  | idle => exact coupled_evictHeld coupled (by rw [phase]; rfl)
  | running => exact coupled_evictHeld coupled (by rw [phase]; rfl)
  | stopping task evictId latched =>
    have closed : Coupled (closeLatched d latched) := coupled.of_same (by simp) (by simp)
    exact closed.setPhase (by simp [phase, Phase.awaits])
  | evicting | free => exact coupled

theorem coupled_memory (coupled : Coupled d) : Coupled (memory config d answer request) := by
  unfold memory
  split
  · unfold Runner.handleAllocateRequest
    simp only
    split
    · rename_i accepts
      refine coupled.of_same (fun s => ?_) fun _ => rfl
      simp only [Runner.pushRequest, accepts, ↓reduceIte]
      exact SchedulerPort.acks_accept_other _ (by simp [ackFor, makeAllocateRequest])
    · rename_i refused
      exact coupled.of_same
        (fun _ => by simp [Runner.deferMemoryTask, Runner.pushRequest, refused]) fun _ => rfl
  · exact coupled_evict coupled
  · exact coupled
  · exact coupled

theorem taskRequest_slotId (config : BlazeConfig) (s : Fin n) (task : Sequence) :
    (Runner.taskRequest config s task).slotId = some s := by
  unfold Runner.taskRequest makeSubmitRequest makeContinueRequest fillSequenceFields
  repeat' split
  all_goals rfl

theorem coupled_task (coupled : Coupled d) {given : Sequence} :
    Coupled (Desk.task config d answer given s) := by
  unfold Desk.task Desk.phase
  have pushed : ∀ s', (d.pushRequest answer (Runner.taskRequest config s given)
      (some given.taskId)).scheduler.acks s' = d.scheduler.acks s' := by
    intro s'
    unfold Runner.pushRequest
    simp only
    split
    · exact SchedulerPort.acks_accept_task _ (taskRequest_slotId config s given) s'
    · rfl
  cases phase : d.slotManager s with
  | idle =>
    simp only
    split
    · have moved : Coupled (d.pushRequest answer (Runner.taskRequest config s given)
          (some given.taskId)) := coupled.of_same pushed fun _ => rfl
      exact moved.setPhase (by simp [phase, Phase.awaits])
    · exact coupled.of_same pushed fun _ => rfl
  | stopping => exact coupled.setPhase (by simp [phase, Phase.awaits])
  | evicting | free | running => exact coupled

/-- A STOP ack is handled once it is no longer owed. -/
theorem coupled_stopAck (except : CoupledExcept d s)
    (stopping : d.slotManager s = .stopping owner evictId latched) :
    Coupled (stopAck config d answer s) := by
  unfold stopAck Desk.phase
  rw [stopping]
  have idle : ∀ latched, Coupled (setPhase (closeLatched d latched) s .idle) := fun latched =>
    CoupledExcept.setPhase ⟨by simpa using except.1, by simpa using except.2⟩ rfl
  cases evictId with
  | some evictId => exact coupled_evict (idle latched)
  | none =>
    cases latched with
    | none => exact idle none
    | some latched => exact coupled_task (idle none)

theorem coupled_evictAck (except : CoupledExcept d s)
    (evicting : d.slotManager s = .evicting ackId owner) : Coupled (evictAck d s) := by
  unfold evictAck Desk.phase
  rw [evicting]
  exact except.setPhase rfl

section

variable (coupled : Coupled d)
include coupled

theorem coupled_allocateAck {requestId : UInt32} {slotId : Option (Fin n)}
    (free : ∀ s, slotId = some s → d.slotManager s = .free) :
    Coupled (allocateAck d requestId slotId) := by
  cases slotId with
  | none => exact coupled
  | some s => exact coupled.setPhase (by simp [free s rfl, Phase.awaits])

theorem coupled_submitError : Coupled (submitError d s) := by
  unfold submitError Desk.phase
  cases phase : d.slotManager s with
  | running => exact coupled.setPhase (by simp [phase, Phase.awaits])
  | free | idle | stopping | evicting => exact coupled

theorem coupled_output {output : OutputMessage n} {accepts rejects : UInt32} :
    Coupled (Desk.output config d output accepts rejects) := by
  unfold Desk.output Desk.phase
  cases phase : d.slotManager output.slotId with
  | running =>
    have idle : Coupled (setPhase d output.slotId .idle) :=
      coupled.setPhase (by simp [phase, Phase.awaits])
    simp only
    split
    · exact idle
    · split
      · exact idle
      · exact coupled
  | free | idle | stopping | evicting => exact coupled

theorem coupled_cancel {cancelled : UInt32} : Coupled (cancel d answer cancelled) := by
  unfold cancel
  split
  · exact coupled
  · split
    · exact coupled
    · rename_i s found
      have running := slotRunning_some found
      have except := coupled.except (s := s) (by rw [running]; rfl)
      simp only
      split
      · rename_i accepts
        refine except.update (.stopping cancelled none none) ?_ ?_ rfl
        · intro s' differs
          simp only [Runner.pushToken, Runner.note, setPhase, Runner.pushRequest, accepts,
            ↓reduceIte]
          refine SchedulerPort.acks_accept_other _ ?_
          simp [ackFor, makeStopRequest, Ne.symm differs]
        · simp only [Runner.pushToken, Runner.note, setPhase, Runner.pushRequest, accepts,
            ↓reduceIte]
          refine SchedulerPort.acks_accept_ack _ ?_ except.1
          simp [ackFor, makeStopRequest]
      · rename_i refused
        exact coupled.of_same
          (fun _ => by simp [Runner.deferCancel, Runner.pushRequest, refused]) fun _ => rfl

end

/-- An answered request is owed as a response. -/
theorem acks_answered (port : SchedulerPort n) {request : ISRequest n} {position : Nat}
    (ended : Option (Fin n)) (s : Fin n) (waiting : port.awaiting[position]? = some request)
    (answered : ackFor s response.requestType response.requestId response.slotId =
      ackFor s request.type request.requestId request.slotId) :
    List.Perm (((port.takeAwaiting position).respond response ended).acks s) (port.acks s) := by
  obtain ⟨inside, found⟩ := List.getElem?_eq_some_iff.mp waiting
  have taken := List.getElem_cons_eraseIdx_perm inside
  rw [found] at taken
  have owed := taken.filterMap fun request =>
    ackFor s request.type request.requestId request.slotId
  simp only [SchedulerPort.acks, SchedulerPort.respond, SchedulerPort.takeAwaiting,
    List.filterMap_append, List.filterMap_cons, List.filterMap_nil, answered] at owed ⊢
  refine List.Perm.trans ?_ (owed.append_right _)
  cases ackFor s request.type request.requestId request.slotId with
  | none => simp
  | some ack =>
    simp only [List.cons_append, ← List.append_assoc]
    exact List.perm_append_singleton _ _

theorem Coupled.answered (coupled : Coupled d) {request : ISRequest n} {position : Nat}
    {ended : Option (Fin n)} (waiting : d.scheduler.awaiting[position]? = some request)
    (answered : ∀ s, ackFor s response.requestType response.requestId response.slotId =
      ackFor s request.type request.requestId request.slotId) :
    Coupled { d with scheduler := (d.scheduler.takeAwaiting position).respond response ended } := by
  intro s
  have same := acks_answered d.scheduler ended s waiting (answered s)
  rw [coupled s] at same
  cases awaits : (d.slotManager s).awaits with
  | none => simpa [awaits] using same
  | some ack => simpa [awaits] using same

/-- Responses of the scheduler's own accord ack nothing. -/
theorem Coupled.respond (coupled : Coupled d) {ended : Option (Fin n)}
    (other : response.requestType ≠ .stop ∧ response.requestType ≠ .evict) :
    Coupled { d with scheduler := d.scheduler.respond response ended } := by
  refine coupled.of_same (fun s => ?_) fun _ => rfl
  simp [SchedulerPort.acks, SchedulerPort.respond, ackFor, other.1, other.2]

/-- A response is handled once it is taken off its queue. -/
theorem coupled_response (coupled : Coupled d) (oldest : d.scheduler.responses = response :: rest)
    (free : response.requestType = .allocate → ∀ s, response.slotId = some s →
      d.slotManager s = .free) :
    Coupled (Desk.response config (d.popResponse rest) answer response) := by
  unfold Desk.response
  cases type : response.requestType with
  | allocate =>
    exact coupled_allocateAck (coupled.pop_other oldest (by simp [type])) (free type)
  | submit =>
    have popped := coupled.pop_other oldest (by simp [type])
    cases response.slotId with
    | none => exact popped
    | some s => exact coupled_submitError popped
  | «continue» =>
    have popped := coupled.pop_other oldest (by simp [type])
    simp only
    split <;> exact popped
  | evict =>
    cases slot : response.slotId with
    | none =>
      refine coupled.of_same (fun s => ?_) fun _ => rfl
      simp [SchedulerPort.acks, oldest, Runner.popResponse, ackFor, slot]
    | some s =>
      have ack : ackFor s response.requestType response.requestId response.slotId =
          some (.evict, response.requestId) := by simp [ackFor, type, slot]
      obtain ⟨waits, except⟩ := coupled.pop_ack oldest ack
      obtain ⟨owner, phase⟩ := Phase.awaits_evict waits
      exact coupled_evictAck except phase
  | stop =>
    cases slot : response.slotId with
    | none =>
      refine coupled.of_same (fun s => ?_) fun _ => rfl
      simp [SchedulerPort.acks, oldest, Runner.popResponse, ackFor, slot]
    | some s =>
      have ack : ackFor s response.requestType response.requestId response.slotId =
          some (.stop, response.requestId) := by simp [ackFor, type, slot]
      obtain ⟨waits, except⟩ := coupled.pop_ack oldest ack
      obtain ⟨evictId, latched, phase⟩ := Phase.awaits_stop waits
      exact coupled_stopAck except phase

end Desk

end InferenceServer.Blaze
