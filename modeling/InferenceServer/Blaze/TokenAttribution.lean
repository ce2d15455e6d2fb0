import InferenceServer.Blaze.Streams
import InferenceServer.Blaze.Turns

/-! Token attribution. An output carries its slot only, and the runner drains acks
before outputs. With a scheduler that acks a STOP or EVICT only when no output of
the slot is left in its queue, every token goes to the task that produced it. -/
namespace InferenceServer.Blaze

open Machine

namespace Desk

variable {config : BlazeConfig} {d : Desk n} {answer : SchedulerAnswer} {s : Fin n}
variable {response : SchedulerResponse n} {rest : List (OutputMessage n × UInt32)}
  {output : OutputMessage n} {producer : UInt32} {request : ISRequest n}

/-! ## What the runner takes off the queues -/

theorem trafficFor_popResponse {rest : List (SchedulerResponse n)}
    (oldest : d.scheduler.responses = response :: rest) (s : Fin n) :
    d.scheduler.trafficFor s = if SchedulerPort.concerns s response
      then response :: (d.popResponse rest).scheduler.trafficFor s
      else (d.popResponse rest).scheduler.trafficFor s := by
  unfold SchedulerPort.trafficFor
  rw [oldest, List.filter_cons]
  rfl

theorem outsFor_popOutput (oldest : d.scheduler.outputs = (output, producer) :: rest) (s : Fin n) :
    d.scheduler.outsFor s = if output.slotId = s
      then (output, producer) :: (d.popOutput rest).scheduler.outsFor s
      else (d.popOutput rest).scheduler.outsFor s := by
  unfold SchedulerPort.outsFor
  rw [oldest, List.filter_cons]
  simp only [decide_eq_true_eq]
  rfl

section

variable (inStep : InStep config d)
include inStep

/-- A slot that a response does not concern agrees as before. -/
theorem InStep.popResponse_other {rest : List (SchedulerResponse n)}
    (oldest : d.scheduler.responses = response :: rest)
    (other : SchedulerPort.concerns s response = false) :
    AgreesAt config (d.popResponse rest) s := by
  have here := inStep s
  unfold AgreesAt at here
  rw [trafficFor_popResponse oldest s, other] at here
  exact here

/-- The slot a response concerns agreed with the response queued. -/
theorem InStep.popResponse_here {rest : List (SchedulerResponse n)}
    (oldest : d.scheduler.responses = response :: rest)
    (here : SchedulerPort.concerns s response = true) :
    Agrees config (d.slotManager s) (d.scheduler.active s) (d.scheduler.outsFor s)
      (response :: (d.popResponse rest).scheduler.trafficFor s) := by
  have agrees := inStep s
  unfold AgreesAt at agrees
  rwa [trafficFor_popResponse oldest s, if_pos here] at agrees

theorem inStep_response (coupled : Coupled d) {rest : List (SchedulerResponse n)}
    (oldest : d.scheduler.responses = response :: rest)
    (free : response.requestType = .allocate → ∀ s, response.slotId = some s →
      d.slotManager s = .free) :
    InStep config (Desk.response config (d.popResponse rest) answer response) := by
  have popped : (∀ s, SchedulerPort.concerns s response = false) →
      InStep config (d.popResponse rest) :=
    fun nobody s => inStep.popResponse_other oldest (nobody s)
  have others : ∀ s, response.slotId = some s →
      ∀ s', s' ≠ s → AgreesAt config (d.popResponse rest) s' := by
    intro s slot s' differs
    exact inStep.popResponse_other oldest (by simp [SchedulerPort.concerns, slot, differs.symm])
  unfold Desk.response
  cases type : response.requestType with
  | allocate =>
    exact inStep_allocateAck (popped (by simp [SchedulerPort.concerns, type])) (free type)
  | «continue» =>
    have stays := popped (by simp [SchedulerPort.concerns, type])
    simp only
    split
    · exact stays
    · exact stays.of_same rfl rfl rfl rfl
  | submit =>
    cases slot : response.slotId with
    | none => exact popped (by simp [SchedulerPort.concerns, slot])
    | some s =>
      exact inStep_submitError (others s slot) (inStep.popResponse_here oldest
        (by simp [SchedulerPort.concerns, slot, type]))
  | stop =>
    cases slot : response.slotId with
    | none => exact popped (by simp [SchedulerPort.concerns, slot])
    | some s =>
      have ack : ackFor s response.requestType response.requestId response.slotId =
          some (.stop, response.requestId) := by simp [ackFor, type, slot]
      obtain ⟨evictId, latched, phase⟩ := Phase.awaits_stop (coupled.pop_ack oldest ack).1
      have here := inStep.popResponse_here oldest (s := s)
        (by simp [SchedulerPort.concerns, slot, type])
      rw [phase] at here
      cases here with
      | stopping winds =>
        exact inStep_stopAck (others s slot) (winds.done (by simp [type])) phase
  | evict =>
    cases slot : response.slotId with
    | none => exact popped (by simp [SchedulerPort.concerns, slot])
    | some s =>
      have ack : ackFor s response.requestType response.requestId response.slotId =
          some (.evict, response.requestId) := by simp [ackFor, type, slot]
      obtain ⟨owner, phase⟩ := Phase.awaits_evict (coupled.pop_ack oldest ack).1
      have here := inStep.popResponse_here oldest (s := s)
        (by simp [SchedulerPort.concerns, slot, type])
      rw [phase] at here
      cases here with
      | evicting winds =>
        exact inStep_evictAck (others s slot) (winds.done (by simp [type])) phase

section

variable (oldest : d.scheduler.outputs = (output, producer) :: rest)
include oldest

/-- The slot of the oldest output. -/
theorem InStep.popOutput_here :
    Agrees config (d.slotManager output.slotId) (d.scheduler.active output.slotId)
      ((output, producer) :: (d.popOutput rest).scheduler.outsFor output.slotId)
      (d.scheduler.trafficFor output.slotId) := by
  have agrees := inStep output.slotId
  unfold AgreesAt at agrees
  rwa [outsFor_popOutput oldest, if_pos rfl] at agrees

/-- No output comes up for a slot that is FREE or IDLE. -/
theorem InStep.output_awake :
    ¬(d.slotManager output.slotId = .free ∨ d.slotManager output.slotId = .idle) := by
  intro calm
  exact absurd ((inStep.popOutput_here oldest).calm calm).2.1 (by simp)

/-- An output that comes up for a running task is its own. -/
theorem InStep.output_own (running : d.slotManager output.slotId = .running owner) :
    producer = owner := by
  have here := inStep.popOutput_here oldest
  rw [running] at here
  cases here with
  | running serves => exact serves.pop.1

theorem inStep_output {accepts rejects : UInt32} :
    InStep config (Desk.output config (d.popOutput rest) output accepts rejects) := by
  have here := inStep.popOutput_here oldest
  have others : ∀ s', s' ≠ output.slotId → AgreesAt config (d.popOutput rest) s' := by
    intro s' differs
    have agrees := inStep s'
    unfold AgreesAt at agrees
    rwa [outsFor_popOutput oldest, if_neg differs.symm] at agrees
  have stays : AgreesAt config (d.popOutput rest) output.slotId → InStep config (d.popOutput rest) := by
    intro here s'
    by_cases same : s' = output.slotId
    · exact same ▸ here
    · exact others s' same
  unfold Desk.output Desk.phase
  cases phase : d.slotManager output.slotId with
  | running owner =>
    have running : (d.popOutput rest).slotManager output.slotId = .running owner := phase
    rw [phase] at here
    cases here with
    | running serves =>
      obtain ⟨-, next⟩ := serves.pop
      have idled : endsRun config output = true →
          InStep config (setPhase (d.popOutput rest) output.slotId .idle) := by
        intro last
        rw [if_pos last] at next
        exact InStep.update others .idle rfl (fun _ _ => rfl) rfl rfl (agrees_idle next)
      simp only [running]
      split
      · rename_i exhausted
        exact (idled (by simp [endsRun, exhausted])).of_same rfl rfl rfl rfl
      · rename_i within
        split
        · rename_i finished
          exact (idled (by simp [endsRun, finished])).of_same rfl rfl rfl rfl
        · rename_i unfinished
          rw [if_neg (by simp [endsRun, within, unfinished])] at next
          have continues : InStep config (d.popOutput rest) := by
            refine stays ?_
            unfold AgreesAt
            rw [running]
            exact .running next
          exact continues.of_same rfl rfl rfl rfl
  | free => exact absurd (.inl phase) (inStep.output_awake oldest)
  | idle => exact absurd (.inr phase) (inStep.output_awake oldest)
  | stopping owner evictId latched =>
    have waits : (d.popOutput rest).slotManager output.slotId = .stopping owner evictId latched := phase
    rw [phase] at here
    cases here with
    | stopping winds =>
      simp only [waits]
      refine stays ?_
      unfold AgreesAt
      rw [waits]
      exact .stopping winds.dropped
  | evicting ackId owner =>
    have waits : (d.popOutput rest).slotManager output.slotId = .evicting ackId owner := phase
    rw [phase] at here
    cases here with
    | evicting winds =>
      simp only [waits]
      refine stays ?_
      unfold AgreesAt
      rw [waits]
      exact .evicting winds.dropped

end

end

/-! ## What the scheduler puts on the queues -/

/-- A scheduler whose side of one slot changes. -/
theorem InStep.withPort (inStep : InStep config d) {port : SchedulerPort n} (s : Fin n)
    (others : ∀ s', s' ≠ s → port.active s' = d.scheduler.active s' ∧
      port.outsFor s' = d.scheduler.outsFor s' ∧ port.trafficFor s' = d.scheduler.trafficFor s')
    (here : Agrees config (d.slotManager s) (port.active s) (port.outsFor s) (port.trafficFor s)) :
    InStep config { d with scheduler := port } := by
  intro s'
  by_cases same : s' = s
  · exact same ▸ here
  · obtain ⟨active, outs, traffic⟩ := others s' same
    have agrees := inStep s'
    unfold AgreesAt at agrees ⊢
    rw [active, outs, traffic]
    exact agrees

theorem outsFor_emit (port : SchedulerPort n) (output : OutputMessage n) (producer : UInt32)
    (s : Fin n) : (port.emit config output producer).outsFor s =
      if output.slotId = s then port.outsFor s ++ [(output, producer)] else port.outsFor s := by
  unfold SchedulerPort.outsFor SchedulerPort.emit
  rw [List.filter_append, List.filter_singleton]
  by_cases same : output.slotId = s <;> simp [same]

theorem trafficFor_respond (port : SchedulerPort n) (response : SchedulerResponse n)
    (ended : Option (Fin n)) (s : Fin n) : (port.respond response ended).trafficFor s =
      if SchedulerPort.concerns s response then port.trafficFor s ++ [response]
      else port.trafficFor s := by
  unfold SchedulerPort.trafficFor SchedulerPort.respond
  rw [List.filter_append, List.filter_singleton]
  by_cases concerns : SchedulerPort.concerns s response <;> simp [concerns]

section

variable (inStep : InStep config d)
include inStep

/-- The scheduler queues an output of the run it is working on. -/
theorem inStep_emit {run : ActiveRun} (working : d.scheduler.active output.slotId = some run)
    (own : run.task = producer) :
    InStep config { d with scheduler := d.scheduler.emit config output producer } := by
  have here := inStep output.slotId
  unfold AgreesAt at here
  rw [working] at here
  refine inStep.withPort output.slotId (fun s' differs => ⟨?_, ?_, rfl⟩) ?_
  · exact Function.update_of_ne differs ..
  · rw [outsFor_emit, if_neg differs.symm]
  · have active : (d.scheduler.emit config output producer).active output.slotId =
        if endsRun config output then none else some ⟨producer, true⟩ := Function.update_self ..
    have traffic : (d.scheduler.emit config output producer).trafficFor output.slotId =
        d.scheduler.trafficFor output.slotId := rfl
    rw [outsFor_emit, if_pos rfl, active, traffic]
    exact here.emit own

/-- The scheduler rejects the run it has not started on. -/
theorem inStep_reject {run : ActiveRun} {errorCode : Int32}
    (working : d.scheduler.active s = some run) (fresh : run.emitted = false) :
    InStep config { d with scheduler := (d.scheduler.respond
      { requestType := .submit, slotId := some s, errorCode } (some s)) } := by
  have here := inStep s
  unfold AgreesAt at here
  rw [working] at here
  refine inStep.withPort s (fun s' differs => ⟨?_, rfl, ?_⟩) ?_
  · exact Function.update_of_ne differs ..
  · rw [trafficFor_respond, if_neg (by simp [SchedulerPort.concerns, differs.symm])]
  · have active : (d.scheduler.respond { requestType := .submit, slotId := some s, errorCode }
        (some s)).active s = none := Function.update_self ..
    rw [trafficFor_respond, if_pos (by simp [SchedulerPort.concerns]), active]
    exact here.refuse fresh rfl

/-- A response that concerns nobody and ends no run. -/
theorem inStep_respond_other {port : SchedulerPort n}
    (nobody : ∀ s, SchedulerPort.concerns s response = false)
    (active : port.active = d.scheduler.active) (outputs : port.outputs = d.scheduler.outputs)
    (responses : port.responses = d.scheduler.responses) :
    InStep config { d with scheduler := port.respond response none } := by
  intro s
  have here := inStep s
  unfold AgreesAt at here ⊢
  have traffic : (port.respond response none).trafficFor s = d.scheduler.trafficFor s := by
    rw [trafficFor_respond, if_neg (by simp [nobody s]), SchedulerPort.trafficFor, responses]
    rfl
  have outs : (port.respond response none).outsFor s = d.scheduler.outsFor s := by
    rw [SchedulerPort.outsFor, SchedulerPort.respond, outputs]
    rfl
  rw [traffic, outs, SchedulerPort.respond, active]
  exact here

end

/-- While its STOP or EVICT waits at the scheduler, a slot awaits the ack and none is
queued for it. -/
theorem Coupled.waiting (coupled : Coupled d) (waits : request ∈ d.scheduler.awaiting)
    (acks : request.type = .stop ∨ request.type = .evict) (slot : request.slotId = some s) :
    (d.slotManager s).awaits ≠ none ∧
      ∀ response ∈ d.scheduler.trafficFor s, response.requestType = .submit := by
  have owed : ackFor s request.type request.requestId request.slotId =
      some (request.type, request.requestId) := by simp [ackFor, acks, slot]
  have here := coupled s
  unfold SchedulerPort.acks at here
  have member : (request.type, request.requestId) ∈ d.scheduler.awaiting.filterMap fun request =>
      ackFor s request.type request.requestId request.slotId :=
    List.mem_filterMap.mpr ⟨request, waits, owed⟩
  cases awaits : (d.slotManager s).awaits with
  | none =>
    rw [awaits, Option.toList_none, List.append_eq_nil_iff] at here
    rw [here.1] at member
    contradiction
  | some waited =>
    refine ⟨by simp, fun response traffic => ?_⟩
    rw [awaits, Option.toList_some, List.append_eq_singleton_iff] at here
    rcases here with ⟨empty, -⟩ | ⟨-, empty⟩
    · rw [empty] at member
      contradiction
    · obtain ⟨queued, concerns⟩ := List.mem_filter.mp traffic
      have unacked := List.filterMap_eq_nil_iff.mp empty response queued
      obtain ⟨named, type⟩ := of_decide_eq_true concerns
      rcases type with submit | ack
      · exact submit
      · simp [ackFor, ack, named] at unacked

/-- The scheduler acks a STOP or EVICT once no output of the slot is queued. -/
theorem inStep_ack (inStep : InStep config d) (coupled : Coupled d) {position : Nat}
    (waits : d.scheduler.awaiting[position]? = some request)
    (acks : request.type = .stop ∨ request.type = .evict) (slot : request.slotId = some s)
    (answers : response.requestType = request.type ∧ response.slotId = some s)
    (drained : d.scheduler.outsFor s = []) :
    InStep config
      { d with scheduler := (d.scheduler.takeAwaiting position).respond response (some s) } := by
  obtain ⟨awaits, unacked⟩ := coupled.waiting (List.mem_of_getElem? waits) acks slot
  have here := inStep s
  unfold AgreesAt at here
  have concerns : ∀ s', SchedulerPort.concerns s' response = decide (s = s') := by
    intro s'
    rcases acks with stop | evict
    · simp [SchedulerPort.concerns, answers.1, answers.2, stop]
    · simp [SchedulerPort.concerns, answers.1, answers.2, evict]
  refine inStep.withPort s (fun s' differs => ⟨?_, rfl, ?_⟩) ?_
  · exact Function.update_of_ne differs ..
  · rw [trafficFor_respond, if_neg (by simp [concerns, differs.symm])]
    rfl
  · have active : ((d.scheduler.takeAwaiting position).respond response (some s)).active s = none :=
      Function.update_self ..
    have outs : ((d.scheduler.takeAwaiting position).respond response (some s)).outsFor s =
        d.scheduler.outsFor s := rfl
    rw [trafficFor_respond, if_pos (by simp [concerns]), active, outs]
    exact here.ack awaits unacked drained

/-- The scheduler drops the outputs of a slot whose STOP or EVICT it is to answer. -/
theorem inStep_purge (inStep : InStep config d) (coupled : Coupled d)
    (waits : request ∈ d.scheduler.awaiting) (acks : request.type = .stop ∨ request.type = .evict)
    (slot : request.slotId = some s) :
    InStep config { d with scheduler := d.scheduler.purge s } := by
  have here := inStep s
  unfold AgreesAt at here
  refine inStep.withPort s (fun s' differs => ⟨rfl, ?_, rfl⟩) ?_
  · unfold SchedulerPort.outsFor SchedulerPort.purge
    rw [List.filter_filter]
    refine List.filter_congr fun out _ => ?_
    by_cases same : out.1.slotId = s' <;> simp [same, differs]
  · have purged : (d.scheduler.purge s).outsFor s = [] := by
      unfold SchedulerPort.outsFor SchedulerPort.purge
      rw [List.filter_filter, List.filter_eq_nil_iff]
      simp
    rw [purged]
    exact here.purge (coupled.waiting waits acks slot).1

end Desk

namespace World

variable {config : BlazeConfig} {w w' : World n}

/-- The scheduler keeps to its part: an output comes from the run it is working on, a
run is rejected before its first output, and outputs are dropped only of a slot
whose STOP or EVICT it has yet to answer. -/
def orderly (w : World n) : Label n → Bool
  | .emit output producer =>
    match w.runner.scheduler.active output.slotId with
    | some run => run.task = producer
    | none => false
  | .reject s _ =>
    match w.runner.scheduler.active s with
    | some run => !run.emitted
    | none => false
  | .purge s => w.runner.scheduler.awaiting.any fun request =>
      (request.type = .stop ∨ request.type = .evict) ∧ request.slotId = some s
  | _ => true

/-- A step the scheduler may take, or one that is not its own. -/
def Orderly (w : World n) (label : Label n) : Prop := w.orderly label = true

/-- A STOP or EVICT is answered only when no output of its slot is queued. -/
def acksDrained (w : World n) : Label n → Bool
  | .respond position _ =>
    match w.runner.scheduler.awaiting[position]? with
    | some { slotId := some s, .. } => (w.runner.scheduler.outsFor s).isEmpty
    | _ => true
  | _ => true

/-- The scheduler is orderly and drops the outputs of a slot before it acks. -/
def Purges (w : World n) (label : Label n) : Prop :=
  Orderly w label ∧ w.acksDrained label = true

instance (w : World n) (label : Label n) : Decidable (Orderly w label) :=
  inferInstanceAs (Decidable (_ = _))

instance (w : World n) (label : Label n) : Decidable (Purges w label) :=
  inferInstanceAs (Decidable (_ ∧ _))

structure TokensAttributed (w : World n) : Prop where
  /-- a token for an output went to the task whose run produced it -/
  own : ∀ delivery ∈ w.history.delivered, delivery.1 = delivery.2
  /-- no output was found on a slot that is IDLE or FREE -/
  awake : .assertion .outputNotRunning ∉ w.runner.log

/-- The runner and a scheduler that drains outputs before it acks stay in step. -/
theorem inStep_next {label : Label n} (sound : Sound config w)
    (inStep : Desk.InStep config w.desk) (purges : Purges w label)
    (turn : Turn config w label w') : Desk.InStep config w'.desk := by
  obtain ⟨orderly, drained⟩ := purges
  have handled_inStep : ∀ {d : Desk n} {r : BlazeRunner n}, r.desk = d → Desk.InStep config d →
      Desk.InStep config r.desk := fun handled kept => handled ▸ kept
  cases turn with
  | submit | manage | cancel | drain | skip => exact inStep
  | @respond position slotId request waiting =>
    have waits : w.runner.scheduler.awaiting[position]? = some request := waiting
    rcases sound.routed.awaiting request (List.mem_of_getElem? waiting) with allocate | ⟨acks, named⟩
    · rw [if_pos allocate]
      refine Desk.inStep_respond_other inStep (fun s => ?_) rfl rfl rfl
      simp [SchedulerPort.concerns, answerTo, allocate]
    · obtain ⟨s, slot⟩ := Option.isSome_iff_exists.mp named
      have other : request.type ≠ .allocate := by
        rcases acks with stop | evict
        · simp [stop]
        · simp [evict]
      have empty : w.runner.scheduler.outsFor s = [] := by
        obtain ⟨type, requestId, slotId⟩ := request
        simp only at slot
        subst slot
        simpa [acksDrained, waits, List.isEmpty_iff] using drained
      rw [if_neg other, slot]
      exact Desk.inStep_ack inStep sound.coupled waiting acks slot
        ⟨rfl, by simp [answerTo, other, slot]⟩ empty
  | @reject s errorCode =>
    simp only [Orderly, World.orderly] at orderly
    split at orderly
    · rename_i run working
      exact Desk.inStep_reject inStep working (by simpa using orderly)
    · contradiction
  | report =>
    exact Desk.inStep_respond_other inStep (by simp [SchedulerPort.concerns]) rfl rfl rfl
  | @emit output producer =>
    simp only [Orderly, World.orderly] at orderly
    split at orderly
    · rename_i run working
      exact Desk.inStep_emit inStep working (by simpa using orderly)
    · contradiction
  | @purge s =>
    simp only [Orderly, World.orderly, List.any_eq_true, decide_eq_true_eq] at orderly
    obtain ⟨request, waits, acks, slot⟩ := orderly
    exact Desk.inStep_purge inStep sound.coupled waits acks slot
  | response here room oldest expected stores handled =>
    exact handled_inStep handled (Desk.inStep_response inStep sound.coupled oldest expected.free)
  | output here oldest stores handled =>
    exact handled_inStep handled (Desk.inStep_output inStep oldest)
  | @memoryRetry answer given r here pending stores handled =>
    have taken : Desk.InStep config w.desk.takePendingMemoryTask := inStep.of_same rfl rfl rfl rfl
    exact handled_inStep handled (Desk.inStep_memory taken)
  | memory here pending oldest stores handled =>
    exact handled_inStep handled (Desk.inStep_memory inStep)
  | @cancelRetry answer cancelled r here pending stores handled =>
    have taken : Desk.InStep config w.desk.takePendingCancel := inStep.of_same rfl rfl rfl rfl
    exact handled_inStep handled (Desk.inStep_cancel taken)
  | cancelDrained here stores handled => exact handled_inStep handled (Desk.inStep_cancel inStep)
  | @taskRetry answer task s r here pending named stores handled =>
    have dropped : Desk.InStep config w.desk.dropPendingTask := inStep.of_same rfl rfl rfl rfl
    exact handled_inStep handled (Desk.inStep_task dropped)
  | task here pending oldest named stores handled =>
    exact handled_inStep handled (Desk.inStep_task inStep)

/-- Not an output found on a slot that is IDLE or FREE. -/
private def seesRunning (effect : Effect n) : Bool := effect ≠ .assertion .outputNotRunning

private theorem seesRunning_of_quiet (effect : Effect n) (quiet : effect.quiet) :
    seesRunning effect := by
  cases effect with
  | assertion failed => cases failed <;> simp_all [Effect.quiet, seesRunning]
  | token | push | allocateReply | evictedRunning => rfl

private theorem seesRunning_of_quietFor (taskId : UInt32) (effect : Effect n)
    (quiet : effect.quietFor taskId) : seesRunning effect := by
  cases effect with
  | push => rfl
  | assertion => exact seesRunning_of_quiet _ quiet
  | token | allocateReply | evictedRunning => rfl

/-- The tokens of an output went to the task that produced it. -/
theorem Desk.InStep.delivered (inStep : Desk.InStep config w.desk) {output : OutputMessage n}
    {producer accepts rejects : UInt32} {rest : List (OutputMessage n × UInt32)}
    {r : BlazeRunner n} (oldest : w.desk.scheduler.outputs = (output, producer) :: rest)
    (handled : r.desk = Desk.output config (w.desk.popOutput rest) output accepts rejects) :
    ∀ taskId ∈ (tokenTasks r.log).drop (tokenTasks w.runner.log).length, taskId = producer := by
  have logged : r.log = (Desk.output config (w.desk.popOutput rest) output accepts rejects).log :=
    congrArg Runner.log handled
  have same : (w.desk.popOutput rest).log = w.runner.log := rfl
  have adds := Desk.adds_output config (w.desk.popOutput rest) output accepts rejects
  cases phase : w.desk.slotManager output.slotId with
  | running owner =>
    have running : (w.desk.popOutput rest).slotManager output.slotId = .running owner := phase
    simp only [running] at adds
    obtain ⟨pushed, task, log⟩ := adds
    have own := inStep.output_own oldest phase
    rw [logged, log, same]
    simp [tokenTasks, List.filterMap_append, task, own]
  | free => exact absurd (.inl phase) (inStep.output_awake oldest)
  | idle => exact absurd (.inr phase) (inStep.output_awake oldest)
  | stopping owner evictId latched =>
    have waits : (w.desk.popOutput rest).slotManager output.slotId =
      .stopping owner evictId latched := phase
    simp only [waits] at adds
    rw [logged, adds, same]
    simp
  | evicting ackId owner =>
    have waits : (w.desk.popOutput rest).slotManager output.slotId = .evicting ackId owner := phase
    simp only [waits] at adds
    rw [logged, adds, same]
    simp

theorem TokensAttributed.next {label : Label n} (attributed : TokensAttributed w)
    (inStep : Desk.InStep config w.desk) (turn : Turn config w label w') :
    TokensAttributed w' where
  own := by
    cases turn with
    | @output answer drained output producer accepts rejects rest r here oldest stores handled =>
      intro delivery member
      rcases List.mem_append.mp member with old | new
      · exact attributed.own delivery old
      · obtain ⟨taskId, pushed, rfl⟩ := List.mem_map.mp new
        exact Desk.InStep.delivered inStep oldest handled taskId pushed
    | submit | manage | cancel | respond | reject | report | emit | purge | drain | skip =>
      exact attributed.own
    | response | memoryRetry | memory | cancelRetry | cancelDrained | taskRetry | task =>
      exact attributed.own
  awake := by
    intro seen
    have adds : Desk.Adds seesRunning w.desk w'.desk :=
      turn.adds seesRunning_of_quiet (fun _ task _ => seesRunning_of_quietFor task.taskId)
        (fun task _ => seesRunning_of_quietFor task.taskId) (fun _ => rfl)
        fun output producer rest oldest calm => absurd calm (inStep.output_awake oldest)
    rcases adds.mem seen with old | new
    · exact attributed.awake old
    · simp [seesRunning] at new

/-- Token attribution: with a scheduler that drains the outputs of a slot before it
acks a STOP or EVICT, every token goes to the task whose run produced it, and no
output comes up for a slot that is IDLE or FREE. -/
theorem tokens_attributed (reached : Reaches (step config) Purges (initial n) w) :
    TokensAttributed w := by
  have kept := reached.invariant
    (fun w => Sound config w ∧ Desk.InStep config w.desk ∧ TokensAttributed w)
    ⟨initial_sound config n, Desk.initial_inStep config n, by simp [initial], by
      simp [initial, Runner.initial]⟩
    fun before label after ⟨sound, inStep, attributed⟩ purges stepped =>
      ⟨sound.step stepped, inStep_next sound inStep purges (sound.turn stepped),
        attributed.next inStep (sound.turn stepped)⟩
  exact kept.2.2

/-- Task 1 has an output queued on slot 0 when it is cancelled, and task 2 is latched
until the STOP ack comes. -/
def outputLeft : List (Label 2) :=
  allocateBoth ++ [.submit { taskId := 1, kvCacheSlot := 0 }] ++ ticks 7 ++
    [.cancel 1, .submit { taskId := 2, kvCacheSlot := 0 }] ++ ticks 2 ++
    [.emit { slotId := firstSlot, tokenId := 7 } 1] ++ ticks 6

theorem outputLeft_purged : (runWithin (step decodeConfig) Purges (initial 2)
    (outputLeft ++ [.purge firstSlot, .respond 0 none] ++ ticks 3)).isSome = true := by decide

theorem tokens_attributed_outputLeft : TokensAttributed
    ((runWithin (step decodeConfig) Purges (initial 2)
      (outputLeft ++ [.purge firstSlot, .respond 0 none] ++ ticks 3)).get outputLeft_purged) :=
  tokens_attributed (reaches_get outputLeft_purged)

theorem outputLeft_acked : (runWithin (step decodeConfig) Orderly (initial 2)
    (outputLeft ++ [.respond 0 none] ++ ticks 3)).isSome = true := by decide

/-- An output left behind by the STOP ack goes to the task started after it. -/
theorem tokens_not_attributed :
    ¬∀ (config : BlazeConfig) (n : Nat) (w : World n),
      Reaches (step config) Orderly (initial n) w → TokensAttributed w := by
  intro attributed
  have own := (attributed _ _ _ (reaches_get outputLeft_acked)).own (2, 1) (by decide)
  exact absurd own (by decide)

end World

end InferenceServer.Blaze
