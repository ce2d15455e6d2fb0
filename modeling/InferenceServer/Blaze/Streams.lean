import InferenceServer.Blaze.Acks

/-! What the scheduler has under way for a slot and what the runner takes the slot to
be doing. The scheduler's side is the run it is working on and what it has queued:
outputs in one queue, responses in the other. `Agrees` lists the combinations that
go with each phase, and every handler moves from one of them to another. -/
namespace InferenceServer.Blaze

/-- An output that is the last one of its run. -/
def endsRun (config : BlazeConfig) (output : OutputMessage n) : Bool :=
  output.ctxExhausted || Runner.outputFinished config.kind output

namespace SchedulerPort

/-- The outputs of a slot that nobody has taken yet. -/
def outsFor (port : SchedulerPort n) (s : Fin n) : List (OutputMessage n × UInt32) :=
  port.outputs.filter (·.1.slotId = s)

/-- A response that bears on the run of a slot: it rejects a SUBMIT or acks a STOP
or EVICT. -/
def concerns (s : Fin n) (response : SchedulerResponse n) : Bool :=
  response.slotId = some s ∧ (response.requestType = .submit ∨ response.requestType = .stop ∨
    response.requestType = .evict)

def trafficFor (port : SchedulerPort n) (s : Fin n) : List (SchedulerResponse n) :=
  port.responses.filter (concerns s)

end SchedulerPort

/-- The scheduler's side of a running slot: it is working on the task, has queued
the last output of its run, or has rejected it. -/
inductive Serves (config : BlazeConfig) (task : UInt32) :
    Option ActiveRun → List (OutputMessage n × UInt32) → List (SchedulerResponse n) → Prop
  | working {emitted : Bool} {outs : List (OutputMessage n × UInt32)}
      (own : ∀ out ∈ outs, out.2 = task) (more : ∀ out ∈ outs, ¬endsRun config out.1)
      (fresh : emitted = false → outs = []) : Serves config task (some ⟨task, emitted⟩) outs []
  | finished {outs : List (OutputMessage n × UInt32)} {final : OutputMessage n}
      (own : ∀ out ∈ outs, out.2 = task) (more : ∀ out ∈ outs, ¬endsRun config out.1)
      (last : endsRun config final) : Serves config task none (outs ++ [(final, task)]) []
  | rejected {response : SchedulerResponse n} (rejects : response.requestType = .submit) :
      Serves config task none [] [response]

/-- The scheduler's side of a slot that awaits an ack: the ack comes last, after the
run has ended and its outputs are gone. -/
structure WindsDown (active : Option ActiveRun) (outs : List (OutputMessage n × UInt32))
    (traffic : List (SchedulerResponse n)) : Prop where
  ordered : traffic.Pairwise fun response _ => response.requestType = .submit
  acked : (∃ ack ∈ traffic, ack.requestType ≠ .submit) → active = none ∧ outs = []

inductive Agrees (config : BlazeConfig) :
    Phase → Option ActiveRun → List (OutputMessage n × UInt32) → List (SchedulerResponse n) → Prop
  | free : Agrees config .free none [] []
  | idle : Agrees config .idle none [] []
  | running {task : UInt32} {active : Option ActiveRun} {outs : List (OutputMessage n × UInt32)}
      {traffic : List (SchedulerResponse n)} (serves : Serves config task active outs traffic) :
      Agrees config (.running task) active outs traffic
  | stopping {task : UInt32} {evict : Option UInt32} {latched : Option Sequence}
      {active : Option ActiveRun} {outs : List (OutputMessage n × UInt32)}
      {traffic : List (SchedulerResponse n)} (winds : WindsDown active outs traffic) :
      Agrees config (.stopping task evict latched) active outs traffic
  | evicting {ackId : UInt32} {owner : Option UInt32}
      {active : Option ActiveRun} {outs : List (OutputMessage n × UInt32)}
      {traffic : List (SchedulerResponse n)} (winds : WindsDown active outs traffic) :
      Agrees config (.evicting ackId owner) active outs traffic

variable {config : BlazeConfig} {task : UInt32} {active : Option ActiveRun}
variable {outs : List (OutputMessage n × UInt32)} {traffic : List (SchedulerResponse n)}
variable {phase : Phase} {out : OutputMessage n × UInt32}

/-- A slot that is FREE or IDLE has nothing under way. -/
theorem Agrees.calm (agrees : Agrees config phase active outs traffic)
    (calm : phase = .free ∨ phase = .idle) : active = none ∧ outs = [] ∧ traffic = [] := by
  cases agrees with
  | free | idle => exact ⟨rfl, rfl, rfl⟩
  | running | stopping | evicting => simp at calm

section

variable (done : active = none ∧ outs = [] ∧ traffic = [])
include done

theorem agrees_idle : Agrees config .idle active outs traffic := by
  obtain ⟨rfl, rfl, rfl⟩ := done
  exact .idle

theorem agrees_free : Agrees config .free active outs traffic := by
  obtain ⟨rfl, rfl, rfl⟩ := done
  exact .free

/-- A slot with nothing under way awaits an ack that is still to come. -/
theorem windsDown_of_done : WindsDown active outs traffic := by
  obtain ⟨rfl, rfl, rfl⟩ := done
  exact ⟨List.Pairwise.nil, by simp⟩

end

/-- A slot is stopped before its run was acked. -/
theorem Serves.windsDown (serves : Serves config task active outs traffic) :
    WindsDown active outs traffic := by
  cases serves with
  | working | finished => exact ⟨List.Pairwise.nil, by simp⟩
  | rejected rejects => exact ⟨List.pairwise_singleton _ _, by simp [rejects]⟩

theorem WindsDown.tail {response : SchedulerResponse n}
    (winds : WindsDown active outs (response :: traffic)) : WindsDown active outs traffic where
  ordered := (List.pairwise_cons.mp winds.ordered).2
  acked := fun ⟨ack, member, acks⟩ => winds.acked ⟨ack, List.mem_cons_of_mem _ member, acks⟩

/-- When the ack comes up, the slot has nothing under way. -/
theorem WindsDown.done {response : SchedulerResponse n}
    (winds : WindsDown active outs (response :: traffic)) (acks : response.requestType ≠ .submit) :
    active = none ∧ outs = [] ∧ traffic = [] := by
  obtain ⟨ended, drained⟩ := winds.acked ⟨response, List.mem_cons_self, acks⟩
  refine ⟨ended, drained, List.eq_nil_iff_forall_not_mem.mpr fun later member => ?_⟩
  exact acks ((List.pairwise_cons.mp winds.ordered).1 later member)

/-- An output of a slot that awaits an ack is dropped. -/
theorem WindsDown.dropped (winds : WindsDown active (out :: outs) traffic) :
    WindsDown active outs traffic :=
  ⟨winds.ordered, fun acked => absurd (winds.acked acked).2 (by simp)⟩

/-- Nothing is acked while the scheduler is still working. -/
theorem WindsDown.unacked {run : ActiveRun} (winds : WindsDown (some run) outs traffic) :
    ∀ response ∈ traffic, response.requestType = .submit := by
  intro response member
  by_contra acks
  exact absurd (winds.acked ⟨response, member, acks⟩).1 (by simp)

/-- The oldest output of a running slot is its task's own. -/
theorem Serves.pop (serves : Serves config task active (out :: outs) traffic) :
    out.2 = task ∧ if endsRun config out.1 then active = none ∧ outs = [] ∧ traffic = []
      else Serves config task active outs traffic := by
  generalize queued : out :: outs = all at serves
  cases serves with
  | working own more fresh =>
    subst queued
    refine ⟨own out List.mem_cons_self, ?_⟩
    rw [if_neg (more out List.mem_cons_self)]
    exact .working (fun other later => own other (List.mem_cons_of_mem _ later))
      (fun other later => more other (List.mem_cons_of_mem _ later))
      fun unemitted => absurd (fresh unemitted) (by simp)
  | @finished before final own more last =>
    cases before with
    | nil =>
      obtain ⟨rfl, rfl⟩ := List.cons.inj queued
      exact ⟨rfl, by rw [if_pos last]; exact ⟨rfl, rfl, rfl⟩⟩
    | cons first before =>
      obtain ⟨rfl, rfl⟩ := List.cons.inj queued
      refine ⟨own out List.mem_cons_self, ?_⟩
      rw [if_neg (more out List.mem_cons_self)]
      exact .finished (fun other later => own other (List.mem_cons_of_mem _ later))
        (fun other later => more other (List.mem_cons_of_mem _ later)) last
  | rejected => contradiction

/-- A rejected run has nothing else under way. -/
theorem Serves.reject {response : SchedulerResponse n}
    (serves : Serves config task active outs (response :: traffic)) :
    active = none ∧ outs = [] ∧ traffic = [] := by
  generalize queued : response :: traffic = all at serves
  cases serves with
  | working | finished => contradiction
  | rejected => exact ⟨rfl, rfl, (List.cons.inj queued).2⟩

/-! ## The scheduler's moves -/

variable {run : ActiveRun} {producer : UInt32} {output : OutputMessage n}
variable {response : SchedulerResponse n}

section

variable (serves : Serves config task (some run) outs traffic)
include serves

/-- The scheduler is working on the task of a running slot. -/
theorem Serves.ours :
    run.task = task ∧ (∀ out ∈ outs, out.2 = task) ∧ (∀ out ∈ outs, ¬endsRun config out.1) ∧
      (run.emitted = false → outs = []) ∧ traffic = [] := by
  cases serves with
  | working own more fresh => exact ⟨rfl, own, more, fresh, rfl⟩

/-- It queues another output of the run, maybe the last. -/
theorem Serves.emit (own : run.task = producer) :
    Serves config task (if endsRun config output then none else some ⟨producer, true⟩)
      (outs ++ [(output, producer)]) traffic := by
  obtain ⟨ours, others, more, -, rfl⟩ := serves.ours
  rw [← own, ours]
  split
  · rename_i last
    exact .finished others more last
  · rename_i goes
    refine .working (fun out member => ?_) (fun out member => ?_) (by simp)
    · rcases List.mem_append.mp member with old | new
      · exact others out old
      · rw [List.mem_singleton.mp new]
    · rcases List.mem_append.mp member with old | new
      · exact more out old
      · rw [List.mem_singleton.mp new]
        exact goes

/-- It rejects the run before any output. -/
theorem Serves.refuse (fresh : run.emitted = false) (rejects : response.requestType = .submit) :
    Serves config task none outs (traffic ++ [response]) := by
  obtain ⟨-, -, -, unemitted, rfl⟩ := serves.ours
  rw [unemitted fresh]
  exact .rejected rejects

end

/-- As long as nothing is acked, outputs do not matter. -/
theorem WindsDown.emit (winds : WindsDown (some run) outs traffic) (active : Option ActiveRun)
    (more : List (OutputMessage n × UInt32)) : WindsDown active more traffic :=
  ⟨winds.ordered, fun ⟨ack, member, acks⟩ => absurd (winds.unacked ack member) acks⟩

theorem WindsDown.refuse (winds : WindsDown (some run) outs traffic)
    (rejects : response.requestType = .submit) : WindsDown none outs (traffic ++ [response]) where
  ordered := List.pairwise_append.mpr ⟨winds.ordered, List.pairwise_singleton _ _,
    fun earlier member _ _ => winds.unacked earlier member⟩
  acked := by
    rintro ⟨ack, member, acks⟩
    rcases List.mem_append.mp member with old | new
    · exact absurd (winds.unacked ack old) acks
    · exact absurd rejects (List.mem_singleton.mp new ▸ acks)

/-- The ack is queued last, when no output is left. -/
theorem WindsDown.ack (winds : WindsDown active outs traffic)
    (unacked : ∀ earlier ∈ traffic, earlier.requestType = .submit) (drained : outs = []) :
    WindsDown none outs (traffic ++ [response]) where
  ordered := List.pairwise_append.mpr ⟨winds.ordered, List.pairwise_singleton _ _,
    fun earlier member _ _ => unacked earlier member⟩
  acked := fun _ => ⟨rfl, drained⟩

/-- Outputs of a slot that awaits an ack may be dropped. -/
theorem WindsDown.purge (winds : WindsDown active outs traffic) : WindsDown active [] traffic :=
  ⟨winds.ordered, fun acked => ⟨(winds.acked acked).1, rfl⟩⟩

section

variable (agrees : Agrees config phase (some run) outs traffic)
include agrees

theorem Agrees.emit (own : run.task = producer) :
    Agrees config phase (if endsRun config output then none else some ⟨producer, true⟩)
      (outs ++ [(output, producer)]) traffic := by
  cases agrees with
  | running serves => exact .running (serves.emit own)
  | stopping winds => exact .stopping (winds.emit _ _)
  | evicting winds => exact .evicting (winds.emit _ _)

theorem Agrees.refuse (fresh : run.emitted = false) (rejects : response.requestType = .submit) :
    Agrees config phase none outs (traffic ++ [response]) := by
  cases agrees with
  | running serves => exact .running (serves.refuse fresh rejects)
  | stopping winds => exact .stopping (winds.refuse rejects)
  | evicting winds => exact .evicting (winds.refuse rejects)

end

section

variable (agrees : Agrees config phase active outs traffic)
include agrees

theorem Agrees.ack (awaits : phase.awaits ≠ none)
    (unacked : ∀ earlier ∈ traffic, earlier.requestType = .submit) (drained : outs = []) :
    Agrees config phase none outs (traffic ++ [response]) := by
  cases agrees with
  | stopping winds => exact .stopping (winds.ack unacked drained)
  | evicting winds => exact .evicting (winds.ack unacked drained)
  | free | idle | running => simp [Phase.awaits] at awaits

theorem Agrees.purge (awaits : phase.awaits ≠ none) : Agrees config phase active [] traffic := by
  cases agrees with
  | stopping winds => exact .stopping winds.purge
  | evicting winds => exact .evicting winds.purge
  | free | idle | running => simp [Phase.awaits] at awaits

end

namespace Desk

variable {d d' : Desk n} {answer : SchedulerAnswer} {s : Fin n}

/-- A slot's phase and the scheduler's side of it go together. -/
def AgreesAt (config : BlazeConfig) (d : Desk n) (s : Fin n) : Prop :=
  Agrees config (d.slotManager s) (d.scheduler.active s) (d.scheduler.outsFor s)
    (d.scheduler.trafficFor s)

def InStep (config : BlazeConfig) (d : Desk n) : Prop := ∀ s, AgreesAt config d s

theorem initial_inStep (config : BlazeConfig) (n : Nat) : InStep config (initial n) :=
  fun _ => .free

/-- Handlers leave both queues alone; a slot that changes has to agree again. -/
theorem InStep.update (inStep : ∀ s', s' ≠ s → AgreesAt config d s') (phase : Phase)
    (moved : d'.slotManager = Function.update d.slotManager s phase)
    (active : ∀ s', s' ≠ s → d'.scheduler.active s' = d.scheduler.active s')
    (outputs : d'.scheduler.outputs = d.scheduler.outputs)
    (responses : d'.scheduler.responses = d.scheduler.responses)
    (here : Agrees config phase (d'.scheduler.active s) (d.scheduler.outsFor s)
      (d.scheduler.trafficFor s)) : InStep config d' := by
  intro s'
  unfold AgreesAt SchedulerPort.outsFor SchedulerPort.trafficFor
  rw [moved, outputs, responses]
  by_cases same : s' = s
  · subst same
    rw [Function.update_self]
    exact here
  · rw [Function.update_of_ne same, active s' same]
    exact inStep s' same

theorem InStep.of_same (inStep : InStep config d) (slots : d'.slotManager = d.slotManager)
    (active : d'.scheduler.active = d.scheduler.active)
    (outputs : d'.scheduler.outputs = d.scheduler.outputs)
    (responses : d'.scheduler.responses = d.scheduler.responses) : InStep config d' := by
  intro s
  unfold AgreesAt SchedulerPort.outsFor SchedulerPort.trafficFor
  rw [slots, active, outputs, responses]
  exact inStep s

/-- A push that is not made for a task changes only what waits for an answer. -/
theorem pushRequest_port (d : Desk n) (answer : SchedulerAnswer) (request : ISRequest n) :
    (d.pushRequest answer request none).scheduler.active = d.scheduler.active ∧
      (d.pushRequest answer request none).scheduler.outputs = d.scheduler.outputs ∧
      (d.pushRequest answer request none).scheduler.responses = d.scheduler.responses := by
  unfold Runner.pushRequest SchedulerPort.accept
  cases answer.accepts <;> exact ⟨rfl, rfl, rfl⟩

theorem pushRequest_task_port (d : Desk n) (answer : SchedulerAnswer) {request : ISRequest n}
    (named : request.slotId = some s) (task : UInt32) :
    (d.pushRequest answer request (some task)).scheduler.active =
        (if answer.accepts then Function.update d.scheduler.active s (some { task })
        else d.scheduler.active) ∧
      (d.pushRequest answer request (some task)).scheduler.outputs = d.scheduler.outputs ∧
      (d.pushRequest answer request (some task)).scheduler.responses = d.scheduler.responses := by
  unfold Runner.pushRequest SchedulerPort.accept
  cases answer.accepts <;> simp [named]

section

variable (inStep : InStep config d)
include inStep

theorem inStep_evictHeld {evicted : ManageMemoryTask n} {owner : Option UInt32}
    (winds : WindsDown (d.scheduler.active s) (d.scheduler.outsFor s)
      (d.scheduler.trafficFor s)) : InStep config (evictHeld config d answer evicted s owner) := by
  obtain ⟨active, outputs, responses⟩ :=
    pushRequest_port d answer (makeEvictRequest evicted.taskId s)
  unfold evictHeld
  simp only
  split
  · have port : ∀ e : Desk n, e.scheduler = (d.pushRequest answer
        (makeEvictRequest evicted.taskId s) none).scheduler → e.slotManager = d.slotManager →
        InStep config (setPhase e s (.evicting evicted.taskId owner)) := by
      intro e scheduler slots
      refine InStep.update (s := s) (fun s' _ => inStep s') (.evicting evicted.taskId owner)
        (by simp [slots]) ?_ ?_ ?_ ?_
      · intro s' _
        simp only [setPhase, scheduler, active]
      · simp only [setPhase, scheduler, outputs]
      · simp only [setPhase, scheduler, responses]
      · simp only [setPhase, scheduler, active]
        exact .evicting winds
    cases owner <;> exact port _ (by simp [Runner.note]) (by simp)
  · exact inStep.of_same rfl active outputs responses

theorem inStep_evict {evicted : ManageMemoryTask n} :
    InStep config (evict config d answer evicted s) := by
  have here := inStep s
  unfold AgreesAt at here
  unfold evict Desk.phase
  cases phase : d.slotManager s with
  | idle =>
    rw [phase] at here
    exact inStep_evictHeld inStep (windsDown_of_done (here.calm (.inr rfl)))
  | running owner =>
    rw [phase] at here
    refine inStep_evictHeld inStep ?_
    cases here with
    | running serves => exact serves.windsDown
  | stopping owner evictId latched =>
    rw [phase] at here
    refine InStep.update (s := s) (fun s' _ => inStep s')
      (.stopping owner (some evicted.taskId) none) (by simp) (by simp [setPhase]) (by simp [setPhase]) (by simp [setPhase]) ?_
    simp only [setPhase, closeLatched_scheduler]
    cases here with
    | stopping winds => exact .stopping winds
  | evicting | free => exact inStep.of_same rfl rfl rfl rfl

theorem inStep_memory {given : ManageMemoryTask n} :
    InStep config (memory config d answer given) := by
  unfold memory
  split
  · obtain ⟨active, outputs, responses⟩ := pushRequest_port d answer
      (makeAllocateRequest config given.taskId given.slotIdToCopyFrom)
    unfold Runner.handleAllocateRequest
    simp only
    split <;> exact inStep.of_same rfl active outputs responses
  · exact inStep_evict inStep
  · exact inStep
  · exact inStep.of_same rfl rfl rfl rfl

theorem inStep_task {given : Sequence} : InStep config (Desk.task config d answer given s) := by
  have here := inStep s
  unfold AgreesAt at here
  unfold Desk.task Desk.phase
  cases phase : d.slotManager s with
  | idle =>
    rw [phase] at here
    obtain ⟨active, outputs, responses⟩ := pushRequest_task_port d answer
      (taskRequest_slotId config s given) given.taskId
    simp only
    split
    · rename_i accepts
      rw [if_pos accepts] at active
      refine InStep.update (fun s' _ => inStep s') (.running given.taskId) rfl ?_ outputs
        responses ?_
      · intro s' differs
        simp only [setPhase, active, Function.update_of_ne differs]
      · obtain ⟨-, drained, quiet⟩ := here.calm (.inr rfl)
        simp only [setPhase, active, Function.update_self, drained, quiet]
        exact .running (.working (by simp) (by simp) fun _ => rfl)
    · rename_i refused
      rw [if_neg refused] at active
      exact inStep.of_same rfl active outputs responses
  | stopping owner evictId latched =>
    rw [phase] at here
    refine InStep.update (s := s) (fun s' _ => inStep s') (.stopping owner evictId (some given)) rfl
      (fun _ _ => rfl) rfl rfl ?_
    cases here with
    | stopping winds => exact .stopping winds
  | evicting | free | running => exact inStep.of_same rfl rfl rfl rfl

end

/-- An ack leaves its slot with nothing under way, and every other slot alone. -/
theorem inStep_stopAck (others : ∀ s', s' ≠ s → AgreesAt config d s')
    (done : d.scheduler.active s = none ∧ d.scheduler.outsFor s = [] ∧ d.scheduler.trafficFor s = [])
    (stopping : d.slotManager s = .stopping owner evictId latched) :
    InStep config (stopAck config d answer s) := by
  have idle : ∀ latched, InStep config (setPhase (closeLatched d latched) s .idle) := by
    intro latched
    refine InStep.update (s := s) others .idle (by simp) (by simp [setPhase])
      (by simp [setPhase]) (by simp [setPhase]) ?_
    simp only [setPhase, closeLatched_scheduler]
    exact agrees_idle done
  unfold stopAck Desk.phase
  rw [stopping]
  cases evictId with
  | some evictId => exact inStep_evict (idle latched)
  | none =>
    cases latched with
    | none => exact idle none
    | some latched => exact inStep_task (idle none)

theorem inStep_evictAck (others : ∀ s', s' ≠ s → AgreesAt config d s')
    (done : d.scheduler.active s = none ∧ d.scheduler.outsFor s = [] ∧ d.scheduler.trafficFor s = [])
    (evicting : d.slotManager s = .evicting ackId owner) : InStep config (evictAck d s) := by
  unfold evictAck Desk.phase
  rw [evicting]
  exact InStep.update others .free rfl (fun _ _ => rfl) rfl rfl (agrees_free done)

theorem inStep_allocateAck (inStep : InStep config d) {requestId : UInt32}
    {slotId : Option (Fin n)} (free : ∀ s, slotId = some s → d.slotManager s = .free) :
    InStep config (allocateAck d requestId slotId) := by
  cases slotId with
  | none => exact inStep.of_same rfl rfl rfl rfl
  | some s =>
    have here := inStep s
    unfold AgreesAt at here
    rw [free s rfl] at here
    exact InStep.update (fun s' _ => inStep s') .idle rfl (fun _ _ => rfl) rfl rfl
      (agrees_idle (here.calm (.inl rfl)))

/-- A rejection ends the run of a running slot. -/
theorem inStep_submitError (others : ∀ s', s' ≠ s → AgreesAt config d s')
    {response : SchedulerResponse n}
    (here : Agrees config (d.slotManager s) (d.scheduler.active s) (d.scheduler.outsFor s)
      (response :: d.scheduler.trafficFor s)) : InStep config (submitError d s) := by
  have stays : AgreesAt config d s → InStep config d := by
    intro here s'
    by_cases same : s' = s
    · exact same ▸ here
    · exact others s' same
  unfold submitError Desk.phase
  cases phase : d.slotManager s with
  | running owner =>
    rw [phase] at here
    cases here with
    | running serves =>
      exact InStep.update others .idle rfl (fun _ _ => rfl) rfl rfl (agrees_idle serves.reject)
  | free =>
    rw [phase] at here
    exact absurd (here.calm (.inl rfl)).2.2 (by simp)
  | idle =>
    rw [phase] at here
    exact absurd (here.calm (.inr rfl)).2.2 (by simp)
  | stopping owner evictId latched =>
    rw [phase] at here
    refine stays ?_
    unfold AgreesAt
    rw [phase]
    cases here with
    | stopping winds => exact .stopping winds.tail
  | evicting ackId owner =>
    rw [phase] at here
    refine stays ?_
    unfold AgreesAt
    rw [phase]
    cases here with
    | evicting winds => exact .evicting winds.tail

theorem inStep_cancel (inStep : InStep config d) {cancelled : UInt32} :
    InStep config (cancel d answer cancelled) := by
  unfold cancel
  split
  · exact inStep.of_same rfl rfl rfl rfl
  · split
    · exact inStep
    · rename_i s found
      have here := inStep s
      unfold AgreesAt at here
      rw [slotRunning_some found] at here
      obtain ⟨active, outputs, responses⟩ :=
        pushRequest_port d answer (makeStopRequest cancelled s)
      simp only
      split
      · refine InStep.update (fun s' _ => inStep s') (.stopping cancelled none none) rfl
          (fun s' _ => congrFun active s') outputs responses ?_
        have same : ((setPhase (d.pushRequest answer (makeStopRequest cancelled s) none) s
            (.stopping cancelled none none)).pushToken cancelled 0 flagAbort 0 0).scheduler.active s =
            d.scheduler.active s := congrFun active s
        rw [same]
        cases here with
        | running serves => exact .stopping serves.windsDown
      · exact inStep.of_same rfl active outputs responses

end Desk

end InferenceServer.Blaze
