import InferenceServer.Blaze.Refinement
import InferenceServer.Blaze.Routes
import InferenceServer.Blaze.Effects

/-! Turns. A step of the system is one of a few turns, each described on the desk:
what it takes from a queue, the handler of the desk it runs and what it adds to
the history. `Sound` is what holds in every reachable state and lets a step be
read as a turn; the invariants of the system are proved on turns. -/
namespace InferenceServer.Blaze

open Machine

/-- A runner read as a desk. -/
def Runner.desk (r : BlazeRunner n) : Desk n :=
  r.withSlots fun s => (r.slotManager.slots s).phase

/-- The slot manager stores the phases the runner is read as. -/
def Runner.Stores (r : BlazeRunner n) : Prop := r.slotManager.Shows r.desk.slotManager

theorem Runner.Refines.stores {result : Except Fault (BlazeRunner n)} {d : Desk n}
    (refines : Runner.Refines result d) : ∃ r, result = .ok r ∧ r.Stores ∧ r.desk = d := by
  obtain ⟨m, shows, ended⟩ := refines
  have same : (d.withSlots m).desk = d := by
    have phases := shows.phase_eq
    unfold Runner.desk
    simp only [Runner.withSlots_slotManager, phases]
    rfl
  refine ⟨_, ended, ?_, same⟩
  unfold Runner.Stores
  rw [same]
  exact shows

namespace World

/-- The system's runner read as a desk. -/
def desk (w : World n) : Desk n := w.runner.desk

/-- What holds in every reachable state. -/
structure Sound (config : BlazeConfig) (w : World n) : Prop where
  alive : w.crashed = none
  stores : w.runner.Stores
  coupled : Desk.Coupled w.desk
  routed : Desk.Routed config w.desk
  distinct : w.history.issued.Nodup
  /-- a task is issued once, and then queued, held by the desk or closed -/
  ledger : ∀ task, (w.taskQueue.map Sequence.taskId).count task + Desk.account w.desk task ≤
    w.history.issued.count task
  queued : ∀ task ∈ w.taskQueue, (task.slot config.kind n).isSome
  requested : ∀ request ∈ w.memoryQueue, request.action = .deallocate → request.slotId.isSome

theorem initial_sound (config : BlazeConfig) (n : Nat) : Sound config (initial n) where
  alive := rfl
  stores := SlotManager.initial_shows n
  coupled := Desk.initial_coupled n
  routed := Desk.initial_routed config n
  distinct := List.nodup_nil
  ledger := by
    intro task
    simp [initial, desk, Runner.desk, Desk.account, Desk.copies, Runner.initial,
      Runner.withSlots, SlotManager.initial, SlotContext.phase, Phase.holds, closings]
  queued := by simp [initial]
  requested := by simp [initial]

/-- A step of the system, described on the desk. -/
inductive Turn (config : BlazeConfig) (w : World n) : Label n → World n → Prop
  | submit {task : Sequence} (fresh : task.taskId ∉ w.history.issued)
      (named : (task.slot config.kind n).isSome) :
      Turn config w (.submit task) { w with
        taskQueue := w.taskQueue ++ [task]
        history := { w.history with issued := w.history.issued ++ [task.taskId] } }
  | manage {request : ManageMemoryTask n}
      (named : request.action = .deallocate → request.slotId.isSome) :
      Turn config w (.manage request) { w with memoryQueue := w.memoryQueue ++ [request] }
  | cancel {taskId : UInt32} : Turn config w (.cancel taskId) { w with
      stopQueue := w.stopQueue ++ [taskId]
      history := { w.history with cancelled := w.history.cancelled ++ [taskId] } }
  | respond {position : Nat} {slotId : Option (Fin n)} {request : ISRequest n}
      (waiting : w.desk.scheduler.awaiting[position]? = some request) :
      Turn config w (.respond position slotId) (w.withScheduler
        ((w.desk.scheduler.takeAwaiting position).respond (answerTo request slotId)
          (if request.type = .allocate then none else request.slotId)))
  | reject {s : Fin n} {errorCode : Int32} : Turn config w (.reject s errorCode)
      (w.withScheduler (w.desk.scheduler.respond
        { requestType := .submit, slotId := some s, errorCode } (some s)))
  | report {s : Fin n} {migrationComplete : Bool} : Turn config w (.report s migrationComplete)
      (w.withScheduler (w.desk.scheduler.respond
        { requestType := .continue, slotId := some s, migrationComplete } none))
  | emit {output : OutputMessage n} {producer : UInt32} : Turn config w (.emit output producer)
      (w.withScheduler (w.desk.scheduler.emit config output producer))
  | purge {s : Fin n} :
      Turn config w (.purge s) (w.withScheduler (w.desk.scheduler.purge s))
  | response {answer : SchedulerAnswer} {drained : Nat} {response : SchedulerResponse n}
      {rest : List (SchedulerResponse n)} {r : BlazeRunner n} (here : w.pc = .responses drained)
      (room : drained < n)
      (oldest : w.desk.scheduler.responses = response :: rest)
      (expected : Runner.Expected config w.desk response) (stores : r.Stores)
      (handled : r.desk = Desk.response config (w.desk.popResponse rest) answer response) :
      Turn config w (.run answer) { w with runner := r, pc := .responses (drained + 1) }
  | output {answer : SchedulerAnswer} {drained : Nat} {output : OutputMessage n}
      {producer accepts rejects : UInt32} {rest : List (OutputMessage n × UInt32)}
      {r : BlazeRunner n} (here : w.pc = .outputs drained)
      (oldest : w.desk.scheduler.outputs = (output, producer) :: rest) (stores : r.Stores)
      (handled : r.desk =
        Desk.output config (w.desk.popOutput rest) output accepts rejects) :
      Turn config w (.run answer) { w with
        runner := r, pc := .outputs (drained + 1), history := w.noteDelivered r producer }
  | memoryRetry {answer : SchedulerAnswer} {request : ManageMemoryTask n} {r : BlazeRunner n}
      (here : w.pc = .memory)
      (pending : w.desk.pendingRequests.pendingMemoryTask = some request) (stores : r.Stores)
      (handled : r.desk = Desk.memory config w.desk.takePendingMemoryTask answer request) :
      Turn config w (.run answer) { w with runner := r, pc := .retryCancel }
  | memory {answer : SchedulerAnswer} {request : ManageMemoryTask n}
      {queue : List (ManageMemoryTask n)} {r : BlazeRunner n} (here : w.pc = .memory)
      (pending : w.desk.pendingRequests.pendingMemoryTask = none)
      (oldest : w.memoryQueue = request :: queue) (stores : r.Stores)
      (handled : r.desk = Desk.memory config w.desk answer request) :
      Turn config w (.run answer) { w with
        runner := r, pc := .retryCancel, memoryQueue := queue, history := w.noteObtained request }
  | cancelRetry {answer : SchedulerAnswer} {taskId : UInt32} {r : BlazeRunner n}
      (here : w.pc = .retryCancel)
      (pending : w.desk.pendingRequests.pendingCancelTaskId = some taskId) (stores : r.Stores)
      (handled : r.desk = Desk.cancel w.desk.takePendingCancel answer taskId) :
      Turn config w (.run answer) { w with
        runner := r, pc := .drainCancels
        history := { w.history with handledCancels := w.history.handledCancels ++ [taskId] } }
  | cancelDrained {answer : SchedulerAnswer} {taskId : UInt32} {rest : List UInt32}
      {r : BlazeRunner n} (here : w.pc = .cancels (taskId :: rest)) (stores : r.Stores)
      (handled : r.desk = Desk.cancel w.desk answer taskId) :
      Turn config w (.run answer) { w with
        runner := r, pc := .cancels rest
        history := { w.history with handledCancels := w.history.handledCancels ++ [taskId] } }
  | drain {answer : SchedulerAnswer} (here : w.pc = .drainCancels) :
      Turn config w (.run answer) w.drainCancels
  | taskRetry {answer : SchedulerAnswer} {task : Sequence} {s : Fin n} {r : BlazeRunner n}
      (here : w.pc = .task) (pending : w.desk.pendingRequests.pendingTask = some task)
      (named : task.slot config.kind n = some s) (stores : r.Stores)
      (handled : r.desk = Desk.task config w.desk.dropPendingTask answer task s) :
      Turn config w (.run answer) { w with runner := r, pc := .responses 0 }
  | task {answer : SchedulerAnswer} {task : Sequence} {s : Fin n} {queue : List Sequence}
      {r : BlazeRunner n} (here : w.pc = .task)
      (pending : w.desk.pendingRequests.pendingTask = none) (oldest : w.taskQueue = task :: queue)
      (named : task.slot config.kind n = some s) (stores : r.Stores)
      (handled : r.desk = Desk.task config w.desk answer task s) :
      Turn config w (.run answer) { w with
        runner := r, pc := .responses 0, taskQueue := queue
        history := w.noteAdmitted config task }
  | skip {answer : SchedulerAnswer} {next : Pc} (calm : ∀ ids, w.pc = .cancels ids → ids = [])
      (nowhere : ∀ ids, next ≠ .cancels ids) :
      Turn config w (.run answer) { w with pc := next }

variable {config : BlazeConfig} {w w' : World n} {answer : SchedulerAnswer}
variable {label : Label n}

section

variable (sound : Sound config w)
include sound

/-- A task is on the desk once at most, and not both on it and closed. -/
theorem Sound.account_le_one (task : UInt32) : Desk.account w.desk task ≤ 1 := by
  have bound := sound.ledger task
  have once := List.nodup_iff_count_le_one.mp sound.distinct task
  omega

/-- A task whose stream was closed is not on the desk. -/
theorem Sound.closed_off (closed : 0 < closings w.desk.log task) : Desk.copies w.desk task = 0 := by
  have once := sound.account_le_one task
  unfold Desk.account at once
  omega

theorem Sound.copies_le_one (task : UInt32) : Desk.copies w.desk task ≤ 1 :=
  Nat.le_trans (Nat.le_add_right _ _) (sound.account_le_one task)

/-- The task a slot gave up runs nowhere. -/
theorem Sound.stale_gone (stale : (w.desk.slotManager s).stale = some task) (s' : Fin n) :
    w.desk.slotManager s' ≠ .running task := by
  have gone := (Desk.copies_zero (sound.closed_off (sound.routed.stale s task stale))).2 s'
  exact fun running => gone (by rw [running]; rfl)

/-- The task latched on a slot runs nowhere. -/
theorem Sound.latched_gone (latched : (w.desk.slotManager s).deferredContinue = some task)
    (s' : Fin n) : w.desk.slotManager s' ≠ .running task.taskId := by
  intro running
  have held : (w.desk.slotManager s).holds = some task.taskId := by
    cases phase : w.desk.slotManager s <;> simp_all [Phase.deferredContinue, Phase.holds]
  have unique := (Desk.copies_once (sound.copies_le_one task.taskId) held).2 s'
  by_cases same : s' = s
  · rw [same] at running
    rw [running] at latched
    contradiction
  · exact unique same (by rw [running]; rfl)

/-- The pending task runs nowhere. -/
theorem Sound.pending_gone (pending : w.desk.pendingRequests.pendingTask = some task) (s : Fin n) :
    w.desk.slotManager s ≠ .running task.taskId := by
  intro running
  have held : (w.desk.slotManager s).holds = some task.taskId := by rw [running]; rfl
  have unique := (Desk.copies_once (sound.copies_le_one task.taskId) held).1
  exact unique (by rw [pending]; rfl)

/-- A queued task is not on the desk and its stream is open. -/
theorem Sound.queued_open (queued : task ∈ w.taskQueue) : Desk.account w.desk task.taskId = 0 := by
  have bound := sound.ledger task.taskId
  have once := List.nodup_iff_count_le_one.mp sound.distinct task.taskId
  have member : 0 < (w.taskQueue.map Sequence.taskId).count task.taskId :=
    List.count_pos_iff.mpr (List.mem_map_of_mem queued)
  omega

theorem Sound.queued_gone (queued : task ∈ w.taskQueue) (s : Fin n) :
    w.desk.slotManager s ≠ .running task.taskId := by
  have absent := sound.queued_open queued
  have none_held : Desk.copies w.desk task.taskId = 0 := by
    unfold Desk.account at absent
    omega
  exact fun running => (Desk.copies_zero none_held).2 s (by rw [running]; rfl)

/-- A response that is due is one the desk expects. -/
theorem Sound.expected (oldest : w.desk.scheduler.responses = response :: rest)
    (free : w.allocatesFree response = true) : Runner.Expected config w.desk response where
  named := sound.routed.responses response (by rw [oldest]; exact List.mem_cons_self)
  free := by
    intro type s slot
    simp only [allocatesFree, type, slot, decide_eq_true_eq] at free
    have state := (sound.stores.slots s).state
    have phase : (w.desk.slotManager s).state = .free := state.symm.trans free
    cases same : w.desk.slotManager s <;> simp_all [Phase.state]
  evicting := by
    intro type s slot
    have ack : ackFor s response.requestType response.requestId response.slotId =
        some (.evict, response.requestId) := by simp [ackFor, type, slot]
    exact Phase.awaits_evict (sound.coupled.pop_ack oldest ack).1
  stopping := by
    intro type s slot
    have ack : ackFor s response.requestType response.requestId response.slotId =
        some (.stop, response.requestId) := by simp [ackFor, type, slot]
    exact Phase.awaits_stop (sound.coupled.pop_ack oldest ack).1
  stale := fun _ _ _ stale => sound.stale_gone stale
  latched := fun s task _ latched =>
    ⟨sound.routed.latched s task latched, sound.latched_gone latched⟩

theorem Sound.slotState_eq (s : Fin n) : w.slotState s = (w.desk.slotManager s).state :=
  (sound.stores.slots s).state

theorem Sound.runningOn_iff {s : Fin n} {taskId : UInt32} :
    w.RunningOn s taskId ↔ w.desk.slotManager s = .running taskId := by
  obtain ⟨state, task, -, -, -⟩ := sound.stores.slots s
  have same : w.runner.desk.slotManager s = w.desk.slotManager s := rfl
  rw [same] at state task
  rw [RunningOn, state, task]
  cases w.desk.slotManager s <;> simp [Phase.state, Phase.taskId]

end

/-- A handler that refines the desk carries on. -/
theorem settle_refines (w : World n) (continued : BlazeRunner n → World n)
    {result : Except Fault (BlazeRunner n)} {d : Desk n} (refines : Runner.Refines result d) :
    ∃ r : BlazeRunner n, r.Stores ∧ r.desk = d ∧ w.settle result continued = continued r := by
  obtain ⟨r, ended, stores, same⟩ := refines.stores
  exact ⟨r, stores, same, by rw [ended]; rfl⟩

private theorem turn_skip {next : Pc} (other : ∀ ids, w.pc ≠ .cancels ids)
    (nowhere : ∀ ids, next ≠ .cancels ids) :
    Turn config w (.run answer) { w with pc := next } :=
  .skip (fun ids here => absurd here (other ids)) nowhere

section

variable (sound : Sound config w)
include sound

private theorem turn_response (here : w.pc = .responses drained)
    (stepped : w.runResponse config answer drained = some w') : Turn config w (.run answer) w' := by
  unfold runResponse at stepped
  have skipped : Turn config w (.run answer) { w with pc := .outputs 0 } :=
    turn_skip (by simp [here]) (by simp)
  split at stepped
  · exact Option.some.inj stepped ▸ skipped
  · rename_i response rest oldest
    split at stepped
    · rename_i room
      split at stepped
      · rename_i free
        have expected := sound.expected oldest free
        have refines : Runner.Refines
            ((w.runner.popResponse rest).handleSchedulerResponse config answer response)
            (Desk.response config (w.desk.popResponse rest) answer response) :=
          Runner.handleSchedulerResponse_refines (d := w.desk.popResponse rest) sound.stores
            ⟨expected.named, expected.free, expected.evicting, expected.stopping,
              expected.stale, expected.latched⟩
        obtain ⟨r, stores, handled, settled⟩ := settle_refines w
          (fun r => { w with runner := r, pc := .responses (drained + 1) }) refines
        rw [← Option.some.inj stepped]
        exact settled ▸ .response here room oldest expected stores handled
      · contradiction
    · exact Option.some.inj stepped ▸ skipped

private theorem turn_output (here : w.pc = .outputs drained) :
    Turn config w (.run answer) (w.runOutput config answer drained) := by
  unfold runOutput
  have skipped : Turn config w (.run answer) { w with pc := .memory } :=
    turn_skip (by simp [here]) (by simp)
  split
  · exact skipped
  · rename_i output producer rest oldest
    split
    · obtain ⟨accepts, rejects, refines⟩ := Runner.handleSchedulerOutput_refines
        (d := w.desk.popOutput rest) sound.stores output
      obtain ⟨r, stores, handled, settled⟩ := settle_refines w
        (fun r => { w with
          runner := r, pc := .outputs (drained + 1), history := w.noteDelivered r producer })
        refines
      exact settled ▸ .output here oldest stores handled
    · exact skipped

private theorem turn_memory (here : w.pc = .memory) :
    Turn config w (.run answer) (w.runMemory config answer) := by
  unfold runMemory
  split
  · rename_i request pending
    have refines : Runner.Refines
        (w.runner.takePendingMemoryTask.handleMemoryRequest config answer request)
        (Desk.memory config w.desk.takePendingMemoryTask answer request) :=
      Runner.handleMemoryRequest_refines (d := w.desk.takePendingMemoryTask) sound.stores
        (sound.routed.pendingMemoryTask request pending)
    obtain ⟨r, stores, handled, settled⟩ := settle_refines w
      (fun r => { w with runner := r, pc := .retryCancel }) refines
    exact settled ▸ .memoryRetry here pending stores handled
  · rename_i request queue pending oldest
    have refines : Runner.Refines (w.runner.handleMemoryRequest config answer request)
        (Desk.memory config w.desk answer request) :=
      Runner.handleMemoryRequest_refines (d := w.desk) sound.stores
        (sound.requested request (by rw [oldest]; exact List.mem_cons_self))
    obtain ⟨r, stores, handled, settled⟩ := settle_refines w
      (fun r => { w with
        runner := r, pc := .retryCancel, memoryQueue := queue
        history := w.noteObtained request }) refines
    exact settled ▸ .memory here pending oldest stores handled
  · exact turn_skip (by simp [here]) (by simp)

private theorem turn_retryCancel (here : w.pc = .retryCancel) :
    Turn config w (.run answer) (w.runRetryCancel answer) := by
  unfold runRetryCancel handleCancel
  split
  · rename_i taskId pending
    have refines : Runner.Refines (w.runner.takePendingCancel.handleStopRequest answer taskId)
        (Desk.cancel w.desk.takePendingCancel answer taskId) :=
      Runner.handleStopRequest_refines (d := w.desk.takePendingCancel) sound.stores taskId
    obtain ⟨r, stores, handled, settled⟩ := settle_refines w
      (fun r => { w with
        runner := r, pc := .drainCancels
        history := { w.history with handledCancels := w.history.handledCancels ++ [taskId] } })
      refines
    exact settled ▸ .cancelRetry here pending stores handled
  · exact turn_skip (by simp [here]) (by simp)

private theorem turn_cancels (here : w.pc = .cancels (taskId :: rest)) :
    Turn config w (.run answer) (w.handleCancel answer w.runner taskId (.cancels rest)) := by
  have refines : Runner.Refines (w.runner.handleStopRequest answer taskId)
      (Desk.cancel w.desk answer taskId) :=
    Runner.handleStopRequest_refines (d := w.desk) sound.stores taskId
  unfold handleCancel
  obtain ⟨r, stores, handled, settled⟩ := settle_refines w
    (fun r => { w with
      runner := r, pc := .cancels rest
      history := { w.history with handledCancels := w.history.handledCancels ++ [taskId] } })
    refines
  exact settled ▸ .cancelDrained here stores handled

private theorem turn_task (here : w.pc = .task) :
    Turn config w (.run answer) (w.runTask config answer) := by
  unfold runTask
  split
  · rename_i task pending
    obtain ⟨s, named, -⟩ := sound.routed.pendingTask task pending
    have refines : Runner.Refines (w.runner.dropPendingTask.handleTask config answer task)
        (Desk.task config w.desk.dropPendingTask answer task s) :=
      Runner.handleTask_refines (d := w.desk.dropPendingTask) sound.stores named
        (sound.pending_gone pending)
    obtain ⟨r, stores, handled, settled⟩ := settle_refines w
      (fun r => { w with runner := r, pc := .responses 0 }) refines
    exact settled ▸ .taskRetry here pending named stores handled
  · rename_i task queue pending oldest
    have queued : task ∈ w.taskQueue := by rw [oldest]; exact List.mem_cons_self
    obtain ⟨s, named⟩ := Option.isSome_iff_exists.mp (sound.queued task queued)
    have refines : Runner.Refines (w.runner.handleTask config answer task)
        (Desk.task config w.desk answer task s) :=
      Runner.handleTask_refines (d := w.desk) sound.stores named (sound.queued_gone queued)
    obtain ⟨r, stores, handled, settled⟩ := settle_refines w
      (fun r => { w with
        runner := r, pc := .responses 0, taskQueue := queue
        history := w.noteAdmitted config task }) refines
    exact settled ▸ .task here pending oldest named stores handled
  · exact turn_skip (by simp [here]) (by simp)

/-- Every step from a sound state is a turn. -/
theorem Sound.turn (stepped : step config w label = some w') : Turn config w label w' := by
  cases label with
  | submit task =>
    simp only [step] at stepped
    split at stepped
    · rename_i permitted
      exact Option.some.inj stepped ▸ .submit permitted.1 permitted.2
    · contradiction
  | manage request =>
    simp only [step] at stepped
    split at stepped
    · rename_i named
      exact Option.some.inj stepped ▸ .manage named
    · contradiction
  | cancel taskId => exact Option.some.inj stepped ▸ .cancel
  | respond position slotId =>
    simp only [step] at stepped
    split at stepped
    · contradiction
    · rename_i request waiting
      exact Option.some.inj stepped ▸ .respond waiting
  | reject s errorCode => exact Option.some.inj stepped ▸ .reject
  | report s migrationComplete => exact Option.some.inj stepped ▸ .report
  | emit output producer => exact Option.some.inj stepped ▸ .emit
  | purge s => exact Option.some.inj stepped ▸ .purge
  | run answer =>
    simp only [step] at stepped
    rw [if_neg (by simp [sound.alive])] at stepped
    unfold runNext at stepped
    cases here : w.pc with
    | responses drained => exact turn_response sound here (by simpa [here] using stepped)
    | outputs drained =>
      simp only [here, Option.some.injEq] at stepped
      exact stepped ▸ turn_output sound here
    | memory =>
      simp only [here, Option.some.injEq] at stepped
      exact stepped ▸ turn_memory sound here
    | retryCancel =>
      simp only [here, Option.some.injEq] at stepped
      exact stepped ▸ turn_retryCancel sound here
    | drainCancels =>
      simp only [here, Option.some.injEq] at stepped
      exact stepped ▸ .drain here
    | cancels ids =>
      cases ids with
      | nil =>
        simp only [here, Option.some.injEq] at stepped
        have skipped : Turn config w (.run answer) { w with pc := .task } :=
          .skip (by simp [here]) (by simp)
        exact stepped ▸ skipped
      | cons taskId rest =>
        simp only [here, Option.some.injEq] at stepped
        exact stepped ▸ turn_cancels sound here
    | task =>
      simp only [here, Option.some.injEq] at stepped
      exact stepped ▸ turn_task sound here

/-- A turn of the runner keeps a state sound when the desk it ends on is coupled and
routed and accounts for no more than the desk it started from. -/
private theorem Sound.handled {r : BlazeRunner n} {pc : Pc} {queue : List Sequence}
    {requests : List (ManageMemoryTask n)} {history : History n} (stores : r.Stores)
    (coupled : Desk.Coupled r.desk) (routed : Desk.Routed config r.desk)
    (issued : history.issued = w.history.issued)
    (ledger : ∀ task, (queue.map Sequence.taskId).count task + Desk.account r.desk task ≤
      (w.taskQueue.map Sequence.taskId).count task + Desk.account w.desk task)
    (queued : ∀ task ∈ queue, task ∈ w.taskQueue)
    (requested : ∀ request ∈ requests, request ∈ w.memoryQueue) :
    Sound config { w with
      runner := r, pc, taskQueue := queue, memoryQueue := requests, history } where
  alive := sound.alive
  stores := stores
  coupled := coupled
  routed := routed
  distinct := by rw [issued]; exact sound.distinct
  ledger := fun task => by rw [issued]; exact Nat.le_trans (ledger task) (sound.ledger task)
  queued := fun task member => sound.queued task (queued task member)
  requested := fun request member => sound.requested request (requested request member)

/-- The scheduler's own moves keep a state sound. -/
private theorem Sound.withScheduler {port : SchedulerPort n}
    (coupled : Desk.Coupled { w.desk with scheduler := port })
    (routed : Desk.Routed config { w.desk with scheduler := port }) :
    Sound config (w.withScheduler port) :=
  ⟨sound.alive, sound.stores, coupled, routed, sound.distinct, sound.ledger, sound.queued,
    sound.requested⟩

/-- Every turn keeps a state sound. -/
theorem Sound.next (turn : Turn config w label w') : Sound config w' := by
  cases turn with
  | @submit task fresh named =>
    refine { sound with
      distinct := ?_, ledger := fun other => ?_, queued := fun other member => ?_ }
    · exact List.nodup_append.mpr ⟨sound.distinct, List.nodup_singleton _, by
        rintro a member b single rfl
        exact fresh (List.mem_singleton.mp single ▸ member)⟩
    · have bound := sound.ledger other
      simp only [List.map_append, List.map_cons, List.map_nil, List.count_append]
      exact Nat.add_right_comm .. ▸ Nat.add_le_add_right bound _
    · rcases List.mem_append.mp member with old | new
      · exact sound.queued other old
      · exact List.mem_singleton.mp new ▸ named
  | manage named =>
    refine { sound with requested := fun other member => ?_ }
    rcases List.mem_append.mp member with old | new
    · exact sound.requested other old
    · exact List.mem_singleton.mp new ▸ named
  | cancel => exact { sound with }
  | @respond position slotId request waiting =>
    refine sound.withScheduler (sound.coupled.answered waiting fun s => ?_)
      (sound.routed.answered ?_)
    · by_cases allocate : request.type = .allocate <;> simp [answerTo, ackFor, allocate]
    · have named := sound.routed.awaiting request (List.mem_of_getElem? waiting)
      rcases named with allocate | ⟨-, slot⟩
      · exact .inl allocate
      · by_cases allocate : request.type = .allocate
        · exact .inl allocate
        · exact .inr (by simp [answerTo, allocate, slot])
  | reject =>
    exact sound.withScheduler (sound.coupled.respond (by simp)) (sound.routed.respond (.inr rfl))
  | report =>
    exact sound.withScheduler (sound.coupled.respond (by simp)) (sound.routed.respond (.inr rfl))
  | emit | purge =>
    exact sound.withScheduler (sound.coupled.of_same (fun _ => rfl) fun _ => rfl)
      (sound.routed.withPort sound.routed.awaiting sound.routed.responses)
  | @response answer drained response rest r here room oldest expected stores handled =>
    have kept := Desk.account_response config (w.desk.popResponse rest) answer expected.free
    refine sound.handled stores ?_ ?_ rfl (fun other => ?_) (fun _ m => m) fun _ m => m
    · exact handled ▸ Desk.coupled_response sound.coupled oldest expected.free
    · exact handled ▸ Desk.routed_response (sound.routed.popResponse oldest)
    · exact handled ▸ Nat.add_le_add_left (Nat.le.intro (kept other)) _
  | @output answer drained output producer accepts rejects rest r here oldest stores handled =>
    have coupled : Desk.Coupled (w.desk.popOutput rest) :=
      sound.coupled.of_same (fun _ => rfl) fun _ => rfl
    refine sound.handled stores ?_ ?_ rfl (fun other => ?_) (fun _ m => m) fun _ m => m
    · exact handled ▸ Desk.coupled_output coupled
    · exact handled ▸ Desk.routed_output (sound.routed.popOutput rest)
    · have kept := Desk.account_output config (w.desk.popOutput rest) output accepts rejects other
      exact handled ▸ Nat.add_le_add_left (Nat.le_of_eq kept) _
  | @memoryRetry answer request r here pending stores handled =>
    have coupled : Desk.Coupled w.desk.takePendingMemoryTask :=
      sound.coupled.of_same (fun _ => rfl) fun _ => rfl
    refine sound.handled stores ?_ ?_ rfl (fun other => ?_) (fun _ m => m) fun _ m => m
    · exact handled ▸ Desk.coupled_memory coupled
    · exact handled ▸ Desk.routed_memory sound.routed.takePendingMemoryTask
        (sound.routed.pendingMemoryTask request pending)
    · have kept := Desk.account_memory config w.desk.takePendingMemoryTask answer request other
      exact handled ▸ Nat.add_le_add_left (Nat.le_of_eq kept) _
  | @memory answer request queue r here pending oldest stores handled =>
    refine sound.handled stores ?_ ?_ rfl (fun other => ?_)
      (fun _ m => m) fun _ m => oldest ▸ List.mem_cons_of_mem _ m
    · exact handled ▸ Desk.coupled_memory sound.coupled
    · exact handled ▸ Desk.routed_memory sound.routed
        (sound.requested request (oldest ▸ List.mem_cons_self))
    · have kept := Desk.account_memory config w.desk answer request other
      exact handled ▸ Nat.add_le_add_left (Nat.le_of_eq kept) _
  | @cancelRetry answer taskId r here pending stores handled =>
    have coupled : Desk.Coupled w.desk.takePendingCancel :=
      sound.coupled.of_same (fun _ => rfl) fun _ => rfl
    refine sound.handled stores ?_ ?_ rfl (fun other => ?_) (fun _ m => m) fun _ m => m
    · exact handled ▸ Desk.coupled_cancel coupled
    · exact handled ▸ Desk.routed_cancel sound.routed.takePendingCancel
    · have kept := Desk.account_cancel w.desk.takePendingCancel answer taskId other
      exact handled ▸ Nat.add_le_add_left (Nat.le.intro kept) _
  | @cancelDrained answer taskId rest r here stores handled =>
    refine sound.handled stores ?_ ?_ rfl (fun other => ?_) (fun _ m => m) fun _ m => m
    · exact handled ▸ Desk.coupled_cancel sound.coupled
    · exact handled ▸ Desk.routed_cancel sound.routed
    · have kept := Desk.account_cancel w.desk answer taskId other
      exact handled ▸ Nat.add_le_add_left (Nat.le.intro kept) _
  | drain here => exact { sound with }
  | @taskRetry answer task s r here pending named stores handled =>
    have coupled : Desk.Coupled w.desk.dropPendingTask :=
      sound.coupled.of_same (fun _ => rfl) fun _ => rfl
    refine sound.handled stores ?_ ?_ rfl (fun other => ?_) (fun _ m => m) fun _ m => m
    · exact handled ▸ Desk.coupled_task coupled
    · exact handled ▸ Desk.routed_task sound.routed.dropPendingTask named
        (by simp [Runner.dropPendingTask])
    · have kept := Desk.account_task config w.desk.dropPendingTask answer task s other
      have dropped := Desk.account_dropPendingTask w.desk other
      rw [pending, Option.map_some] at dropped
      rw [handled]
      omega
  | @task answer task s queue r here pending oldest named stores handled =>
    refine sound.handled stores ?_ ?_ rfl (fun other => ?_)
      (fun _ m => oldest ▸ List.mem_cons_of_mem _ m) fun _ m => m
    · exact handled ▸ Desk.coupled_task sound.coupled
    · exact handled ▸ Desk.routed_task sound.routed named (by simp [pending])
    · have kept := Desk.account_task config w.desk answer task s other
      rw [handled, oldest, List.map_cons, List.count_cons]
      have popped : hits other (some task.taskId) =
          if task.taskId == other then 1 else 0 := by simp [hits]
      omega
  | skip calm nowhere => exact { sound with }

/-- A step from a sound state ends in one. -/
theorem Sound.step (stepped : step config w label = some w') : Sound config w' :=
  sound.next (sound.turn stepped)

end

/-- Every state a run reaches is sound, whatever the run is restricted to. -/
theorem reached_sound {allowed : World n → Label n → Prop}
    (reached : Reaches (World.step config) allowed (initial n) w) : Sound config w :=
  reached.invariant (Sound config) (initial_sound config n) fun _ _ _ sound _ stepped => sound.step stepped

section

variable (turn : Turn config w label w')
include turn

/-- A turn adds to the log only effects of the task it takes up, tokens and
assertions of an output, and quiet ones. -/
theorem Turn.adds {kind : Effect n → Bool} (quiet : ∀ effect, effect.quiet → kind effect)
    (latched : ∀ s task, (w.desk.slotManager s).deferredContinue = some task →
      ∀ effect, effect.quietFor task.taskId → kind effect)
    (given : ∀ task, w.desk.pendingRequests.pendingTask = some task ∨ task ∈ w.taskQueue →
      ∀ effect, effect.quietFor task.taskId → kind effect) (token : ∀ token, kind (.token token))
    (idle : ∀ output producer rest, w.desk.scheduler.outputs = (output, producer) :: rest →
      w.desk.slotManager output.slotId = .free ∨ w.desk.slotManager output.slotId = .idle →
      kind (.assertion .outputNotRunning)) : Desk.Adds kind w.desk w'.desk := by
  have handled_adds : ∀ {d' : Desk n} {r : BlazeRunner n}, r.desk = d' →
      Desk.Adds kind w.desk d' → Desk.Adds kind w.desk r.desk := by
    intro d' r handled adds
    rwa [handled]
  cases turn with
  | submit | manage | cancel | respond | reject | report | emit | purge | drain | skip => exact .refl _ rfl
  | @response answer drained response rest r here room oldest expected stores handled =>
    refine handled_adds handled ?_
    rcases Desk.adds_response config answer (w.desk.popResponse rest) response with
      adds | ⟨s, task, held, adds⟩
    · exact adds.mono quiet
    · exact adds.mono (latched s task held)
  | @output answer drained output producer accepts rejects rest r here oldest stores handled =>
    refine handled_adds handled ?_
    have adds := Desk.adds_output config (w.desk.popOutput rest) output accepts rejects
    split at adds
    · obtain ⟨pushed, -, log⟩ := adds
      exact ⟨_, log, by simpa using token pushed⟩
    · exact .refl _ adds
    · exact .refl _ adds
    · rename_i free
      exact ⟨_, adds, by simpa using idle output producer rest oldest (.inl free)⟩
    · rename_i calm
      exact ⟨_, adds, by simpa using idle output producer rest oldest (.inr calm)⟩
  | memoryRetry here pending stores handled =>
    exact handled_adds handled ((Desk.adds_memory w.desk.takePendingMemoryTask _).mono quiet)
  | memory here pending oldest stores handled =>
    exact handled_adds handled ((Desk.adds_memory w.desk _).mono quiet)
  | cancelRetry here pending stores handled =>
    exact handled_adds handled ((Desk.adds_cancel w.desk.takePendingCancel _ _).mono quiet)
  | cancelDrained here stores handled =>
    exact handled_adds handled ((Desk.adds_cancel w.desk _ _).mono quiet)
  | taskRetry here pending named stores handled =>
    exact handled_adds handled
      ((Desk.adds_task w.desk.dropPendingTask _).mono (given _ (.inl pending)))
  | task here pending oldest named stores handled =>
    exact handled_adds handled
      ((Desk.adds_task w.desk _).mono (given _ (.inr (oldest ▸ List.mem_cons_self))))

theorem Turn.grows : w.desk.log <+: w'.desk.log :=
  (turn.adds (fun _ _ => rfl) (fun _ _ _ _ _ => rfl) (fun _ _ _ _ => rfl) (fun _ => rfl)
    (fun _ _ _ _ _ => rfl)
    : Desk.Adds (fun _ => true) w.desk w'.desk).grows

/-- Only handling a cancel defers or takes up a cancel. -/
theorem Turn.pendingCancel_same (retry : w.pc ≠ .retryCancel)
    (batch : ∀ taskId rest, w.pc ≠ .cancels (taskId :: rest)) :
    w'.desk.pendingRequests.pendingCancelTaskId = w.desk.pendingRequests.pendingCancelTaskId := by
  cases turn with
  | submit | manage | cancel | respond | reject | report | emit | purge | drain | skip => rfl
  | response here room oldest expected stores handled =>
    rw [desk, handled, Desk.pendingCancel_response]
    rfl
  | output here oldest stores handled =>
    rw [desk, handled, Desk.pendingCancel_output]
    rfl
  | memoryRetry here pending stores handled =>
    rw [desk, handled, Desk.pendingCancel_memory]
    rfl
  | memory here pending oldest stores handled => rw [desk, handled, Desk.pendingCancel_memory]
  | cancelRetry here => exact absurd here retry
  | cancelDrained here => exact absurd here (batch _ _)
  | taskRetry here pending named stores handled =>
    rw [desk, handled, Desk.pendingCancel_task]
    rfl
  | task here pending oldest named stores handled => rw [desk, handled, Desk.pendingCancel_task]

end

end World

end InferenceServer.Blaze
