import InferenceServer.Blaze.Turns

/-! Conservation of tasks. A task popped for a slot that takes it is in one place
of the runner or its stream is closed, in every state of every run in which no
step overwrites a task that is still wanted. -/
namespace InferenceServer.Blaze.World

open Machine

variable {config : BlazeConfig} {w w' : World n}
variable {taskId : UInt32}

/-- Where a popped task can be. -/
inductive Whereabouts (n : Nat)
  | pending
  | deferred (s : Fin n)
  | running (s : Fin n)
  | closed
  deriving DecidableEq

/-- The runner closed the task's stream: it pushed a last or an abort token for it,
or evicted the slot it was running on. -/
def ClosedByRunner (w : World n) (taskId : UInt32) : Prop :=
  (∃ token : SharedToken, .token token ∈ w.runner.log ∧ token.taskId = taskId ∧
    (token.isFinal ∨ token.isAbort)) ∨ .evictedRunning taskId ∈ w.runner.log

/-- The runner holds the task, with its stream open. -/
def Held (w : World n) (taskId : UInt32) : Whereabouts n → Prop
  | .pending => w.runner.pendingRequests.pendingTask.map Sequence.taskId = some taskId
  | .deferred s =>
    (w.runner.slotManager.slots s).deferredContinue.map Sequence.taskId = some taskId
  | .running s => w.RunningOn s taskId
  | .closed => False

/-- A task is closed when the runner closed it, or when its client cancelled it and
the runner no longer holds it. -/
def Located (w : World n) (taskId : UInt32) : Whereabouts n → Prop
  | .closed => w.ClosedByRunner taskId ∨
    (taskId ∈ w.history.cancelled ∧ ∀ place, ¬w.Held taskId place)
  | place => w.Held taskId place

/-- The task the runner takes up next: the pending one, or else the oldest queued. -/
def nextTask (w : World n) : Option Sequence :=
  w.runner.pendingRequests.pendingTask.or w.taskQueue.head?

/-- The task a step puts another one in the place of. A STOP ack puts a latched task
the scheduler refuses in the place of the pending one; a task for a slot that
awaits its STOP ack takes the place of the latched one. -/
def overwrites (config : BlazeConfig) (w : World n) : Label n → Option UInt32
  | .run answer =>
    match w.pc with
    | .responses drained =>
      match w.runner.scheduler.responses with
      | { requestType := .stop, slotId := some s, .. } :: _ =>
        let slot := w.runner.slotManager.slots s
        if drained < n ∧ slot.deferredEvict.isNone ∧ slot.deferredContinue.isSome ∧
            !answer.accepts then
          w.runner.pendingRequests.pendingTask.map Sequence.taskId
        else none
      | _ => none
    | .task =>
      match w.nextTask.bind (Sequence.slot config.kind n) with
      | some s =>
        if w.slotState s = .awaitingStopAck then
          (w.runner.slotManager.slots s).deferredContinue.map Sequence.taskId
        else none
      | none => none
    | _ => none
  | _ => none

/-- A step overwrites no task, or one whose client has cancelled it. -/
def KeepsTasks (config : BlazeConfig) (w : World n) (label : Label n) : Prop :=
  ∀ taskId ∈ w.overwrites config label, taskId ∈ w.history.cancelled

instance (w : World n) (label : Label n) : Decidable (KeepsTasks config w label) := by
  unfold KeepsTasks
  cases w.overwrites config label with
  | none => exact isTrue (by simp)
  | some taskId => exact decidable_of_iff (taskId ∈ w.history.cancelled) (by simp)

/-- Every cancel on its way to the runner was made by a client. -/
structure CancelsKnown (w : World n) : Prop where
  queued : ∀ taskId ∈ w.stopQueue, taskId ∈ w.history.cancelled
  drained : ∀ ids, w.pc = .cancels ids → ∀ taskId ∈ ids, taskId ∈ w.history.cancelled
  pending : ∀ taskId, w.desk.pendingRequests.pendingCancelTaskId = some taskId →
    taskId ∈ w.history.cancelled

theorem initial_cancelsKnown (n : Nat) : CancelsKnown (initial n) where
  queued := by simp [initial]
  drained := by simp [initial]
  pending := by simp [initial, desk, Runner.desk, Runner.withSlots, Runner.initial]

theorem CancelsKnown.next {label : Label n} (known : CancelsKnown w)
    (turn : Turn config w label w') : CancelsKnown w' := by
  -- a turn that hands out no cancels and defers none
  have other : w'.stopQueue = w.stopQueue → w'.history.cancelled = w.history.cancelled →
      (∀ ids, w'.pc ≠ .cancels ids) → w'.desk.pendingRequests.pendingCancelTaskId =
        w.desk.pendingRequests.pendingCancelTaskId → CancelsKnown w' := by
    intro queue cancelled nowhere pending
    refine ⟨?_, fun ids here => absurd here (nowhere ids), ?_⟩
    · rw [queue, cancelled]
      exact known.queued
    · rw [pending, cancelled]
      exact known.pending
  have same := turn.pendingCancel_same
  cases turn with
  | submit => exact { known with }
  | manage => exact { known with }
  | cancel =>
    refine ⟨fun taskId member => ?_, fun ids here taskId member => ?_, fun taskId held => ?_⟩
    · rcases List.mem_append.mp member with old | new
      · exact List.mem_append_left _ (known.queued taskId old)
      · exact List.mem_append_right _ new
    · exact List.mem_append_left _ (known.drained ids here taskId member)
    · exact List.mem_append_left _ (known.pending taskId held)
  | respond => exact ⟨known.queued, known.drained, known.pending⟩
  | reject => exact ⟨known.queued, known.drained, known.pending⟩
  | report => exact ⟨known.queued, known.drained, known.pending⟩
  | emit => exact ⟨known.queued, known.drained, known.pending⟩
  | purge => exact ⟨known.queued, known.drained, known.pending⟩
  | response here | output here | memoryRetry here | memory here | taskRetry here | task here =>
    exact other rfl rfl (by simp) (same (by simp [here]) (by simp [here]))
  | @cancelRetry answer taskId r here pending stores handled =>
    refine ⟨known.queued, by simp, fun retried held => ?_⟩
    rw [desk, handled] at held
    rcases Desk.pendingCancel_cancel w.desk.takePendingCancel taskId with taken | new
    · rw [taken] at held
      contradiction
    · rw [new] at held
      exact Option.some.inj held ▸ known.pending taskId pending
  | @cancelDrained answer taskId rest r here stores handled =>
    refine ⟨known.queued, fun ids next other member => ?_, fun other held => ?_⟩
    · rw [← Pc.cancels.inj next] at member
      exact known.drained _ here other (List.mem_cons_of_mem _ member)
    · rw [desk, handled] at held
      rcases Desk.pendingCancel_cancel w.desk taskId with kept | new
      · rw [kept] at held
        exact known.pending other held
      · rw [new] at held
        exact Option.some.inj held ▸ known.drained _ here taskId List.mem_cons_self
  | drain here =>
    refine ⟨by simp [drainCancels], fun ids next taskId member => ?_, known.pending⟩
    rw [← Pc.cancels.inj next] at member
    exact known.queued taskId member
  | skip calm nowhere =>
    exact ⟨known.queued, fun ids next => absurd next (nowhere ids), known.pending⟩

/-- Every admitted task is on the desk or closed, or its client has cancelled it. -/
def Accounted (w : World n) : Prop :=
  ∀ taskId ∈ w.history.admitted,
    Desk.account w.desk taskId = 1 ∨ taskId ∈ w.history.cancelled

/-- A task survives a handler that loses none but a cancelled one. -/
private theorem accounted_of_loss {cancelled : List UInt32} {before after : Nat}
    {loss : Option UInt32} (conserved : after + hits taskId loss = before)
    (known : ∀ lost ∈ loss, lost ∈ cancelled) (held : before = 1 ∨ taskId ∈ cancelled) :
    after = 1 ∨ taskId ∈ cancelled := by
  by_cases lost : loss = some taskId
  · exact .inr (known taskId lost)
  · have none_lost : hits taskId loss = 0 := if_neg lost
    rw [none_lost, Nat.add_zero] at conserved
    exact conserved ▸ held

/-- What a response loses is what its step overwrites. -/
theorem Sound.overwrites_response (sound : Sound config w) (here : w.pc = .responses drained)
    (room : drained < n) (oldest : w.desk.scheduler.responses = response :: rest)
    (lost : Desk.responseLoss (w.desk.popResponse rest) answer response = some taskId) :
    w.overwrites config (.run answer) = some taskId := by
  have queue : w.runner.scheduler.responses = response :: rest := oldest
  obtain ⟨type, requestId, slotId, errorCode, migrationComplete⟩ := response
  unfold Desk.responseLoss at lost
  split at lost
  · rename_i s stop named
    simp only at stop named
    subst stop named
    obtain ⟨-, -, -, evict, latched⟩ := sound.stores.slots s
    unfold Desk.stopAckLoss Desk.phase at lost
    split at lost
    · rename_i owner task phase
      have stopping : w.runner.desk.slotManager s = .stopping owner none (some task) := phase
      rw [stopping] at evict latched
      split at lost
      · contradiction
      · rename_i refused
        have pending : w.runner.pendingRequests.pendingTask.map Sequence.taskId = some taskId := lost
        simp [overwrites, here, queue, room, evict, latched, Phase.deferredEvict,
          Phase.deferredContinue, refused, pending]
    · contradiction
  · contradiction

/-- The task an admitted one takes the place of is what its step overwrites. -/
theorem Sound.overwrites_task (sound : Sound config w) (here : w.pc = .task)
    (pending : w.desk.pendingRequests.pendingTask = none) (oldest : w.taskQueue = task :: queue)
    (named : task.slot config.kind n = some s) (admitted : w.admissible config task = true)
    (lost : Desk.taskLoss w.desk answer task s = some taskId) :
    w.overwrites config (.run answer) = some taskId := by
  have none_pending : w.runner.pendingRequests.pendingTask = none := pending
  have next : w.nextTask.bind (Sequence.slot config.kind n) = some s := by
    simp [nextTask, none_pending, oldest, named]
  obtain ⟨state, -, -, -, latched⟩ := sound.stores.slots s
  simp only [admissible, named, slotState, state, decide_eq_true_eq] at admitted
  unfold Desk.taskLoss Desk.phase at lost
  split at lost
  · rw [pending] at lost
    split at lost <;> contradiction
  · rename_i owner evict held phase
    have stopping : w.runner.desk.slotManager s = .stopping owner evict held := phase
    rw [stopping] at latched state
    simp [overwrites, here, next, slotState, state, latched, Phase.state, Phase.deferredContinue,
      lost]
  · contradiction
  · rename_i phase
    have free : w.runner.desk.slotManager s = .free := phase
    simp [free, Phase.state] at admitted
  · rename_i owner phase
    have running : w.runner.desk.slotManager s = .running owner := phase
    simp [running, Phase.state] at admitted

/-- A task that is not admitted is the only one its step loses. -/
theorem Sound.taskLoss_refused (sound : Sound config w) (answer : SchedulerAnswer)
    (named : task.slot config.kind n = some s) (refused : ¬w.admissible config task = true) :
    Desk.taskLoss w.desk answer task s = some task.taskId := by
  have state : (w.runner.slotManager.slots s).state = (w.desk.slotManager s).state :=
    (sound.stores.slots s).state
  simp only [admissible, named, slotState, state, decide_eq_true_eq] at refused
  unfold Desk.taskLoss Desk.phase
  cases phase : w.desk.slotManager s with
  | free | running => rfl
  | idle | stopping | evicting => simp [phase, Phase.state] at refused

theorem cancelLoss_eq {d : Desk n} (loses : Desk.cancelLoss d cancelled = some taskId) :
    cancelled = taskId := by
  unfold Desk.cancelLoss at loses
  split at loses
  · exact Option.some.inj loses
  · contradiction

/-- A turn that overwrites no wanted task keeps every admitted task accounted for. -/
theorem Accounted.next {label : Label n} (accounted : Accounted w) (sound : Sound config w)
    (known : CancelsKnown w) (keeps : KeepsTasks config w label)
    (turn : Turn config w label w') : Accounted w' := by
  cases turn with
  | submit | manage | respond | reject | report | emit | purge | drain | skip => exact accounted
  | cancel => exact fun taskId member =>
      (accounted taskId member).imp id fun cancelled => List.mem_append_left _ cancelled
  | @response answer drained response rest r here room oldest expected stores handled =>
    intro taskId member
    have conserved := Desk.account_response config (w.desk.popResponse rest) answer
      expected.free taskId
    rw [← handled] at conserved
    exact accounted_of_loss conserved
      (fun lost loses => keeps lost (sound.overwrites_response here room oldest loses))
      (accounted taskId member)
  | @output answer drained output producer accepts rejects rest r here oldest stores handled =>
    intro taskId member
    have conserved := Desk.account_output config (w.desk.popOutput rest) output accepts rejects
      taskId
    rw [← handled] at conserved
    exact (accounted taskId member).imp conserved.trans id
  | @memoryRetry answer request r here pending stores handled =>
    intro taskId member
    have conserved := Desk.account_memory config w.desk.takePendingMemoryTask answer request taskId
    rw [← handled] at conserved
    exact (accounted taskId member).imp conserved.trans id
  | @memory answer request queue r here pending oldest stores handled =>
    intro taskId member
    have conserved := Desk.account_memory config w.desk answer request taskId
    rw [← handled] at conserved
    exact (accounted taskId member).imp conserved.trans id
  | @cancelRetry answer cancelled r here pending stores handled =>
    intro taskId member
    have conserved := Desk.account_cancel w.desk.takePendingCancel answer cancelled taskId
    rw [← handled] at conserved
    refine accounted_of_loss conserved (fun lost loses => ?_) (accounted taskId member)
    exact cancelLoss_eq loses ▸ known.pending cancelled pending
  | @cancelDrained answer cancelled rest r here stores handled =>
    intro taskId member
    have conserved := Desk.account_cancel w.desk answer cancelled taskId
    rw [← handled] at conserved
    refine accounted_of_loss conserved (fun lost loses => ?_) (accounted taskId member)
    exact cancelLoss_eq loses ▸ known.drained _ here cancelled List.mem_cons_self
  | @taskRetry answer task s r here pending named stores handled =>
    intro taskId member
    have conserved := Desk.account_task config w.desk.dropPendingTask answer task s taskId
    have dropped := Desk.account_dropPendingTask w.desk taskId
    obtain ⟨s', named', idle⟩ := sound.routed.pendingTask task pending
    rw [named, Option.some.injEq] at named'
    have kept : Desk.taskLoss w.desk.dropPendingTask answer task s = none := by
      have phase : Desk.phase w.desk.dropPendingTask s = .idle := named' ▸ idle
      unfold Desk.taskLoss
      rw [phase]
      simp [Runner.dropPendingTask]
    rw [kept, hits_none, ← handled] at conserved
    rw [pending, Option.map_some] at dropped
    refine (accounted taskId member).imp (fun one => ?_) id
    change Desk.account r.desk taskId = 1
    omega
  | @task answer task s queue r here pending oldest named stores handled =>
    intro taskId member
    have conserved := Desk.account_task config w.desk answer task s taskId
    have queued : task ∈ w.taskQueue := by rw [oldest]; exact List.mem_cons_self
    rw [← handled] at conserved
    by_cases admitted : w.admissible config task
    · have before : Desk.account w.desk taskId + hits taskId (some task.taskId) = 1 ∨
          taskId ∈ w.history.cancelled := by
        by_cases same : task.taskId = taskId
        · have absent := sound.queued_open queued
          have one : hits taskId (some task.taskId) = 1 := if_pos (by rw [same])
          exact .inl (by rw [one, ← same, absent])
        · have other : hits taskId (some task.taskId) = 0 := if_neg (by simpa using same)
          simp only [noteAdmitted, admitted, ↓reduceIte, List.mem_append,
            List.mem_singleton] at member
          rw [other, Nat.add_zero]
          exact accounted taskId (member.resolve_right fun new => same new.symm)
      exact accounted_of_loss conserved
        (fun lost loses => keeps lost
          (sound.overwrites_task here pending oldest named admitted loses)) before
    · have same : (w.noteAdmitted config task).admitted = w.history.admitted := by
        simp [noteAdmitted, admitted]
      rw [same] at member
      refine (accounted taskId member).imp (fun one => ?_) id
      change Desk.account r.desk taskId = 1
      have refused := sound.taskLoss_refused answer named admitted
      rw [refused] at conserved
      omega

theorem closedByRunner_iff : w.ClosedByRunner taskId ↔ 0 < closings w.desk.log taskId := by
  rw [tally_pos]
  constructor
  · rintro (⟨token, member, rfl, last⟩ | evicted)
    · exact ⟨_, member, by simp [Effect.closes, last]⟩
    · exact ⟨_, evicted, rfl⟩
  · rintro ⟨effect, member, closes⟩
    cases effect with
    | token pushed =>
      simp only [Effect.closes, Bool.or_eq_true] at closes
      split at closes
      · rename_i last
        exact .inl ⟨pushed, member, Option.some.inj closes, last⟩
      · contradiction
    | evictedRunning other => exact .inr (Option.some.inj closes ▸ member)
    | push | allocateReply | assertion => contradiction

/-- A slot that holds a task has it latched or runs it. -/
theorem Sound.held_slot (sound : Sound config w) (s : Fin n) :
    (w.desk.slotManager s).holds = some taskId ↔
      w.Held taskId (.deferred s) ∨ w.Held taskId (.running s) := by
  obtain ⟨state, task, -, -, latched⟩ := sound.stores.slots s
  have same : w.runner.desk.slotManager s = w.desk.slotManager s := rfl
  rw [same] at state task latched
  simp only [Held, RunningOn]
  rw [state, task, latched]
  cases w.desk.slotManager s <;>
    simp [Phase.holds, Phase.state, Phase.taskId, Phase.deferredContinue]

/-- A task with a copy on the desk is held somewhere. -/
theorem Sound.held_exists (sound : Sound config w) (copied : Desk.copies w.desk taskId ≠ 0) :
    ∃ place, w.Held taskId place := by
  by_contra nowhere
  refine copied (Nat.add_eq_zero_iff.mpr ⟨if_neg fun pending => ?_, ?_⟩)
  · exact nowhere ⟨.pending, pending⟩
  · refine Finset.sum_eq_zero fun s _ => if_neg fun holds => ?_
    rcases (sound.held_slot s).mp holds with deferred | running
    · exact nowhere ⟨_, deferred⟩
    · exact nowhere ⟨_, running⟩

/-- The slot a place is on, if it is on one. -/
def Whereabouts.slot : Whereabouts n → Option (Fin n)
  | .pending | .closed => none
  | .deferred s | .running s => some s

section

variable (sound : Sound config w)
include sound

/-- A task that is held has a copy on the desk: the pending one or a slot's. -/
theorem Sound.held_copy {place : Whereabouts n} (held : w.Held taskId place) :
    (place = .pending ∧ w.desk.pendingRequests.pendingTask.map Sequence.taskId = some taskId) ∨
      ∃ s, place.slot = some s ∧ (w.desk.slotManager s).holds = some taskId := by
  cases place with
  | pending => exact .inl ⟨rfl, held⟩
  | deferred s => exact .inr ⟨s, rfl, (sound.held_slot s).mpr (.inl held)⟩
  | running s => exact .inr ⟨s, rfl, (sound.held_slot s).mpr (.inr held)⟩
  | closed => exact held.elim

/-- A latched task is not running on its slot. -/
theorem Sound.latched_not_running {s : Fin n} (latched : w.Held taskId (.deferred s)) :
    ¬w.Held taskId (.running s) := by
  obtain ⟨state, -, -, -, deferred⟩ := sound.stores.slots s
  rintro ⟨running, -⟩
  simp only [Held] at latched
  rw [state] at running
  rw [deferred] at latched
  obtain ⟨task, phase⟩ := Phase.state_running_iff.mp running
  rw [phase] at latched
  contradiction

/-- A task is held in one place. -/
theorem Sound.held_unique {place other : Whereabouts n} (held : w.Held taskId place)
    (also : w.Held taskId other) : place = other := by
  have once := sound.copies_le_one taskId
  rcases sound.held_copy held with ⟨rfl, pending⟩ | ⟨s, on, holds⟩
  · rcases sound.held_copy also with ⟨rfl, -⟩ | ⟨s, -, holds⟩
    · rfl
    · exact absurd pending (Desk.copies_once once holds).1
  · rcases sound.held_copy also with ⟨-, pending⟩ | ⟨s', on', holds'⟩
    · exact absurd pending (Desk.copies_once once holds).1
    · have same : s' = s := by
        by_contra differs
        exact (Desk.copies_once once holds).2 s' differs holds'
      subst same
      cases place <;> cases other <;> simp only [Whereabouts.slot, Option.some.injEq,
        reduceCtorEq] at on on' <;> subst on <;> subst on'
      · rfl
      · exact absurd also (sound.latched_not_running held)
      · exact absurd held (sound.latched_not_running also)
      · rfl

/-- A task without a copy on the desk is held nowhere. -/
theorem Sound.unheld (gone : Desk.copies w.desk taskId = 0) (place : Whereabouts n) :
    ¬w.Held taskId place := by
  intro held
  obtain ⟨unpended, unslotted⟩ := Desk.copies_zero gone
  rcases sound.held_copy held with ⟨-, pending⟩ | ⟨s, -, holds⟩
  · exact unpended pending
  · exact unslotted s holds

/-- A task is in exactly one place when it is accounted for, and only then. -/
theorem Sound.located_iff : (∃! place, w.Located taskId place) ↔
      Desk.account w.desk taskId = 1 ∨ taskId ∈ w.history.cancelled := by
  have once := sound.account_le_one taskId
  constructor
  · rintro ⟨place, located, -⟩
    by_contra lost
    obtain ⟨unaccounted, wanted⟩ := not_or.mp lost
    have gone : Desk.copies w.desk taskId = 0 ∧ closings w.desk.log taskId = 0 := by
      unfold Desk.account at once unaccounted
      omega
    have unheld := sound.unheld gone.1
    cases place with
    | pending => exact unheld .pending located
    | deferred s => exact unheld (.deferred s) located
    | running s => exact unheld (.running s) located
    | closed =>
      rcases located with closed | ⟨cancelled, -⟩
      · exact absurd (closedByRunner_iff.mp closed) (by omega)
      · exact wanted cancelled
  · intro accounted
    by_cases copied : Desk.copies w.desk taskId = 0
    · have unheld := sound.unheld copied
      refine ⟨.closed, ?_, fun place located => ?_⟩
      · rcases accounted with one | cancelled
        · refine .inl (closedByRunner_iff.mpr ?_)
          unfold Desk.account at one
          omega
        · exact .inr ⟨cancelled, unheld⟩
      · cases place with
        | closed => rfl
        | pending => exact (unheld .pending located).elim
        | deferred s => exact (unheld (.deferred s) located).elim
        | running s => exact (unheld (.running s) located).elim
    · obtain ⟨place, held⟩ := sound.held_exists copied
      refine ⟨place, ?_, fun other located => ?_⟩
      · cases place with
        | closed => exact held.elim
        | pending | deferred | running => exact held
      · cases other with
        | closed =>
          rcases located with closed | ⟨-, unheld⟩
          · exact absurd held
              (sound.unheld (sound.closed_off (closedByRunner_iff.mp closed)) place)
          · exact absurd held (unheld place)
        | pending | deferred | running => exact sound.held_unique located held

end

/-- Task conservation: in a run that overwrites no wanted task, every task popped
for a slot that takes it is in exactly one place of the runner, or closed. -/
theorem tasks_conserved (reached : Reaches (step config) (KeepsTasks config) (initial n) w) :
    ∀ taskId ∈ w.history.admitted, ∃! place, w.Located taskId place := by
  have kept := reached.invariant
    (fun w => Sound config w ∧ CancelsKnown w ∧ Accounted w)
    ⟨initial_sound config n, initial_cancelsKnown n, by simp [Accounted, initial]⟩
    fun before label after ⟨sound, known, accounted⟩ keeps stepped =>
      ⟨sound.step stepped, known.next (sound.turn stepped),
        accounted.next sound known keeps (sound.turn stepped)⟩
  obtain ⟨sound, -, accounted⟩ := kept
  exact fun taskId admitted => sound.located_iff.mpr (accounted taskId admitted)

/-- Task 1 runs on slot 0 and is cancelled, task 2 is latched until its STOP ack
comes, and task 3 is refused on slot 1. -/
def latchedAndRefused : List (Label 2) :=
  allocateBoth ++ [.submit { taskId := 1, kvCacheSlot := 0 }] ++ ticks 7 ++
    [.cancel 1, .submit { taskId := 2, kvCacheSlot := 0 }] ++ ticks 8 ++
    [.submit { taskId := 3, kvCacheSlot := 1 }] ++ ticks 6 ++ [tickFull, .respond 0 none]

theorem latchedAndRefused_runs : (runWithin (step decodeConfig) (KeepsTasks decodeConfig)
    (initial 2) latchedAndRefused).isSome = true := by decide

/-- Where that run ends. -/
def latchedAndRefusedEnd : World 2 :=
  (runWithin (step decodeConfig) (KeepsTasks decodeConfig) (initial 2) latchedAndRefused).get
    latchedAndRefused_runs

theorem tasks_conserved_latchedAndRefused :
    (∃! place, latchedAndRefusedEnd.Located 2 place) ∧
      ∃! place, latchedAndRefusedEnd.Located 3 place :=
  ⟨tasks_conserved (reaches_get latchedAndRefused_runs) 2 (by decide),
    tasks_conserved (reaches_get latchedAndRefused_runs) 3 (by decide)⟩

theorem latchedAndRefused_acked : (runWithin (step decodeConfig) (fun _ _ => True)
    (initial 2) (latchedAndRefused ++ [tickFull])).isSome = true := by decide

/-- When the scheduler then refuses task 2, it takes the place of task 3, which is
neither held nor closed. -/
theorem tasks_not_conserved :
    ¬∀ (config : BlazeConfig) (n : Nat) (w : World n),
      Reaches (step config) (fun _ _ => True) (initial n) w →
      ∀ taskId ∈ w.history.admitted, ∃! place, w.Located taskId place := by
  intro conserved
  have reached := reaches_get latchedAndRefused_acked
  have located := conserved _ _ _ reached 3 (by decide)
  exact absurd ((reached_sound reached).located_iff.mp located) (by decide)

/-- In any run, also one that overwrites tasks, a stream is closed once at most, and a task is then
neither queued nor held; until then it is in one place at most. -/
theorem streams_closed_once (reached : Reaches (step config) allowed (initial n) w)
    (taskId : UInt32) : closings w.runner.log taskId ≤ 1 ∧
      (w.ClosedByRunner taskId → (∀ place, ¬w.Held taskId place) ∧
        ∀ task ∈ w.taskQueue, task.taskId ≠ taskId) ∧
      (∀ place, w.Held taskId place → (∀ other, w.Held taskId other → place = other) ∧
        ∀ task ∈ w.taskQueue, task.taskId ≠ taskId) := by
  have sound := reached_sound reached
  have once := sound.account_le_one taskId
  have unqueued : Desk.account w.desk taskId ≠ 0 → ∀ task ∈ w.taskQueue, task.taskId ≠ taskId := by
    intro known task member same
    have queued := List.one_le_count_iff.mpr (List.mem_map.mpr ⟨task, member, same⟩)
    have bound := sound.ledger taskId
    have issued := List.nodup_iff_count_le_one.mp sound.distinct taskId
    omega
  refine ⟨Nat.le_trans (Nat.le_add_left _ _) once, fun closed => ?_, fun place held => ?_⟩
  · have closing := closedByRunner_iff.mp closed
    refine ⟨sound.unheld (sound.closed_off closing), unqueued ?_⟩
    unfold Desk.account
    omega
  · refine ⟨fun other also => sound.held_unique held also, unqueued ?_⟩
    have copied : Desk.copies w.desk taskId ≠ 0 := fun gone => sound.unheld gone place held
    unfold Desk.account
    omega

theorem streams_closed_once_acked : closings ((runWithin (step decodeConfig) (fun _ _ => True)
    (initial 2) (latchedAndRefused ++ [tickFull])).get latchedAndRefused_acked).runner.log 2 ≤ 1 :=
  (streams_closed_once (reaches_get latchedAndRefused_acked) 2).1

end InferenceServer.Blaze.World
