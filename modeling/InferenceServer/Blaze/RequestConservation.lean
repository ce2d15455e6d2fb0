import InferenceServer.Blaze.Deferrals
import InferenceServer.Blaze.Turns

/-! Conservation of memory requests and cancels. In a run in which nothing deferred
is overwritten, the memory requests obtained are all accepted, pending or latched,
and a cancel drained for a running task is pushed, remembered or pointless. -/
namespace InferenceServer.Blaze.World

open Machine

variable {config : BlazeConfig} {w w' : World n}
variable {label : Label n} {taskId : UInt32}
variable {request given : ManageMemoryTask n} {d : Desk n}

/-- The places of the runner that hold a memory request: pending, or latched on a
slot that awaits its STOP ack. -/
def requestsHeld (config : BlazeConfig) (w : World n) (request : ISRequest n) : Nat :=
  hits request (w.runner.pendingRequests.pendingMemoryTask.bind
    (ManageMemoryTask.asRequest config)) +
    ∑ s, hits request (w.runner.slotManager.slots s).deferredEvict

/-- A STOP for the task was accepted by the scheduler. -/
def StopPushed (w : World n) (taskId : UInt32) : Prop :=
  ∃ s, .push (makeStopRequest taskId s) none true ∈ w.runner.log

/-- A cancel the runner has yet to handle or to retry. -/
def CancelRemembered (w : World n) (taskId : UInt32) : Prop :=
  w.runner.pendingRequests.pendingCancelTaskId = some taskId ∨
    ∃ taskIds, w.pc = .cancels taskIds ∧ taskId ∈ taskIds

/-- The runner accounts for every memory request and every cancel it took. -/
structure RequestsConserved (config : BlazeConfig) (w : World n) : Prop where
  /-- each request was obtained as often as it was accepted and is held now; an
  answered request was accepted before -/
  memory : ∀ request : ISRequest n, request.type ≠ .stop →
    tally (ManageMemoryTask.asRequest config) w.history.obtained request =
      w.requestsHeld config request + acceptances w.runner.log request
  cancels : ∀ taskId ∈ w.history.drainedRunning,
    w.StopPushed taskId ∨ w.CancelRemembered taskId ∨ ∀ s, ¬w.RunningOn s taskId

/-- Nothing deferred was replaced by something else. -/
structure Undisturbed (w w' : World n) : Prop where
  memory : ∀ request request', w.runner.pendingRequests.pendingMemoryTask = some request →
    w'.runner.pendingRequests.pendingMemoryTask = some request' → request = request'
  latched : ∀ s evict evict', (w.runner.slotManager.slots s).deferredEvict = some evict →
    (w'.runner.slotManager.slots s).deferredEvict = some evict' → evict = evict'
  cancel : ∀ taskId taskId', w.runner.pendingRequests.pendingCancelTaskId = some taskId →
    w'.runner.pendingRequests.pendingCancelTaskId = some taskId' → taskId = taskId'

/-- The memory request the runner takes up next. -/
def nextMemoryRequest (w : World n) : Option (ManageMemoryTask n) :=
  w.runner.pendingRequests.pendingMemoryTask.or w.memoryQueue.head?

/-- A step puts a memory request or a cancel in the place of another one: a refused
EVICT replayed by a STOP ack while a memory request is pending, a DEALLOCATE of a
slot that has an EVICT latched, or a refused STOP while another cancel is pending. -/
def overwritesRequest (w : World n) : Label n → Bool
  | .run answer =>
    match w.pc with
    | .responses drained =>
      match w.runner.scheduler.responses with
      | { requestType := .stop, slotId := some s, .. } :: _ =>
        drained < n ∧ !answer.accepts ∧ (w.runner.slotManager.slots s).deferredEvict.isSome ∧
          w.runner.pendingRequests.pendingMemoryTask.isSome
      | _ => false
    | .memory =>
      match w.nextMemoryRequest with
      | some { action := .deallocate, slotId := some s, .. } =>
        w.slotState s = .awaitingStopAck ∧ (w.runner.slotManager.slots s).deferredEvict.isSome
      | _ => false
    | .cancels (taskId :: _) =>
      !answer.accepts ∧ w.runner.pendingRequests.pendingTask.map Sequence.taskId ≠ some taskId ∧
        (∃ s, w.RunningOn s taskId) ∧ w.runner.pendingRequests.pendingCancelTaskId.isSome ∧
        w.runner.pendingRequests.pendingCancelTaskId ≠ some taskId
    | _ => false
  | _ => false

/-- A step overwrites no deferred memory request and no deferred cancel. -/
def KeepsRequests (w : World n) (label : Label n) : Prop := w.overwritesRequest label = false

instance (w : World n) (label : Label n) : Decidable (KeepsRequests w label) :=
  inferInstanceAs (Decidable (_ = _))

/-! ## Memory requests -/

theorem Sound.latchedEvict (sound : Sound config w) (s : Fin n) :
    (w.runner.slotManager.slots s).deferredEvict = (w.desk.slotManager s).latchedEvict s :=
  (sound.stores.slots s).evict

/-- All memory requests obtained are on the desk or accepted, and the pending one
can be carried out. -/
structure MemoryKept (config : BlazeConfig) (w : World n) : Prop where
  conserved : ∀ request : ISRequest n, request.type ≠ .stop →
    tally (ManageMemoryTask.asRequest config) w.history.obtained request =
      Desk.requestAccount config w.desk request
  evictable : Desk.PendingEvictable w.desk

theorem initial_memoryKept (config : BlazeConfig) (n : Nat) : MemoryKept config (initial n) where
  conserved := by
    intro request _
    simp [initial, desk, Runner.desk, Desk.requestAccount, Desk.waiting, Runner.initial,
      Runner.withSlots, SlotManager.initial, SlotContext.phase, Phase.latchedEvict,
      Phase.deferredEvict]
  evictable := Desk.pendingEvictable_none rfl

/-- A DEALLOCATE whose step overwrites nothing is of a slot without a latched EVICT. -/
theorem Sound.unlatched (sound : Sound config w) (here : w.pc = .memory)
    (next : w.nextMemoryRequest = some given) (keeps : KeepsRequests w (.run answer))
    (s : Fin n) (names : Desk.Deallocates given s) :
    (w.desk.slotManager s).deferredEvict = none := by
  by_contra latched
  have stopping : w.slotState s = .awaitingStopAck := by
    rw [sound.slotState_eq]
    cases phase : w.desk.slotManager s <;> simp_all [Phase.deferredEvict, Phase.state]
  have evict : (w.runner.slotManager.slots s).deferredEvict ≠ none := by
    rw [sound.latchedEvict]
    simpa [Phase.latchedEvict] using latched
  obtain ⟨taskId, action, slotId, slotIdToCopyFrom⟩ := given
  obtain ⟨rfl, rfl⟩ := names
  simp [KeepsRequests, overwritesRequest, here, next, stopping, Option.isSome_iff_ne_none,
    evict] at keeps

theorem nextMemoryRequest_pending
    (pending : w.desk.pendingRequests.pendingMemoryTask = some given) :
    w.nextMemoryRequest = some given := by
  have held : w.runner.pendingRequests.pendingMemoryTask = some given := pending
  simp [nextMemoryRequest, held]

theorem nextMemoryRequest_queued (pending : w.desk.pendingRequests.pendingMemoryTask = none)
    (oldest : w.memoryQueue = given :: queue) : w.nextMemoryRequest = some given := by
  have empty : w.runner.pendingRequests.pendingMemoryTask = none := pending
  simp [nextMemoryRequest, empty, oldest]

/-- A slot whose EVICT is not due yet takes a DEALLOCATE. -/
theorem evictable_of_accountable (sound : Sound config w) (accountable : w.accountable request)
    (names : Desk.Deallocates request s) (unlatched : (w.desk.slotManager s).deferredEvict = none) :
    (w.desk.slotManager s).evictable := by
  obtain ⟨action, slot⟩ := names
  simp only [World.accountable, action, slot, sound.slotState_eq, decide_eq_true_eq] at accountable
  cases phase : w.desk.slotManager s with
  | stopping owner evictId latched =>
    rw [phase] at unlatched
    cases evictId with
    | none => rfl
    | some => contradiction
  | free | evicting => simp [phase, Phase.state] at accountable
  | idle | running => rfl

/-- A memory request whose slot it can evict is not lost. -/
theorem memoryLoss_none (empty : d.pendingRequests.pendingMemoryTask = none)
    (evictable : ∀ s, Desk.Deallocates given s → (d.slotManager s).evictable) :
    Desk.memoryLoss config d answer given = none := by
  have none_waits : Desk.refusalLoss config d answer = none := by
    unfold Desk.refusalLoss Desk.waiting
    rw [empty]
    split <;> rfl
  obtain ⟨taskId, action, slotId, slotIdToCopyFrom⟩ := given
  cases action with
  | allocate => exact none_waits
  | deallocate =>
    cases slotId with
    | none => rfl
    | some s =>
      have carried := evictable s ⟨rfl, rfl⟩
      simp only [Desk.memoryLoss, Desk.evictLoss, Desk.phase]
      cases phase : d.slotManager s with
      | stopping owner evictId latched =>
        rw [phase] at carried
        cases evictId with
        | none => rfl
        | some => contradiction
      | idle | running => exact none_waits
      | evicting | free =>
        rw [phase] at carried
        contradiction
  | move => rfl

section

variable (sound : Sound config w)
include sound

/-- A memory request the runner need not account for is the only one it loses. -/
theorem Sound.memoryLoss_refused (answer : SchedulerAnswer) (refused : ¬w.accountable given) :
    Desk.memoryLoss config w.desk answer given = given.asRequest config := by
  obtain ⟨taskId, action, slotId, slotIdToCopyFrom⟩ := given
  cases action with
  | allocate => exact absurd rfl refused
  | deallocate =>
    cases slotId with
    | none => rfl
    | some s =>
      simp only [World.accountable, sound.slotState_eq, decide_eq_true_eq] at refused
      simp only [Desk.memoryLoss, Desk.evictLoss, Desk.phase]
      cases phase : w.desk.slotManager s with
      | free | evicting => rfl
      | idle | running | stopping => simp [phase, Phase.state] at refused
  | move => rfl

/-- What a response loses its step overwrites. -/
theorem Sound.overwritesRequest_response (here : w.pc = .responses drained) (room : drained < n)
    (oldest : w.desk.scheduler.responses = response :: rest) (stop : response.requestType = .stop)
    (slot : response.slotId = some s) (refused : answer.accepts = false)
    (latched : (w.desk.slotManager s).deferredEvict.isSome)
    (pending : w.desk.pendingRequests.pendingMemoryTask.isSome) :
    w.overwritesRequest (.run answer) = true := by
  have queue : w.runner.scheduler.responses = response :: rest := oldest
  have occupied : w.runner.pendingRequests.pendingMemoryTask.isSome := pending
  have evict : (w.runner.slotManager.slots s).deferredEvict.isSome := by
    rw [sound.latchedEvict]
    simpa [Phase.latchedEvict] using latched
  obtain ⟨type, requestId, slotId, errorCode, migrationComplete⟩ := response
  simp only at stop slot
  subst stop slot
  simp [overwritesRequest, here, queue, room, refused, evict, occupied]

/-- A response whose step overwrites nothing loses no memory request. -/
theorem Sound.responseMemoryLoss_none (here : w.pc = .responses drained) (room : drained < n)
    (oldest : w.desk.scheduler.responses = response :: rest) (keeps : KeepsRequests w (.run answer)) :
    Desk.responseMemoryLoss config (w.desk.popResponse rest) answer response = none := by
  unfold Desk.responseMemoryLoss
  split
  · rename_i s stop slot
    unfold Desk.stopAckMemoryLoss Desk.phase
    split
    · rename_i owner evictId latched phase
      have held : w.desk.slotManager s = .stopping owner (some evictId) latched := phase
      unfold Desk.refusalLoss
      split
      · rfl
      · rename_i refused
        cases pending : w.desk.pendingRequests.pendingMemoryTask with
        | none =>
          have empty : (w.desk.popResponse rest).pendingRequests.pendingMemoryTask = none := pending
          rw [Desk.waiting, empty]
          rfl
        | some request =>
          have overwrites := sound.overwritesRequest_response here room oldest stop slot
            (Bool.eq_false_iff.mpr refused) (by rw [held]; rfl) (by rw [pending]; rfl)
          rw [KeepsRequests, overwrites] at keeps
          contradiction
    · rfl
  · rfl

end

private theorem MemoryKept.handled {r : BlazeRunner n} {pc : Pc} {queue : List Sequence}
    {requests : List (ManageMemoryTask n)} {history : History n}
    (conserved : ∀ request : ISRequest n, request.type ≠ .stop →
      tally (ManageMemoryTask.asRequest config) history.obtained request =
        Desk.requestAccount config r.desk request)
    (evictable : Desk.PendingEvictable r.desk) : MemoryKept config { w with
      runner := r, pc, taskQueue := queue, memoryQueue := requests, history } :=
  ⟨conserved, evictable⟩

/-- A turn that overwrites no memory request keeps them all. -/
theorem MemoryKept.next (kept : MemoryKept config w) (sound : Sound config w)
    (keeps : KeepsRequests w label) (turn : Turn config w label w') : MemoryKept config w' := by
  obtain ⟨conserved, evictable⟩ := kept
  cases turn with
  | submit | manage | cancel | drain | skip => exact ⟨conserved, evictable⟩
  | respond | reject | report | emit | purge => exact ⟨conserved, evictable⟩
  | @response answer drained response rest r here room oldest expected stores handled =>
    have none_lost := sound.responseMemoryLoss_none here room oldest keeps
    refine .handled (fun request memory => ?_) ?_
    · have account := Desk.requestAccount_response config (w.desk.popResponse rest) answer
        expected.free request
      rw [none_lost, hits_none, Nat.add_zero, ← handled] at account
      exact (conserved request memory).trans account.symm
    · have popped : Desk.PendingEvictable (w.desk.popResponse rest) := evictable
      exact handled ▸ popped.response response
  | @output answer drained output producer accepts rejects rest r here oldest stores handled =>
    refine .handled (fun request memory => ?_) ?_
    · have account := Desk.requestAccount_output config (w.desk.popOutput rest) output accepts
        rejects request
      rw [← handled] at account
      exact (conserved request memory).trans account.symm
    · have popped : Desk.PendingEvictable (w.desk.popOutput rest) := evictable
      exact handled ▸ popped.output output accepts rejects
  | @memoryRetry answer given r here pending stores handled =>
    refine .handled (fun request memory => ?_) ?_
    · have taken := Desk.requestAccount_takePendingMemoryTask config w.desk request
      have account := Desk.requestAccount_memory config w.desk.takePendingMemoryTask answer given
        request
      have none_lost : Desk.memoryLoss config w.desk.takePendingMemoryTask answer given = none :=
        memoryLoss_none rfl (evictable given pending)
      rw [none_lost, hits_none, ← handled] at account
      have waits : Desk.waiting config w.desk = given.asRequest config := by
        rw [Desk.waiting, pending]
        rfl
      rw [waits] at taken
      have held := conserved request memory
      omega
    · exact handled ▸ Desk.pendingEvictable_memory rfl
  | @memory answer given queue r here pending oldest stores handled =>
    refine .handled (fun request memory => ?_) ?_
    · have account := Desk.requestAccount_memory config w.desk answer given request
      have held := conserved request memory
      rw [← handled] at account
      by_cases accountable : w.accountable given
      · have none_lost : Desk.memoryLoss config w.desk answer given = none := by
          refine memoryLoss_none pending fun s names =>
            evictable_of_accountable sound accountable names ?_
          exact sound.unlatched here (nextMemoryRequest_queued pending oldest) keeps s names
        rw [none_lost, hits_none] at account
        simp [noteObtained, if_pos accountable]
        omega
      · rw [sound.memoryLoss_refused answer accountable] at account
        simp [noteObtained, if_neg accountable]
        omega
    · exact handled ▸ Desk.pendingEvictable_memory pending
  | @cancelRetry answer cancelled r here pending stores handled =>
    have taken : Desk.PendingEvictable w.desk.takePendingCancel := evictable
    refine .handled (fun request memory => ?_) (handled ▸ taken.cancel cancelled)
    have account := Desk.requestAccount_cancel config w.desk.takePendingCancel answer cancelled
      memory
    rw [← handled] at account
    exact (conserved request memory).trans account.symm
  | @cancelDrained answer cancelled rest r here stores handled =>
    refine .handled (fun request memory => ?_) (handled ▸ evictable.cancel cancelled)
    have account := Desk.requestAccount_cancel config w.desk answer cancelled memory
    rw [← handled] at account
    exact (conserved request memory).trans account.symm
  | @taskRetry answer task s r here pending named stores handled =>
    have dropped : Desk.PendingEvictable w.desk.dropPendingTask := evictable
    refine .handled (fun request memory => ?_) (handled ▸ dropped.task task)
    have account := Desk.requestAccount_task config w.desk.dropPendingTask answer task s request
    rw [← handled] at account
    exact (conserved request memory).trans account.symm
  | @task answer task s queue r here pending oldest named stores handled =>
    refine .handled (fun request memory => ?_) (handled ▸ evictable.task task)
    have account := Desk.requestAccount_task config w.desk answer task s request
    rw [← handled] at account
    exact (conserved request memory).trans account.symm

/-! ## Cancels -/

theorem Turn.settles (turn : Turn config w label w') : Desk.Settles w.desk w'.desk := by
  have settled : ∀ {d d' : Desk n} {r : BlazeRunner n}, r.desk = d' →
      d.slotManager = w.desk.slotManager → Desk.Settles d d' → Desk.Settles w.desk r.desk := by
    intro d d' r handled slots settles s task running
    rw [handled]
    exact settles s task (slots ▸ running)
  cases turn with
  | submit | manage | cancel | respond | reject | report | emit | purge | drain | skip => exact .of_same rfl
  | @response answer drained response rest r here room oldest expected stores handled =>
    exact settled (d := w.desk.popResponse rest) handled rfl (Desk.settles_response expected.free)
  | @output answer drained output producer accepts rejects rest r here oldest stores handled =>
    exact settled (d := w.desk.popOutput rest) handled rfl
      (Desk.settles_output output accepts rejects)
  | @memoryRetry answer given r here pending stores handled =>
    exact settled (d := w.desk.takePendingMemoryTask) handled rfl (Desk.settles_memory given)
  | @memory answer given queue r here pending oldest stores handled =>
    exact settled handled rfl (Desk.settles_memory given)
  | @cancelRetry answer cancelled r here pending stores handled =>
    exact settled (d := w.desk.takePendingCancel) handled rfl (Desk.settles_cancel cancelled)
  | @cancelDrained answer cancelled rest r here stores handled =>
    exact settled handled rfl (Desk.settles_cancel cancelled)
  | @taskRetry answer task s r here pending named stores handled =>
    exact settled (d := w.desk.dropPendingTask) handled rfl (Desk.settles_task task)
  | @task answer task s queue r here pending oldest named stores handled =>
    exact settled handled rfl (Desk.settles_task task)

/-- A cancel drained for a running task has been dealt with or will be. -/
structure CancelKept (w : World n) (taskId : UInt32) : Prop where
  live : (∃ s, w.desk.slotManager s = .running taskId) ∨ 0 < closings w.desk.log taskId
  kept : w.StopPushed taskId ∨ w.CancelRemembered taskId ∨ 0 < closings w.desk.log taskId

theorem CancelKept.next (cancel : CancelKept w taskId) (turn : Turn config w label w')
    (remembered : w.CancelRemembered taskId →
      w'.StopPushed taskId ∨ w'.CancelRemembered taskId ∨ 0 < closings w'.desk.log taskId) :
    CancelKept w' taskId where
  live := by
    rcases cancel.live with ⟨s, running⟩ | closed
    · exact (turn.settles s taskId running).imp (fun still => ⟨s, still⟩) id
    · exact .inr (Nat.lt_of_lt_of_le closed (tally_mono turn.grows taskId))
  kept := by
    rcases cancel.kept with ⟨s, pushed⟩ | recalled | closed
    · exact .inl ⟨s, turn.grows.subset pushed⟩
    · exact remembered recalled
    · exact .inr (.inr (Nat.lt_of_lt_of_le closed (tally_mono turn.grows taskId)))

/-- Outside the cancels of a batch only a deferred cancel is remembered. -/
theorem CancelRemembered.pending (remembered : w.CancelRemembered taskId)
    (other : ∀ ids, w.pc ≠ .cancels ids) :
    w.desk.pendingRequests.pendingCancelTaskId = some taskId :=
  remembered.resolve_right fun ⟨ids, here, _⟩ => other ids here

section

variable (sound : Sound config w)
include sound

/-- Handling the cancel of a task that was drained pushes its STOP or defers it,
unless the stream is closed already. -/
theorem Sound.cancel_handled (answer : SchedulerAnswer) (cancel : CancelKept w taskId)
    (slots : d.slotManager = w.desk.slotManager)
    (pendingTask : d.pendingRequests.pendingTask = w.desk.pendingRequests.pendingTask)
    (log : d.log = w.desk.log) :
    (∃ s, .push (makeStopRequest taskId s) none true ∈ (Desk.cancel d answer taskId).log) ∨
      (Desk.cancel d answer taskId).pendingRequests.pendingCancelTaskId = some taskId ∨
      0 < closings (Desk.cancel d answer taskId).log taskId := by
  rcases cancel.live with ⟨s, running⟩ | closed
  · have held : (w.desk.slotManager s).holds = some taskId := by rw [running]; rfl
    have elsewhere := (Desk.copies_once (sound.copies_le_one taskId) held).1
    rw [← pendingTask] at elsewhere
    rw [← slots] at running
    exact (Desk.cancel_running running elsewhere).imp id .inl
  · have grows := (Desk.adds_cancel d answer taskId).grows
    rw [log] at grows
    exact .inr (.inr (Nat.lt_of_lt_of_le closed (tally_mono grows taskId)))

/-- In a batch that overwrites no deferred cancel, the deferred one stays. -/
theorem pendingCancel_kept {cancelled : UInt32} (here : w.pc = .cancels (cancelled :: rest))
    (keeps : KeepsRequests w (.run answer))
    (pending : w.desk.pendingRequests.pendingCancelTaskId = some taskId) :
    (Desk.cancel w.desk answer cancelled).pendingRequests.pendingCancelTaskId = some taskId := by
  rcases Desk.pendingCancel_refused w.desk answer cancelled with
    same | ⟨refused, elsewhere, ⟨s, running⟩, deferred⟩
  · exact same.trans pending
  · by_cases first : cancelled = taskId
    · exact first ▸ deferred
    · have unretried : w.runner.pendingRequests.pendingTask.map Sequence.taskId ≠
        some cancelled := elsewhere
      have occupied : w.runner.pendingRequests.pendingCancelTaskId = some taskId := pending
      have bound : ∃ s, w.RunningOn s cancelled := ⟨s, sound.runningOn_iff.mpr running⟩
      have other : taskId ≠ cancelled := fun same => first same.symm
      simp only [KeepsRequests, overwritesRequest, here, occupied, refused, Bool.not_false,
        Option.isSome_some, decide_eq_false_iff_not] at keeps
      exact absurd ⟨trivial, unretried, bound, trivial, fun same => other (Option.some.inj same)⟩
        keeps

/-- A turn that overwrites no deferred cancel keeps every cancel. -/
theorem cancelKept_next (kept : ∀ taskId ∈ w.history.drainedRunning, CancelKept w taskId)
    (keeps : KeepsRequests w label) (turn : Turn config w label w') :
    ∀ taskId ∈ w'.history.drainedRunning, CancelKept w' taskId := by
  intro taskId member
  have next := fun drained => (kept taskId drained).next turn
  have same := turn.pendingCancel_same
  cases turn with
  | submit | manage | cancel | respond | reject | report | emit | purge =>
    exact ⟨(kept taskId member).live, (kept taskId member).kept⟩
  | drain here =>
    rcases List.mem_append.mp member with old | new
    · exact next old fun remembered => .inr (.inl (.inl (remembered.pending (by simp [here]))))
    · obtain ⟨queued, running⟩ := List.mem_filter.mp new
      obtain ⟨s, bound⟩ := of_decide_eq_true running
      exact ⟨.inl ⟨s, sound.runningOn_iff.mp bound⟩, .inr (.inl (.inr ⟨_, rfl, queued⟩))⟩
  | skip calm nowhere =>
    refine next member fun remembered => .inr (.inl (.inl ?_))
    refine remembered.resolve_right fun ⟨ids, here, queued⟩ => ?_
    rw [calm ids here] at queued
    contradiction
  | response here | output here | memoryRetry here | memory here | taskRetry here | task here =>
    exact next member fun remembered => .inr (.inl (.inl
      ((same (by simp [here]) (by simp [here])).trans (remembered.pending (by simp [here])))))
  | @cancelRetry answer cancelled r here pending stores handled =>
    refine next member fun remembered => ?_
    have retried := remembered.pending (by simp [here])
    rw [pending, Option.some.injEq] at retried
    subst retried
    have handed := sound.cancel_handled (d := w.desk.takePendingCancel) answer
      (kept cancelled member) rfl rfl rfl
    rw [← handled] at handed
    exact handed.imp id (Or.imp .inl id)
  | @cancelDrained answer cancelled rest r here stores handled =>
    refine next member fun remembered => ?_
    have handed : cancelled = taskId → _ := fun first =>
      sound.cancel_handled (d := w.desk) answer (kept cancelled (first ▸ member)) rfl rfl rfl
    rw [← handled] at handed
    rcases remembered with pending | ⟨ids, batch, queued⟩
    · have deferred := pendingCancel_kept sound here keeps pending
      rw [← handled] at deferred
      exact .inr (.inl (.inl deferred))
    · rw [here, Pc.cancels.injEq] at batch
      rw [← batch] at queued
      rcases List.mem_cons.mp queued with first | later
      · subst first
        exact (handed rfl).imp id (Or.imp .inl id)
      · exact .inr (.inl (.inr ⟨rest, rfl, later⟩))

end

/-! ## Nothing is overwritten -/

section

variable (turn : Turn config w label w')
include turn

/-- No turn that overwrites nothing replaces a latched EVICT by another one. -/
theorem Turn.keepsLatched (sound : Sound config w) (keeps : KeepsRequests w label) :
    Desk.KeepsLatched w.desk w'.desk := by
  have kept : ∀ {d d' : Desk n} {r : BlazeRunner n}, r.desk = d' →
      d.slotManager = w.desk.slotManager → Desk.KeepsLatched d d' →
      Desk.KeepsLatched w.desk r.desk := by
    intro d d' r handled slots latched s evict evict' before after
    rw [handled] at after
    exact latched s evict evict' (slots ▸ before) after
  cases turn with
  | submit | manage | cancel | respond | reject | report | emit | purge | drain | skip => exact .of_same rfl
  | @response answer drained response rest r here room oldest expected stores handled =>
    exact kept (d := w.desk.popResponse rest) handled rfl (Desk.keepsLatched_response response)
  | @output answer drained output producer accepts rejects rest r here oldest stores handled =>
    exact kept (d := w.desk.popOutput rest) handled rfl
      (Desk.keepsLatched_output output accepts rejects)
  | @memoryRetry answer given r here pending stores handled =>
    exact kept (d := w.desk.takePendingMemoryTask) handled rfl
      (Desk.keepsLatched_memory (sound.unlatched here (nextMemoryRequest_pending pending) keeps))
  | @memory answer given queue r here pending oldest stores handled =>
    exact kept handled rfl (Desk.keepsLatched_memory
      (sound.unlatched here (nextMemoryRequest_queued pending oldest) keeps))
  | @cancelRetry answer cancelled r here pending stores handled =>
    exact kept (d := w.desk.takePendingCancel) handled rfl (Desk.keepsLatched_cancel cancelled)
  | @cancelDrained answer cancelled rest r here stores handled =>
    exact kept handled rfl (Desk.keepsLatched_cancel cancelled)
  | @taskRetry answer task s r here pending named stores handled =>
    exact kept (d := w.desk.dropPendingTask) handled rfl (Desk.keepsLatched_task task)
  | @task answer task s queue r here pending oldest named stores handled =>
    exact kept handled rfl (Desk.keepsLatched_task task)

/-- No turn that overwrites nothing replaces the pending memory request by another. -/
theorem Turn.pendingMemory_kept (sound : Sound config w) (keeps : KeepsRequests w label)
    {request' : ManageMemoryTask n}
    (before : w.desk.pendingRequests.pendingMemoryTask = some request)
    (after : w'.desk.pendingRequests.pendingMemoryTask = some request') : request = request' := by
  have same : w'.desk.pendingRequests.pendingMemoryTask =
      w.desk.pendingRequests.pendingMemoryTask → request = request' := by
    intro unchanged
    rw [unchanged, before] at after
    exact Option.some.inj after
  cases turn with
  | submit | manage | cancel | respond | reject | report | emit | purge | drain | skip => exact same rfl
  | @response answer drained response rest r here room oldest expected stores handled =>
    rcases Desk.pendingMemory_response config (w.desk.popResponse rest) answer response with unchanged | ⟨refused, stop, s, slot, latched⟩
    · exact same (by rw [desk, handled]; exact unchanged)
    · have overwrites := sound.overwritesRequest_response here room oldest stop slot refused
        latched (by rw [before]; rfl)
      rw [KeepsRequests, overwrites] at keeps
      contradiction
  | output here oldest stores handled =>
    exact same (by rw [desk, handled, Desk.pendingMemory_output]; rfl)
  | @memoryRetry answer given r here pending stores handled =>
    rw [desk, handled] at after
    rcases Desk.pendingMemory_memory w.desk.takePendingMemoryTask given with taken | back
    · rw [taken] at after
      contradiction
    · rw [back, Option.some.injEq] at after
      rw [pending, Option.some.injEq] at before
      exact before.symm.trans after
  | memory here pending => exact absurd (pending.symm.trans before) (by simp)
  | cancelRetry here pending stores handled =>
    exact same (by rw [desk, handled, Desk.pendingMemory_cancel]; rfl)
  | cancelDrained here stores handled =>
    exact same (by rw [desk, handled, Desk.pendingMemory_cancel])
  | taskRetry here pending named stores handled =>
    exact same (by rw [desk, handled, Desk.pendingMemory_task]; rfl)
  | task here pending oldest named stores handled =>
    exact same (by rw [desk, handled, Desk.pendingMemory_task])

/-- No turn that overwrites nothing replaces the deferred cancel by another one. -/
theorem Turn.pendingCancel_next (sound : Sound config w) (keeps : KeepsRequests w label)
    {taskId' : UInt32} (before : w.desk.pendingRequests.pendingCancelTaskId = some taskId)
    (after : w'.desk.pendingRequests.pendingCancelTaskId = some taskId') : taskId = taskId' := by
  have same : w'.desk.pendingRequests.pendingCancelTaskId =
      w.desk.pendingRequests.pendingCancelTaskId → taskId = taskId' := by
    intro unchanged
    rw [unchanged, before] at after
    exact Option.some.inj after
  have elsewhere := turn.pendingCancel_same
  cases turn with
  | submit | manage | cancel | respond | reject | report | emit | purge | drain | skip => exact same rfl
  | response here | output here | memoryRetry here | memory here | taskRetry here | task here =>
    exact same (elsewhere (by simp [here]) (by simp [here]))
  | @cancelRetry answer cancelled r here pending stores handled =>
    rw [desk, handled] at after
    rcases Desk.pendingCancel_cancel w.desk.takePendingCancel cancelled with taken | back
    · rw [taken] at after
      contradiction
    · rw [back, Option.some.injEq] at after
      rw [pending, Option.some.injEq] at before
      exact before.symm.trans after
  | @cancelDrained answer cancelled rest r here stores handled =>
    rw [desk, handled, pendingCancel_kept sound here keeps before] at after
    exact Option.some.inj after

end

/-- A step that overwrites nothing leaves everything deferred undisturbed. -/
theorem Sound.undisturbed (sound : Sound config w) (keeps : KeepsRequests w label)
    (stepped : World.step config w label = some w') :
    Undisturbed w w' where
  memory := fun _ _ before after =>
    (sound.turn stepped).pendingMemory_kept sound keeps before after
  latched := by
    intro s evict evict' before after
    rw [sound.latchedEvict] at before
    rw [(sound.step stepped).latchedEvict] at after
    obtain ⟨id, latched, rfl⟩ := Option.map_eq_some_iff.mp before
    obtain ⟨id', latched', rfl⟩ := Option.map_eq_some_iff.mp after
    rw [(sound.turn stepped).keepsLatched sound keeps s id id' latched latched']
  cancel := fun _ _ before after =>
    (sound.turn stepped).pendingCancel_next sound keeps before after

/-- Conservation of memory requests and cancels: in a run that overwrites nothing
deferred, every state accounts for them and no further such step overwrites one. -/
theorem requests_conserved (reached : Reaches (step config) KeepsRequests (initial n) w) :
    RequestsConserved config w ∧ ∀ label w', KeepsRequests w label →
      step config w label = some w' → Undisturbed w w' := by
  have kept := reached.invariant
    (fun w => Sound config w ∧ MemoryKept config w ∧
      ∀ taskId ∈ w.history.drainedRunning, CancelKept w taskId)
    ⟨initial_sound config n, initial_memoryKept config n, by simp [initial]⟩
    fun before label after ⟨sound, memory, cancels⟩ keeps stepped =>
      ⟨sound.step stepped, memory.next sound keeps (sound.turn stepped),
        cancelKept_next sound cancels keeps (sound.turn stepped)⟩
  obtain ⟨sound, memory, cancels⟩ := kept
  refine ⟨⟨fun request other => ?_, fun taskId drained => ?_⟩,
    fun label w' keeps stepped => sound.undisturbed keeps stepped⟩
  · rw [memory.conserved request other, requestsHeld]
    simp only [sound.latchedEvict]
    rfl
  · rcases (cancels taskId drained).kept with pushed | remembered | closed
    · exact .inl pushed
    · exact .inr (.inl remembered)
    · refine .inr (.inr fun s bound => ?_)
      have gone := (Desk.copies_zero (sound.closed_off closed)).2 s
      rw [sound.runningOn_iff.mp bound] at gone
      exact gone rfl

/-- An EVICT is latched on slot 0 until its STOP ack comes, and the DEALLOCATE of
slot 1 is refused. -/
def latchedAndPending : List (Label 2) :=
  allocateBoth ++ [.submit { taskId := 1, kvCacheSlot := 0 }] ++ ticks 7 ++ [.cancel 1] ++ ticks 8 ++
    [.manage { taskId := 200, action := .deallocate, slotId := some firstSlot },
      .manage { taskId := 201, action := .deallocate, slotId := some secondSlot }] ++ ticks 9 ++
    [tickFull] ++ ticks 4 ++ [.respond 0 none]

theorem latchedAndPending_runs : (runWithin (step decodeConfig) KeepsRequests (initial 2)
    latchedAndPending).isSome = true := by decide

/-- Where that run ends. -/
def latchedAndPendingEnd : World 2 :=
  (runWithin (step decodeConfig) KeepsRequests (initial 2) latchedAndPending).get
    latchedAndPending_runs

theorem requests_conserved_latchedAndPending :
    RequestsConserved decodeConfig latchedAndPendingEnd ∧
      ∀ label w', KeepsRequests latchedAndPendingEnd label →
        step decodeConfig latchedAndPendingEnd label = some w' →
        Undisturbed latchedAndPendingEnd w' :=
  requests_conserved (reaches_get latchedAndPending_runs)

theorem latchedAndPending_acked : (runWithin (step decodeConfig) (fun _ _ => True) (initial 2)
    (latchedAndPending ++ [tickFull])).isSome = true := by decide

/-- When the scheduler then refuses the replayed EVICT, it takes the place of the
pending DEALLOCATE, which is neither held nor accepted. -/
theorem requests_not_conserved :
    ¬∀ (config : BlazeConfig) (n : Nat) (w : World n),
      Reaches (step config) (fun _ _ => True) (initial n) w →
      RequestsConserved config w ∧ ∀ label w', step config w label = some w' → Undisturbed w w' := by
  intro conserved
  have kept := (conserved _ _ _ (reaches_get latchedAndPending_acked)).1
  have balance := kept.memory (makeEvictRequest 201 1) (by decide)
  exact absurd balance (by decide)

end InferenceServer.Blaze.World
