import InferenceServer.Blaze.Turns

/-! What a cancel achieves. A task that is neither queued, pending nor latched can
never run again, and that is where handling its cancel leaves it, unless the task
was queued or latched and so had no slot bound to it. -/
namespace InferenceServer.Blaze

open Machine

namespace Desk

variable {config : BlazeConfig} {d d' : Desk n} {answer : SchedulerAnswer} {s : Fin n}
variable {taskId : UInt32} {slots : Fin n → Prop}

/-- A task is nowhere on the desk but running on some of these slots. -/
structure Confined (d : Desk n) (taskId : UInt32) (slots : Fin n → Prop) : Prop where
  pending : d.pendingRequests.pendingTask.map Sequence.taskId ≠ some taskId
  running : ∀ s, (d.slotManager s).holds = some taskId →
    d.slotManager s = .running taskId ∧ slots s

section

variable (confined : Confined d taskId slots)
include confined

theorem Confined.of_same (same : d'.slotManager = d.slotManager)
    (pending : d'.pendingRequests.pendingTask = d.pendingRequests.pendingTask) :
    Confined d' taskId slots := by
  refine ⟨by rw [pending]; exact confined.pending, ?_⟩
  rw [same]
  exact confined.running

theorem Confined.dropPendingTask : Confined d.dropPendingTask taskId slots :=
  ⟨by simp [Runner.dropPendingTask], confined.running⟩

theorem Confined.setPhase (phase : Phase) (other : phase.holds ≠ some taskId) :
    Confined (setPhase d s phase) taskId slots := by
  refine ⟨confined.pending, fun s' held => ?_⟩
  simp only [setPhase_slotManager, Function.update_apply] at held ⊢
  split at held
  · exact absurd held other
  · rename_i differs
    rw [if_neg differs]
    exact confined.running s' held

theorem Confined.closeLatched (latched : Option Sequence) :
    Confined (closeLatched d latched) taskId slots :=
  confined.of_same (closeLatched_slotManager ..) (by rw [closeLatched_pending])

theorem Confined.evictHeld (evicted : ManageMemoryTask n) (owner : Option UInt32) :
    Confined (evictHeld config d answer evicted s owner) taskId slots := by
  have pushed : Confined (d.pushRequest answer (makeEvictRequest evicted.taskId s) none) taskId
      slots := confined.of_same rfl rfl
  unfold Desk.evictHeld
  simp only
  split
  · have dropped : Confined ((d.pushRequest answer
        (makeEvictRequest evicted.taskId s) none).evictPendingTask config s) taskId slots := by
      unfold Runner.evictPendingTask
      split
      · exact pushed
      · split
        · exact pushed.dropPendingTask.of_same rfl rfl
        · exact pushed
    cases owner with
    | none => exact dropped.setPhase _ (by simp [Phase.holds])
    | some task =>
      have noted : Confined (((d.pushRequest answer
          (makeEvictRequest evicted.taskId s) none).evictPendingTask config s).note
          (.evictedRunning task)) taskId slots := dropped.of_same rfl rfl
      exact noted.setPhase _ (by simp [Phase.holds])
  · exact pushed.of_same rfl rfl

theorem Confined.evict (evicted : ManageMemoryTask n) :
    Confined (evict config d answer evicted s) taskId slots := by
  unfold Desk.evict
  split
  · exact confined.evictHeld evicted _
  · exact confined.evictHeld evicted _
  · exact (confined.closeLatched _).setPhase _ (by simp [Phase.holds])
  · exact confined.of_same rfl rfl
  · exact confined.of_same rfl rfl

theorem Confined.memory (given : ManageMemoryTask n) :
    Confined (memory config d answer given) taskId slots := by
  unfold Desk.memory
  split
  · unfold Runner.handleAllocateRequest
    simp only
    split <;> exact confined.of_same rfl rfl
  · exact confined.evict given
  · exact confined
  · exact confined.of_same rfl rfl

/-- Another task takes up a slot, waits for it or is dropped. -/
theorem Confined.task {given : Sequence} (other : given.taskId ≠ taskId) :
    Confined (Desk.task config d answer given s) taskId slots := by
  have pushed : Confined (d.pushRequest answer (Runner.taskRequest config s given)
      (some given.taskId)) taskId slots := confined.of_same rfl rfl
  unfold Desk.task
  split
  · simp only
    split
    · exact pushed.setPhase _ (by simpa [Phase.holds] using other)
    · exact ⟨by simpa [Runner.deferTask] using other, pushed.running⟩
  · exact confined.setPhase _ (by simpa [Phase.holds] using other)
  · exact confined.of_same rfl rfl
  · exact confined.of_same rfl rfl
  · exact confined.of_same rfl rfl

theorem Confined.stopAck : Confined (stopAck config d answer s) taskId slots := by
  unfold Desk.stopAck Desk.phase
  cases phase : d.slotManager s with
  | stopping owner evictId latched =>
    have idle : Confined (Desk.setPhase d s .idle) taskId slots :=
      confined.setPhase _ (by simp [Phase.holds])
    cases evictId with
    | some evictId => exact ((confined.closeLatched latched).setPhase _ (by simp [Phase.holds])).evict _
    | none =>
      cases latched with
      | none => exact idle
      | some latched =>
        refine idle.task fun same => ?_
        -- a task latched here would have to be running here
        have held : (d.slotManager s).holds = some taskId := by rw [phase, ← same]; rfl
        have running := (confined.running s held).1
        rw [phase] at running
        contradiction
  | free | idle | running | evicting => exact confined

theorem Confined.response (response : SchedulerResponse n) :
    Confined (Desk.response config d answer response) taskId slots := by
  unfold Desk.response
  split
  · unfold allocateAck
    split
    · exact confined.of_same rfl rfl
    · exact (confined.setPhase .idle (by simp [Phase.holds])).of_same rfl rfl
  · unfold evictAck
    split
    · exact confined.setPhase _ (by simp [Phase.holds])
    · exact confined
  · exact confined.stopAck
  · unfold submitError
    split
    · exact (confined.setPhase .idle (by simp [Phase.holds])).of_same rfl rfl
    · exact confined
  · split
    · exact confined
    · exact confined.of_same rfl rfl
  · exact confined

theorem Confined.output (output : OutputMessage n) (accepts rejects : UInt32) :
    Confined (Desk.output config d output accepts rejects) taskId slots := by
  have idle : Confined (Desk.setPhase d output.slotId .idle) taskId slots :=
    confined.setPhase _ (by simp [Phase.holds])
  unfold Desk.output
  split
  · split
    · exact idle.of_same rfl rfl
    · split
      · exact idle.of_same rfl rfl
      · exact confined.of_same rfl rfl
  all_goals exact confined.of_same rfl rfl

theorem Confined.cancel (cancelled : UInt32) :
    Confined (cancel d answer cancelled) taskId slots := by
  unfold Desk.cancel
  split
  · exact confined.dropPendingTask
  · split
    · exact confined
    · rename_i s found
      have pushed : Confined (d.pushRequest answer (makeStopRequest cancelled s) none) taskId
          slots := confined.of_same rfl rfl
      simp only
      split
      · exact (pushed.setPhase (.stopping cancelled none none) (by simp [Phase.holds])).of_same rfl rfl
      · exact pushed.of_same rfl rfl

end

/-- Handling the cancel of a task that is not latched leaves it running at most. -/
theorem confined_cancel (once : copies d taskId ≤ 1)
    (unlatched : ∀ s, (d.slotManager s).deferredContinue.map Sequence.taskId ≠ some taskId) :
    Confined (cancel d answer taskId) taskId fun s => d.slotManager s = .running taskId := by
  have running : ∀ s, (d.slotManager s).holds = some taskId → d.slotManager s = .running taskId := by
    intro s held
    have latched := unlatched s
    cases phase : d.slotManager s <;> simp_all [Phase.holds, Phase.deferredContinue]
  by_cases pending : d.pendingRequests.pendingTask.map Sequence.taskId = some taskId
  · rw [Desk.cancel, if_pos pending]
    refine ⟨by simp [Runner.dropPendingTask], fun s held => ?_⟩
    exact absurd pending (copies_once once held).1
  · have confined : Confined d taskId fun s => d.slotManager s = .running taskId :=
      ⟨pending, fun s held => ⟨running s held, running s held⟩⟩
    exact confined.cancel taskId

end Desk

namespace World

variable {config : BlazeConfig} {w w' w'' : World n}
variable {taskId : UInt32} {label : Label n}

/-- A SUBMIT or CONTINUE pushed for a task, accepted or not. -/
def isPushFor (taskId : UInt32) : Effect n → Bool
  | .push _ (some owner) _ => owner = taskId
  | _ => false

/-- The SUBMIT and CONTINUE requests pushed for a task so far. -/
def pushesFor (w : World n) (taskId : UInt32) : List (Effect n) :=
  w.runner.log.filter (isPushFor taskId)

/-- The task is on the task queue. -/
def Queued (w : World n) (taskId : UInt32) : Prop :=
  taskId ∈ w.taskQueue.map Sequence.taskId

/-- The task is latched on a slot that awaits its STOP ack. -/
def Latched (w : World n) (taskId : UInt32) : Prop :=
  ∃ s, (w.runner.slotManager.slots s).deferredContinue.map Sequence.taskId = some taskId

/-- A task that was put on the queue, is no longer there, and is confined to slots. -/
structure Gone (w : World n) (taskId : UInt32) (slots : Fin n → Prop) : Prop where
  issued : taskId ∈ w.history.issued
  unqueued : ¬w.Queued taskId
  confined : Desk.Confined w.desk taskId slots

private theorem not_isPushFor_of_quiet (taskId : UInt32) (effect : Effect n)
    (quiet : effect.quiet) : !isPushFor taskId effect := by
  cases effect with
  | push request owner accepted =>
    cases owner with
    | none => rfl
    | some owner => contradiction
  | token | allocateReply | assertion | evictedRunning => rfl

private theorem not_isPushFor_of_quietFor {given : UInt32} (other : given ≠ taskId)
    (effect : Effect n) (quiet : effect.quietFor given) : !isPushFor taskId effect := by
  cases effect with
  | push request owner accepted =>
    cases owner with
    | none => rfl
    | some owner =>
      have same : owner = given := by simpa [Effect.quietFor] using quiet
      simpa [isPushFor, same] using other
  | token | allocateReply | assertion | evictedRunning => rfl

/-- A log to which no push for the task is added has the same pushes for it. -/
theorem pushesFor_of_adds (d d' : Desk n)
    (adds : Desk.Adds (fun effect => !isPushFor taskId effect) d d') :
    d'.log.filter (isPushFor taskId) = d.log.filter (isPushFor taskId) := by
  obtain ⟨more, log, other⟩ := adds
  have none_pushed : more.filter (isPushFor taskId) = [] :=
    List.filter_eq_nil_iff.mpr fun effect member => by simpa using other effect member
  rw [log, List.filter_append, none_pushed, List.append_nil]

/-- No turn pushes a request for a task that is gone. -/
theorem Gone.pushesFor_same {slots : Fin n → Prop} (gone : Gone w taskId slots)
    (turn : Turn config w label w') : w'.pushesFor taskId = w.pushesFor taskId := by
  refine pushesFor_of_adds w.desk w'.desk ?_
  refine turn.adds (not_isPushFor_of_quiet taskId) (fun s task latched => ?_) (fun task given => ?_)
    (fun _ => rfl) fun _ _ _ _ _ => rfl
  · refine not_isPushFor_of_quietFor fun same => ?_
    have held : (w.desk.slotManager s).holds = some taskId := by
      cases phase : w.desk.slotManager s <;> simp_all [Phase.holds, Phase.deferredContinue]
    rw [(gone.confined.running s held).1] at latched
    contradiction
  · refine not_isPushFor_of_quietFor fun same => ?_
    rcases given with pending | queued
    · exact gone.confined.pending (by rw [pending, ← same]; rfl)
    · exact gone.unqueued (List.mem_map.mpr ⟨task, queued, same⟩)

/-- A task that is gone stays gone. -/
theorem Gone.next {slots : Fin n → Prop} (gone : Gone w taskId slots)
    (turn : Turn config w label w') : Gone w' taskId slots := by
  obtain ⟨issued, unqueued, confined⟩ := gone
  have handled_gone : ∀ {r : BlazeRunner n} {d : Desk n} {pc : Pc} {queue : List Sequence}
      {requests : List (ManageMemoryTask n)} {history : History n}, r.desk = d →
      history.issued = w.history.issued → (∀ task ∈ queue, task ∈ w.taskQueue) →
      Desk.Confined d taskId slots → Gone { w with
        runner := r, pc, taskQueue := queue, memoryQueue := requests, history } taskId slots := by
    rintro r d pc queue requests history rfl same queued confined
    refine ⟨same ▸ issued, fun member => ?_, confined⟩
    obtain ⟨task, waits, rfl⟩ := List.mem_map.mp member
    exact unqueued (List.mem_map_of_mem (queued task waits))
  cases turn with
  | @submit task fresh named =>
    refine ⟨List.mem_append_left _ issued, fun member => ?_, confined⟩
    simp only [Queued, List.map_append, List.mem_append] at member
    rcases member with old | new
    · exact unqueued old
    · exact fresh (by simpa using List.mem_singleton.mp new ▸ issued)
  | manage | cancel | respond | reject | report | emit | purge | drain | skip =>
    exact ⟨issued, unqueued, confined.of_same rfl rfl⟩
  | @response answer drained response rest r here room oldest expected stores handled =>
    have popped : Desk.Confined (w.desk.popResponse rest) taskId slots := confined.of_same rfl rfl
    exact handled_gone handled rfl (fun _ m => m) (popped.response response)
  | @output answer drained output producer accepts rejects rest r here oldest stores handled =>
    have popped : Desk.Confined (w.desk.popOutput rest) taskId slots := confined.of_same rfl rfl
    exact handled_gone handled rfl (fun _ m => m) (popped.output output accepts rejects)
  | @memoryRetry answer given r here pending stores handled =>
    have taken : Desk.Confined w.desk.takePendingMemoryTask taskId slots := confined.of_same rfl rfl
    exact handled_gone handled rfl (fun _ m => m) (taken.memory given)
  | @memory answer given queue r here pending oldest stores handled =>
    exact handled_gone handled rfl (fun _ m => m) (confined.memory given)
  | @cancelRetry answer cancelled r here pending stores handled =>
    have taken : Desk.Confined w.desk.takePendingCancel taskId slots := confined.of_same rfl rfl
    exact handled_gone handled rfl (fun _ m => m) (taken.cancel cancelled)
  | @cancelDrained answer cancelled rest r here stores handled =>
    exact handled_gone handled rfl (fun _ m => m) (confined.cancel cancelled)
  | @taskRetry answer task s r here pending named stores handled =>
    refine handled_gone handled rfl (fun _ m => m) (confined.dropPendingTask.task fun same => ?_)
    exact confined.pending (by rw [pending, ← same]; rfl)
  | @task answer task s queue r here pending oldest named stores handled =>
    refine handled_gone handled rfl (fun _ m => oldest ▸ List.mem_cons_of_mem _ m)
      (confined.task fun same => ?_)
    exact unqueued (List.mem_map.mpr ⟨task, oldest ▸ List.mem_cons_self, same⟩)

/-- Handling the cancel of an issued task that is neither queued nor latched leaves
it gone, with no request pushed for it. -/
theorem Sound.gone_handled (sound : Sound config w) (issued : taskId ∈ w.history.issued)
    (unqueued : ¬w.Queued taskId) (unlatched : ¬w.Latched taskId) (turn : Turn config w label w')
    (handles : w'.history.handledCancels = w.history.handledCancels ++ [taskId]) :
    Gone w' taskId (fun s => w.desk.slotManager s = .running taskId) ∧
      w'.pushesFor taskId = w.pushesFor taskId := by
  have once := sound.copies_le_one taskId
  have off : ∀ s, (w.desk.slotManager s).deferredContinue.map Sequence.taskId ≠ some taskId := by
    intro s latched
    refine unlatched ⟨s, ?_⟩
    rw [(sound.stores.slots s).latched]
    exact latched
  have pushes_same : ∀ {d : Desk n} {answer : SchedulerAnswer} {r : BlazeRunner n},
      r.desk = Desk.cancel d answer taskId → d.log = w.desk.log →
      r.log.filter (isPushFor taskId) = w.pushesFor taskId := by
    intro d answer r handled log
    have adds := (Desk.adds_cancel d answer taskId).mono
      (not_isPushFor_of_quiet taskId)
    rw [← handled] at adds
    exact (pushesFor_of_adds _ _ adds).trans (congrArg (List.filter _) log)
  cases turn with
  | submit | manage | cancel | respond | reject | report | emit | purge | drain | skip =>
    simp [drainCancels, noteDrained, World.withScheduler] at handles
  | response | output | memoryRetry | memory | taskRetry | task =>
    simp [noteDelivered, noteObtained, noteAdmitted] at handles
  | @cancelRetry answer cancelled r here pending stores handled =>
    obtain rfl : cancelled = taskId := by simpa using handles
    refine ⟨⟨issued, unqueued, ?_⟩, pushes_same handled rfl⟩
    rw [desk, handled]
    exact Desk.confined_cancel (d := w.desk.takePendingCancel) once off
  | @cancelDrained answer cancelled rest r here stores handled =>
    obtain rfl : cancelled = taskId := by simpa using handles
    refine ⟨⟨issued, unqueued, ?_⟩, pushes_same handled rfl⟩
    rw [desk, handled]
    exact Desk.confined_cancel once off

/-- Cancel effectiveness: once the cancel of an issued task has been handled that was
neither queued nor latched then, the task is never again bound to a slot it was not
running on and no SUBMIT or CONTINUE is pushed for it. -/
theorem cancel_effective {label : Label n} {taskId : UInt32}
    (reached : Reaches (step config) (fun _ _ => True) (initial n) w)
    (issued : taskId ∈ w.history.issued) (unqueued : ¬w.Queued taskId)
    (unlatched : ¬w.Latched taskId) (stepped : step config w label = some w')
    (handles : w'.history.handledCancels = w.history.handledCancels ++ [taskId])
    (later : Reaches (step config) (fun _ _ => True) w' w'') :
    (∀ s, w''.RunningOn s taskId → w.RunningOn s taskId) ∧
      w''.pushesFor taskId = w.pushesFor taskId := by
  have sound : Sound config w := reached_sound reached
  have handled := sound.gone_handled issued unqueued unlatched (sound.turn stepped) handles
  have kept := later.invariant
    (fun x => Sound config x ∧ Gone x taskId (fun s => w.desk.slotManager s = .running taskId) ∧
      x.pushesFor taskId = w.pushesFor taskId)
    ⟨sound.step stepped, handled⟩
    fun before label after ⟨sound, gone, pushed⟩ _ stepped =>
      ⟨sound.step stepped, gone.next (sound.turn stepped),
        (gone.pushesFor_same (sound.turn stepped)).trans pushed⟩
  obtain ⟨sound', gone, pushed⟩ := kept
  refine ⟨fun s bound => ?_, pushed⟩
  have running := sound'.runningOn_iff.mp bound
  have held : (w''.desk.slotManager s).holds = some taskId := by rw [running]; rfl
  exact sound.runningOn_iff.mpr (gone.confined.running s held).2

/-- Task 1 runs on slot 0 and its cancel has been drained. -/
def runningCancelled : List (Label 2) :=
  allocateBoth ++ [.submit { taskId := 1, kvCacheSlot := 0 }] ++ ticks 7 ++ [.cancel 1] ++ ticks 5

theorem runningCancelled_runs : (runWithin (step decodeConfig) (fun _ _ => True) (initial 2)
    runningCancelled).isSome = true := by decide

def runningCancelledEnd : World 2 :=
  (runWithin (step decodeConfig) (fun _ _ => True) (initial 2) runningCancelled).get
    runningCancelled_runs

theorem runningCancelled_handled :
    (step decodeConfig runningCancelledEnd tick).isSome = true := by decide

theorem cancel_effective_runningCancelled :
    (∀ s, ((step decodeConfig runningCancelledEnd tick).get runningCancelled_handled).RunningOn s 1 →
      runningCancelledEnd.RunningOn s 1) ∧
    ((step decodeConfig runningCancelledEnd tick).get runningCancelled_handled).pushesFor 1 =
      runningCancelledEnd.pushesFor 1 :=
  cancel_effective (reaches_get runningCancelled_runs) (by decide) (by unfold Queued; decide)
    (by unfold Latched; decide) (Option.some_get runningCancelled_handled).symm (by decide) .refl

/-- Task 1 waits on the task queue and its cancel has been drained. -/
def queuedCancelled : List (Label 2) :=
  allocateBoth ++ [.submit { taskId := 1, kvCacheSlot := 0 }, .cancel 1] ++ ticks 5

theorem queuedCancelled_runs : (runWithin (step decodeConfig) (fun _ _ => True) (initial 2)
    queuedCancelled).isSome = true := by decide

def queuedCancelledEnd : World 2 :=
  (runWithin (step decodeConfig) (fun _ _ => True) (initial 2) queuedCancelled).get
    queuedCancelled_runs

theorem queuedCancelled_handled :
    (step decodeConfig queuedCancelledEnd tick).isSome = true := by decide

theorem queuedCancelled_started : (runWithin (step decodeConfig) (fun _ _ => True)
    ((step decodeConfig queuedCancelledEnd tick).get queuedCancelled_handled)
    (ticks 2)).isSome = true := by decide

/-- The cancel of a task that is still queued is ignored, and the task starts in the
same step of the runner. -/
theorem cancel_ineffective :
    ¬∀ (config : BlazeConfig) (n : Nat) (w w' w'' : World n) (label : Label n) (taskId : UInt32),
      Reaches (step config) (fun _ _ => True) (initial n) w → step config w label = some w' →
      w'.history.handledCancels = w.history.handledCancels ++ [taskId] →
      Reaches (step config) (fun _ _ => True) w' w'' →
      (∀ s, w''.RunningOn s taskId → w.RunningOn s taskId) ∧
        w''.pushesFor taskId = w.pushesFor taskId := by
  intro effective
  have started := effective _ _ _ _ _ _ 1 (reaches_get queuedCancelled_runs)
    (Option.some_get queuedCancelled_handled).symm (by decide)
    (reaches_get queuedCancelled_started)
  exact absurd (started.1 0 (by decide)) (by decide)

end World

end InferenceServer.Blaze
