import InferenceServer.Gateway.Threads
import InferenceServer.Machine.Run
import InferenceServer.Machine.Tally

/-! How often a request is answered. Of each request there is one piece: in the map of tasks,
in the hands of a thread that will answer it, or spent on its answer or cancel. Only the
failure path of a send that another thread got ahead of makes a second one. -/
namespace InferenceServer.Gateway
open Machine

/-- The request whose answer or accepted cancel an act is. -/
@[simp] def Act.ends : Act → Option Nat
  | .answered request | .cancelAccepted request => some request
  | .accepted _ | .decremented _ => none

@[simp] def Act.decrements : Act → Option Nat
  | .decremented request => some request
  | .accepted _ | .answered _ | .cancelAccepted _ => none

/-- A request is answered at most once, not after its cancel was accepted, and its server's
counter is decremented at most once for it. -/
structure AnsweredOnce (trace : List Act) (request : Nat) : Prop where
  answered : trace.count (.answered request) ≤ 1
  not_after_cancel : ∀ before after, trace = before ++ .cancelAccepted request :: after →
    .answered request ∉ after
  decremented : trace.count (.decremented request) ≤ 1

variable (request : Nat)

/-- Whether the thread owes the request an answer, or has yet to put it into the map. -/
@[simp] def DecodeThread.owes : DecodeThread → Nat
  | .rejecting own _ | .incrementing own _ _ | .tracking own _ _ | .failing own _ =>
    hits request (some own)
  | .idle | .sending _ _ _ | .sendFailed _ _ _ | .erasing _ _ | .cancelled _ _ _
  | .sendingCancel _ _ => 0

@[simp] def PrefillThread.owes : PrefillThread → Nat
  | .decrementing own _ _ | .forwarding own _ => hits request (some own)
  | .idle | .registering _ _ => 0

def Taken.owes (taken : Taken) : Nat :=
  (taken.map fun task => hits request (some task.1)).sum

@[simp] def WatchdogThread.owes : WatchdogThread → Nat
  | .failing orphaned => Taken.owes request orphaned
  | .idle | .orphaning _ => 0

@[simp] def TimerThread.owes : TimerThread → Nat
  | .decrementing timedOut _ | .sendingCancel timedOut _ | .recording timedOut _
  | .failing timedOut _ => Taken.owes request timedOut
  | .idle | .recovering _ _ | .sweeping _ => 0

/-- Whether the thread is to decrement for the request, or has yet to put it into the
map. -/
@[simp] def DecodeThread.owesDecrement : DecodeThread → Nat
  | .incrementing own _ _ | .tracking own _ _ | .cancelled own _ _ => hits request (some own)
  | .idle | .rejecting _ _ | .sending _ _ _ | .sendFailed _ _ _ | .erasing _ _ | .failing _ _
  | .sendingCancel _ _ => 0

@[simp] def PrefillThread.owesDecrement : PrefillThread → Nat
  | .decrementing own _ _ => hits request (some own)
  | .idle | .forwarding _ _ | .registering _ _ => 0

@[simp] def TimerThread.owesDecrement : TimerThread → Nat
  | .decrementing timedOut _ => Taken.owes request timedOut
  | .sendingCancel timedOut _ | .recording timedOut _ | .failing timedOut _ =>
    Taken.owes request timedOut.tail
  | .idle | .recovering _ _ | .sweeping _ => 0

/-- The request that was decremented for while its task is still in the map. -/
@[simp] def DecodeThread.erases : DecodeThread → Nat
  | .erasing own _ => hits request (some own)
  | _ => 0

namespace Threads

/-- The request's tasks in the map. -/
def held (threads : Threads) (request : Nat) : Nat :=
  Table.total (fun taskId _ => hits request (some (threads.current taskId)))
    threads.dispatcher.inFlight

def endShare (threads : Threads) (request : Nat) : Nat :=
  tally Act.ends threads.trace request + threads.decode.owes request +
    threads.prefill.owes request + threads.watchdog.owes request + threads.timer.owes request +
    threads.held request

def decrementShare (threads : Threads) (request : Nat) : Nat :=
  tally Act.decrements threads.trace request + threads.decode.owesDecrement request +
    threads.prefill.owesDecrement request + threads.timer.owesDecrement request +
    threads.held request

/-- The request and task of a send that has failed, until its task is erased. -/
def unsent (threads : Threads) : Option (Nat × TaskId) :=
  match threads.decode with
  | .sendFailed request msg _ | .erasing request msg => some (request, msg.taskId)
  | _ => none

/-- The task whose request is being sent. -/
def sendingTask (threads : Threads) : Option TaskId :=
  match threads.decode with
  | .sending _ msg _ => some msg.taskId
  | _ => none

/-- The server whose tasks the watchdog takes next. -/
def lostServer (threads : Threads) : Option ServerId :=
  match threads.watchdog with
  | .orphaning serverId => some serverId
  | _ => none

/-- The time for which the timer takes the overdue tasks next. -/
def sweepTime (threads : Threads) : Option Time :=
  match threads.timer with
  | .sweeping now => some now
  | _ => none

/-- When a send fails its task is still in the map, and no other handler takes it before
the failure path has erased it. -/
def Unraced (options : Options) (threads : Threads) : Move → Prop
  | .decode _ sent => ∀ taskId ∈ threads.sendingTask,
      sent = false → threads.dispatcher.inFlight.lookup taskId ≠ none
  | .result _ msg => ∀ task ∈ threads.unsent, task.2 ≠ msg.taskId
  | .watchdog => ∀ task ∈ threads.unsent, ∀ serverId ∈ threads.lostServer,
      ∀ entry ∈ threads.dispatcher.inFlight.lookup task.2, entry.prefillId ≠ serverId
  | .timer => ∀ task ∈ threads.unsent, ∀ now ∈ threads.sweepTime,
      ∀ entry ∈ threads.dispatcher.inFlight.lookup task.2,
        Dispatcher.timedOut options now entry = false
  | _ => True

instance (options : Options) (threads : Threads) (move : Move) :
    Decidable (threads.Unraced options move) := by
  unfold Unraced
  cases move with
  | decode now sent => exact Option.decidableForallMem threads.sendingTask
  | _ => infer_instance

/-- The request of the decode thread is the one under its task id. -/
def tracked (threads : Threads) : Option (Nat × TaskId) :=
  match threads.decode with
  | .sending request msg _ | .sendFailed request msg _ | .erasing request msg =>
    some (request, msg.taskId)
  | _ => none

structure Orderly (threads : Threads) : Prop where
  ends : ∀ request, threads.endShare request ≤ 1
  decrements : ∀ request,
    threads.decrementShare request ≤ 1 + threads.decode.erases request
  ends_new : ∀ request, threads.requests ≤ request → threads.endShare request = 0
  decrements_new : ∀ request, threads.requests ≤ request → threads.decrementShare request = 0
  tracked : ∀ request taskId, threads.tracked = some (request, taskId) →
    threads.current taskId = request
  unsent_held : ∀ request taskId, threads.unsent = some (request, taskId) →
    threads.dispatcher.inFlight.lookup taskId ≠ none

variable {options : Options} {before after : Threads}
variable {threads : Threads} {taskId : TaskId}

/-- Steps other than the start of a request add no share. -/
theorem Orderly.of_shares (orderly : before.Orderly)
    (ends : ∀ request, after.endShare request ≤ before.endShare request)
    (decrements : ∀ request, after.decrementShare request + before.decode.erases request ≤
      before.decrementShare request + after.decode.erases request)
    (erasesOwn : ∀ request, before.requests ≤ request → after.decode.erases request = 0)
    (requests : after.requests = before.requests)
    (tracked : ∀ request taskId, after.tracked = some (request, taskId) →
      after.current taskId = request)
    (unsent_held : ∀ request taskId, after.unsent = some (request, taskId) →
      after.dispatcher.inFlight.lookup taskId ≠ none) : after.Orderly where
  ends request := (ends request).trans (orderly.ends request)
  decrements request := by
    have one := orderly.decrements request
    have change := decrements request
    omega
  ends_new request new := by
    have none := orderly.ends_new request (requests ▸ new)
    have change := ends request
    omega
  decrements_new request new := by
    have none := orderly.decrements_new request (requests ▸ new)
    have change := decrements request
    have own := erasesOwn request (requests ▸ new)
    omega
  tracked := tracked
  unsent_held := unsent_held

/-- A task in the map holds a share of its request. -/
theorem hits_le_held (found : threads.dispatcher.inFlight.lookup taskId ≠ none) (request : Nat) :
    hits request (some (threads.current taskId)) ≤ threads.held request := by
  obtain ⟨entry, present⟩ := Option.ne_none_iff_exists'.mp found
  have split := Table.total_erase
    (fun taskId _ => hits request (some (threads.current taskId))) present
  unfold held
  omega

theorem held_takeTask {entry : InFlightEntry}
    (found : threads.dispatcher.inFlight.lookup taskId = some entry) (request : Nat) :
    threads.held request =
      Table.total (fun taskId _ => hits request (some (threads.current taskId)))
        (threads.dispatcher.takeTask taskId).2.inFlight +
      hits request (some (threads.current taskId)) :=
  Table.total_erase _ found

theorem held_takeTasks (threads : Threads) (taken : InFlightEntry → Bool) (request : Nat) :
    threads.held request =
      Table.total (fun taskId _ => hits request (some (threads.current taskId)))
        (threads.takeTasks taken).2.inFlight +
      Taken.owes request (threads.takeTasks taken).1 := by
  refine (Table.total_eraseIf _ _ (fun _ entry => taken entry)).trans ?_
  simp [Taken.owes, takeTasks, Dispatcher.takeTasks, List.map_map, Function.comp_def]

/-- A task that is put into the map may replace another under its id. -/
theorem held_track (threads : Threads) (taskId : TaskId) (entry : InFlightEntry)
    (own request : Nat) :
    Table.total
        (fun other _ => hits request (some (Function.update threads.current taskId own other)))
        (threads.dispatcher.track taskId entry).inFlight ≤
      threads.held request + hits request (some own) := by
  have inserted := Table.total_insert
    (fun other _ => hits request (some (Function.update threads.current taskId own other)))
    threads.dispatcher.inFlight taskId entry
  have others : Table.total
        (fun other _ => hits request (some (Function.update threads.current taskId own other)))
        (threads.dispatcher.inFlight.erase taskId) =
      Table.total (fun other _ => hits request (some (threads.current other)))
        (threads.dispatcher.inFlight.erase taskId) := by
    refine Table.total_congr fun other value member => ?_
    have kept : other ∈ threads.dispatcher.inFlight.erase taskId :=
      AList.lookup_isSome.mp (by rw [Table.mem_entries.mp member]; rfl)
    rw [Function.update_of_ne (AList.mem_erase.mp kept).1]
  have fewer : Table.total (fun other _ => hits request (some (threads.current other)))
      (threads.dispatcher.inFlight.erase taskId) ≤ threads.held request := by
    cases found : threads.dispatcher.inFlight.lookup taskId with
    | none => exact Nat.le_of_eq (Table.total_erase_none _ found)
    | some value =>
      have split := held_takeTask found request
      simp only [Dispatcher.takeTask] at split
      omega
  simp only [Function.update_self] at inserted
  simp only [Dispatcher.track]
  omega

theorem unsent_tracked {request : Nat} (unsent : threads.unsent = some (request, taskId)) :
    threads.tracked = some (request, taskId) := by
  unfold Threads.unsent at unsent
  unfold Threads.tracked
  split at unsent <;> simp_all

/-- A request that could not be sent has its task in the map. -/
theorem Orderly.hits_le_held_unsent (orderly : before.Orderly) {request : Nat}
    (unsent : before.unsent = some (request, taskId)) (other : Nat) :
    hits other (some request) ≤ before.held other := by
  have own := orderly.tracked request taskId (unsent_tracked unsent)
  exact own ▸ hits_le_held (orderly.unsent_held request taskId unsent) other

theorem Orderly.erases_new (orderly : before.Orderly) (request : Nat)
    (new : before.requests ≤ request) : before.decode.erases request = 0 := by
  have none := orderly.ends_new request new
  cases thread : before.decode with
  | erasing own msg =>
    have held := orderly.hits_le_held_unsent
      (show before.unsent = some (own, msg.taskId) by simp only [Threads.unsent, thread]) request
    simp only [endShare] at none
    simp
    omega
  | _ => rfl

theorem erases_untracked (untracked : threads.tracked = none) (request : Nat) :
    threads.decode.erases request = 0 := by
  unfold Threads.tracked at untracked
  split at untracked <;> simp_all [DecodeThread.erases]

theorem unsent_untracked (untracked : threads.tracked = none) : threads.unsent = none := by
  refine Option.eq_none_iff_forall_ne_some.mpr fun ⟨request, taskId⟩ unsent => ?_
  rw [unsent_tracked unsent] at untracked
  cases untracked

section

variable (orderly : before.Orderly)
include orderly

/-- The start of a request makes its piece. -/
theorem Orderly.of_request (requests : after.requests = before.requests + 1) (ends : ∀ request,
      after.endShare request ≤ before.endShare request + hits request (some before.requests))
    (decrements : ∀ request, after.decrementShare request ≤
      before.decrementShare request + hits request (some before.requests))
    (idle : before.tracked = none) (untracked : after.tracked = none) : after.Orderly := by
  have later : ∀ request, before.requests ≠ request → hits request (some before.requests) = 0 := by
    intro request other
    exact if_neg (by simpa using other)
  have share : ∀ request, before.endShare request + hits request (some before.requests) ≤ 1 ∧
      before.decrementShare request + hits request (some before.requests) ≤ 1 := by
    intro request
    have one := orderly.ends request
    have oneDecrement := orderly.decrements request
    rw [erases_untracked idle] at oneDecrement
    by_cases new : before.requests = request
    · have none := orderly.ends_new request (by omega)
      have noneDecrement := orderly.decrements_new request (by omega)
      have bound := hits_le_one request (some before.requests)
      omega
    · have zero := later request new
      omega
  refine ⟨fun request => (ends request).trans (share request).1, fun request => ?_,
    fun request new => ?_, fun request new => ?_, ?_, ?_⟩
  · exact ((decrements request).trans (share request).2).trans (Nat.le_add_right _ _)
  · have none := orderly.ends_new request (by omega)
    have zero := later request (by omega)
    have change := ends request
    omega
  · have none := orderly.decrements_new request (by omega)
    have zero := later request (by omega)
    have change := decrements request
    omega
  · rw [untracked]
    intro request taskId tracked
    cases tracked
  · rw [unsent_untracked untracked]
    intro request taskId unsent
    cases unsent

theorem Orderly.startRequest {msg : PrefillRequestMessage}
    (stepped : before.startRequest msg = some after) : after.Orderly := by
  unfold Threads.startRequest at stepped
  split at stepped
  case h_2 => cases stepped
  rename_i idle
  cases routing : before.dispatcher.route msg with
  | mk chosen routed =>
    have inFlight : routed.inFlight = before.dispatcher.inFlight := by
      rw [Dispatcher.route, Prod.mk.injEq] at routing
      exact routing.2 ▸ rfl
    simp only [routing, Option.some.injEq] at stepped
    subst stepped
    refine orderly.of_request rfl (fun request => ?_) (fun request => ?_) ?_ ?_
    · cases chosen <;> simp [endShare, held, idle, inFlight] <;> omega
    · cases chosen <;> simp [decrementShare, held, idle, inFlight]
      omega
    · simp only [Threads.tracked, idle]
    · cases chosen <;> simp only [Threads.tracked]

/-- The parts of `of_shares` about a decode thread that has no task in the map. -/
theorem Orderly.of_untracked (ends : ∀ request, after.endShare request ≤ before.endShare request)
    (decrements : ∀ request, after.decrementShare request + before.decode.erases request ≤
      before.decrementShare request) (requests : after.requests = before.requests)
    (untracked : after.tracked = none) : after.Orderly := by
  refine orderly.of_shares ends (fun request => (decrements request).trans (Nat.le_add_right _ _))
    (fun request _ => erases_untracked untracked request) requests ?_ ?_
  · rw [untracked]
    intro request taskId tracked
    cases tracked
  · rw [unsent_untracked untracked]
    intro request taskId unsent
    cases unsent

theorem Orderly.startCancel (stepped : before.startCancel taskId = some after) : after.Orderly := by
  unfold Threads.startCancel at stepped
  split at stepped
  case h_2 => cases stepped
  rename_i idle
  cases found : before.dispatcher.inFlight.lookup taskId with
  | none =>
    simp only [Dispatcher.takeTask, found, Option.some.injEq] at stepped
    exact stepped ▸ orderly
  | some entry =>
    have taken := held_takeTask found
    simp only [Dispatcher.takeTask, found, Option.some.injEq] at stepped taken
    subst stepped
    refine orderly.of_untracked (fun request => ?_) (fun request => ?_) rfl rfl
    · have split := taken request
      simp [endShare, idle]
      simp only [held] at split ⊢
      omega
    · have split := taken request
      simp [decrementShare, idle]
      simp only [held] at split ⊢
      omega

theorem Orderly.decodeStep {now : Time} {sent : Bool}
    (unraced : before.Unraced options (.decode now sent))
    (stepped : before.decodeStep now sent = some after) : after.Orderly := by
  unfold Threads.decodeStep at stepped
  cases thread : before.decode with
  | idle => simp only [thread] at stepped; cases stepped
  | rejecting | failing | incrementing | cancelled | sendingCancel =>
    simp only [thread, Option.some.injEq] at stepped
    subst stepped
    refine orderly.of_untracked (fun request => ?_) (fun request => ?_) rfl rfl
    · simp [endShare, held, thread, Dispatcher.incrementInflight, Dispatcher.decrementInflight]
    · simp [decrementShare, held, thread, Dispatcher.incrementInflight,
        Dispatcher.decrementInflight]
  | tracking own msg chosen =>
    simp only [thread, Option.some.injEq] at stepped
    subst stepped
    refine orderly.of_shares (fun request => ?_) (fun request => ?_) (fun request _ => rfl) rfl
      ?_ ?_
    · have added := held_track before msg.taskId { prefillId := chosen, startedAt := now } own
        request
      simp [endShare, thread]
      simp only [held] at added ⊢
      omega
    · have added := held_track before msg.taskId { prefillId := chosen, startedAt := now } own
        request
      simp [decrementShare, thread]
      simp only [held] at added ⊢
      omega
    · intro request taskId tracked
      simp only [Threads.tracked, Option.some.injEq, Prod.mk.injEq] at tracked
      obtain ⟨rfl, rfl⟩ := tracked
      exact Function.update_self _ _ _
    · intro request taskId unsent
      simp [Threads.unsent] at unsent
  | sending own msg chosen =>
    simp only [thread, Option.some.injEq] at stepped
    subst stepped
    cases sent with
    | true =>
      refine orderly.of_untracked (fun request => ?_) (fun request => ?_) rfl rfl
      · simp [endShare, held, thread]
      · simp [decrementShare, held, thread]
    | false =>
      have tracked : before.tracked = some (own, msg.taskId) := by
        simp only [Threads.tracked, thread]
      refine orderly.of_shares (fun request => ?_) (fun request => ?_) (fun request _ => rfl) rfl
        ?_ ?_
      · simp [endShare, held, thread]
      · simp [decrementShare, held, thread]
      · intro request taskId same
        exact orderly.tracked request taskId (tracked.trans same)
      · intro request taskId same
        obtain ⟨rfl, rfl⟩ := Prod.mk.inj (Option.some.inj (unsent_tracked same))
        exact unraced msg.taskId (by simp only [sendingTask, thread, Option.mem_def]) rfl
  | sendFailed own msg chosen =>
    have unsent : before.unsent = some (own, msg.taskId) := by
      simp only [Threads.unsent, thread]
    simp only [thread, Option.some.injEq] at stepped
    subst stepped
    refine orderly.of_shares (fun request => ?_) (fun request => ?_) (fun request new => ?_) rfl
      ?_ ?_
    · simp [endShare, held, thread, Dispatcher.decrementInflight]
    · simp [decrementShare, held, thread, Dispatcher.decrementInflight]
      omega
    · have none := orderly.ends_new request new
      have held := orderly.hits_le_held_unsent unsent request
      simp only [endShare] at none
      simp
      omega
    · intro request taskId same
      exact orderly.tracked request taskId ((unsent_tracked unsent).trans same)
    · intro request taskId same
      exact orderly.unsent_held request taskId (unsent.trans same)
  | erasing own msg =>
    have unsent : before.unsent = some (own, msg.taskId) := by
      simp only [Threads.unsent, thread]
    have current := orderly.tracked own msg.taskId (unsent_tracked unsent)
    obtain ⟨entry, found⟩ :=
      Option.ne_none_iff_exists'.mp (orderly.unsent_held own msg.taskId unsent)
    have taken := held_takeTask found
    rw [current] at taken
    simp only [thread, Option.some.injEq] at stepped
    subst stepped
    refine orderly.of_untracked (fun request => ?_) (fun request => ?_) rfl rfl
    · have split := taken request
      simp [endShare, thread]
      simp only [held] at split ⊢
      omega
    · have split := taken request
      simp [decrementShare, thread]
      simp only [held] at split ⊢
      omega

/-- Steps of the other threads. -/
theorem Orderly.of_other (decode : after.decode = before.decode)
    (current : after.current = before.current) (requests : after.requests = before.requests)
    (ends : ∀ request, after.endShare request ≤ before.endShare request)
    (decrements : ∀ request, after.decrementShare request ≤ before.decrementShare request)
    (kept : ∀ request taskId, before.unsent = some (request, taskId) →
      before.dispatcher.inFlight.lookup taskId ≠ none →
      after.dispatcher.inFlight.lookup taskId ≠ none) : after.Orderly := by
  have tracked : after.tracked = before.tracked := by simp only [Threads.tracked, decode]
  have unsent : after.unsent = before.unsent := by simp only [Threads.unsent, decode]
  refine orderly.of_shares ends (fun request => ?_) (fun request new => ?_) requests ?_ ?_
  · rw [decode]
    exact Nat.add_le_add_right (decrements request) _
  · rw [decode]
    exact orderly.erases_new request new
  · rw [tracked, current]
    exact orderly.tracked
  · rw [unsent]
    exact fun request taskId isUnsent =>
      kept request taskId isUnsent (orderly.unsent_held request taskId isUnsent)

/-- Steps that leave the map of tasks. -/
theorem Orderly.of_sameTasks (decode : after.decode = before.decode)
    (current : after.current = before.current) (requests : after.requests = before.requests)
    (inFlight : after.dispatcher.inFlight = before.dispatcher.inFlight)
    (ends : ∀ request, tally Act.ends after.trace request + after.prefill.owes request +
      after.watchdog.owes request + after.timer.owes request ≤
        tally Act.ends before.trace request + before.prefill.owes request +
          before.watchdog.owes request + before.timer.owes request)
    (decrements : ∀ request, tally Act.decrements after.trace request +
      after.prefill.owesDecrement request + after.timer.owesDecrement request ≤
        tally Act.decrements before.trace request + before.prefill.owesDecrement request +
          before.timer.owesDecrement request) : after.Orderly := by
  refine orderly.of_other decode current requests (fun request => ?_) (fun request => ?_)
    (fun request taskId _ found => inFlight ▸ found)
  · have change := ends request
    simp only [endShare, held, decode, current, inFlight]
    omega
  · have change := decrements request
    simp only [decrementShare, held, decode, current, inFlight]
    omega

theorem Orderly.startResult {fromServerId : ServerId} {msg : PrefillResultMessage}
    (unraced : before.Unraced options (.result fromServerId msg))
    (stepped : before.startResult fromServerId msg = some after) : after.Orderly := by
  unfold Threads.startResult at stepped
  split at stepped
  case h_2 => cases stepped
  rename_i idle
  cases found : before.dispatcher.inFlight.lookup msg.taskId with
  | none =>
    simp only [Dispatcher.takeTask, found, Option.some.injEq] at stepped
    exact stepped ▸ orderly
  | some entry =>
    have taken := held_takeTask found
    simp only [Dispatcher.takeTask, found, Option.some.injEq] at stepped taken
    subst stepped
    refine orderly.of_other rfl rfl rfl (fun request => ?_) (fun request => ?_)
      fun request taskId unsent present => ?_
    · have split := taken request
      simp [endShare, idle]
      simp only [held] at split ⊢
      omega
    · have split := taken request
      simp [decrementShare, idle]
      simp only [held] at split ⊢
      omega
    · have other : taskId ≠ msg.taskId := by
        rintro rfl
        exact unraced _ unsent rfl
      rwa [AList.lookup_erase_ne other]

theorem Orderly.prefillStep (stepped : before.prefillStep = some after) : after.Orderly := by
  unfold Threads.prefillStep at stepped
  cases thread : before.prefill with
  | idle => simp only [thread] at stepped; cases stepped
  | decrementing | forwarding | registering =>
    simp only [thread, Option.some.injEq] at stepped
    subst stepped
    refine orderly.of_sameTasks rfl rfl rfl rfl (fun request => ?_) (fun request => ?_)
    · simp [thread]
    · simp [thread]

end

/-- A task that is not of the kind stays. -/
theorem lookup_takeTasks {taken : InFlightEntry → Bool}
    (found : threads.dispatcher.inFlight.lookup taskId ≠ none)
    (other : ∀ entry, threads.dispatcher.inFlight.lookup taskId = some entry →
      taken entry = false) : (threads.takeTasks taken).2.inFlight.lookup taskId ≠ none := by
  obtain ⟨entry, present⟩ := Option.ne_none_iff_exists'.mp found
  have kept : ⟨taskId, entry⟩ ∈ (threads.takeTasks taken).2.inFlight.entries :=
    Table.mem_eraseIf.mpr ⟨Table.mem_entries.mpr present, other entry present⟩
  rw [Table.mem_entries.mp kept]
  exact Option.some_ne_none entry

@[simp] theorem Taken.owes_cons (request own : Nat) (task : TaskId × InFlightEntry) (rest : Taken) :
    Taken.owes request ((own, task) :: rest) = hits request (some own) + Taken.owes request rest :=
  rfl

section

variable (orderly : before.Orderly)
include orderly

theorem Orderly.startDown {serverId : ServerId} (stepped : before.startDown serverId = some after) :
    after.Orderly := by
  unfold Threads.startDown at stepped
  split at stepped
  case h_2 => cases stepped
  rename_i idle
  simp only [Option.some.injEq] at stepped
  subst stepped
  refine orderly.of_sameTasks rfl rfl rfl rfl (fun request => ?_) (fun request => Nat.le_refl _)
  cases (before.dispatcher.registry.markDown serverId).1 <;>
    simp [idle]

theorem Orderly.watchdogStep (unraced : before.Unraced options .watchdog)
    (stepped : before.watchdogStep = some after) : after.Orderly := by
  unfold Threads.watchdogStep at stepped
  cases thread : before.watchdog with
  | idle => simp only [thread] at stepped; cases stepped
  | orphaning serverId =>
    have taken := held_takeTasks before (·.prefillId = serverId)
    simp only [thread, Option.some.injEq] at stepped
    subst stepped
    refine orderly.of_other rfl rfl rfl (fun request => ?_) (fun request => ?_)
      fun request taskId unsent present => lookup_takeTasks present fun entry found => ?_
    · have split := taken request
      simp [endShare, thread]
      simp only [held] at split ⊢
      omega
    · have split := taken request
      simp only [decrementShare]
      simp only [held] at split ⊢
      omega
    · have lost : serverId ∈ before.lostServer := by
        simp [lostServer, thread]
      exact decide_eq_false (unraced _ unsent serverId lost entry found)
  | failing orphaned =>
    cases orphaned with
    | nil =>
      simp only [thread, Option.some.injEq] at stepped
      subst stepped
      refine orderly.of_sameTasks rfl rfl rfl rfl (fun request => ?_) (fun _ => Nat.le_refl _)
      simp [thread]
    | cons task rest =>
      obtain ⟨own, task⟩ := task
      simp only [thread, Option.some.injEq] at stepped
      subst stepped
      refine orderly.of_sameTasks rfl rfl rfl rfl (fun request => ?_) (fun request => ?_)
      · simp [thread]
        omega
      · simp

theorem Orderly.startTimeouts {now : Time} (stepped : before.startTimeouts now = some after) :
    after.Orderly := by
  unfold Threads.startTimeouts at stepped
  split at stepped
  case h_2 => cases stepped
  rename_i idle
  simp only [Option.some.injEq] at stepped
  subst stepped
  refine orderly.of_sameTasks rfl rfl rfl rfl (fun request => ?_) (fun request => ?_)
  · simp [idle]
  · simp [idle]

theorem Orderly.timerStep (unraced : before.Unraced options .timer)
    (stepped : timerStep options before = some after) : after.Orderly := by
  unfold Threads.timerStep at stepped
  cases thread : before.timer with
  | idle => simp only [thread] at stepped; cases stepped
  | recovering recovered now =>
    cases recovered with
    | nil =>
      simp only [thread, Option.some.injEq] at stepped
      subst stepped
      refine orderly.of_sameTasks rfl rfl rfl rfl (fun request => ?_) (fun request => ?_)
      · simp only [thread]
        split <;> exact Nat.le_refl _
      · simp only [thread]
        split <;> exact Nat.le_refl _
    | cons serverId rest =>
      simp only [thread, Option.some.injEq] at stepped
      subst stepped
      refine orderly.of_sameTasks rfl rfl rfl rfl (fun request => ?_) (fun request => ?_)
      · simp [thread]
      · simp [thread]
  | sweeping now =>
    have taken := held_takeTasks before (Dispatcher.timedOut options now)
    simp only [thread, Option.some.injEq] at stepped
    subst stepped
    refine orderly.of_other rfl rfl rfl (fun request => ?_) (fun request => ?_)
      fun request taskId unsent present => lookup_takeTasks present fun entry found => ?_
    · have split := taken request
      simp [endShare, thread]
      simp only [held] at split ⊢
      omega
    · have split := taken request
      simp [decrementShare, thread]
      simp only [held] at split ⊢
      omega
    · have sweeps : now ∈ before.sweepTime := by
        simp [sweepTime, thread]
      exact unraced _ unsent now sweeps entry found
  | decrementing timedOut now =>
    cases timedOut with
    | nil =>
      simp only [thread, Option.some.injEq] at stepped
      subst stepped
      refine orderly.of_sameTasks rfl rfl rfl rfl (fun request => ?_) (fun request => ?_)
      · simp [thread]
      · simp [thread]
    | cons task rest =>
      obtain ⟨own, taskId, entry⟩ := task
      simp only [thread, Option.some.injEq] at stepped
      subst stepped
      refine orderly.of_sameTasks rfl rfl rfl rfl (fun request => ?_) (fun request => ?_)
      · simp [thread]
      · simp [thread, List.tail_cons]
        omega
  | sendingCancel timedOut now =>
    simp only [thread, Option.some.injEq] at stepped
    subst stepped
    refine orderly.of_sameTasks rfl rfl rfl rfl (fun request => ?_) (fun request => ?_)
    · simp [thread]
    · simp [thread]
  | recording timedOut now =>
    cases timedOut with
    | nil => simp only [thread] at stepped; cases stepped
    | cons task rest =>
      obtain ⟨own, taskId, entry⟩ := task
      simp only [thread, Option.some.injEq] at stepped
      subst stepped
      have sameTasks : (Dispatcher.recordTimeout options before.dispatcher entry.prefillId
          now).inFlight = before.dispatcher.inFlight := by
        unfold Dispatcher.recordTimeout
        split
        · simp only
          split <;> rfl
        · rfl
      refine orderly.of_sameTasks rfl rfl rfl sameTasks (fun request => ?_) (fun request => ?_)
      · simp [thread]
      · simp [thread]
  | failing timedOut now =>
    cases timedOut with
    | nil => simp only [thread] at stepped; cases stepped
    | cons task rest =>
      obtain ⟨own, taskId, entry⟩ := task
      simp only [thread, Option.some.injEq] at stepped
      subst stepped
      refine orderly.of_sameTasks rfl rfl rfl rfl (fun request => ?_) (fun request => ?_)
      · simp [thread]
        omega
      · simp [thread, List.tail_cons]

theorem Orderly.step {move : Move} (unraced : before.Unraced options move)
    (stepped : step options before move = some after) : after.Orderly := by
  cases move with
  | request msg => exact orderly.startRequest stepped
  | cancel taskId => exact orderly.startCancel stepped
  | result fromServerId msg => exact orderly.startResult unraced stepped
  | registration serverId maxInFlight =>
    simp only [Threads.step, startRegistration] at stepped
    split at stepped
    · rename_i idle
      simp only [Option.some.injEq] at stepped
      subst stepped
      refine orderly.of_sameTasks rfl rfl rfl rfl (fun request => ?_) (fun request => ?_)
      · simp [idle]
      · simp [idle]
    · cases stepped
  | cacheBlocksAdded serverId blockHashes =>
    simp only [Threads.step, addCacheBlocks] at stepped
    split at stepped
    · simp only [Option.some.injEq] at stepped
      subst stepped
      exact orderly.of_sameTasks rfl rfl rfl rfl (fun _ => Nat.le_refl _) fun _ => Nat.le_refl _
    · cases stepped
  | down serverId => exact orderly.startDown stepped
  | timeouts now => exact orderly.startTimeouts stepped
  | decode now sent => exact orderly.decodeStep unraced stepped
  | prefill => exact orderly.prefillStep stepped
  | watchdog => exact orderly.watchdogStep unraced stepped
  | timer => exact orderly.timerStep unraced stepped

end

theorem orderly_initial : Orderly {} := by
  refine ⟨fun _ => Nat.zero_le _, fun _ => Nat.zero_le _, fun _ _ => rfl, fun _ _ => rfl, ?_, ?_⟩
  · intro request taskId tracked
    cases tracked
  · intro request taskId unsent
    cases unsent

theorem tally_answered_le (trace : List Act) (request : Nat) :
    trace.count (.answered request) ≤ tally Act.ends trace request := by
  induction trace with
  | nil => exact Nat.le_refl _
  | cons act rest ih =>
    rw [List.count_cons, ← List.singleton_append, tally_append, tally_single, Nat.add_comm]
    refine Nat.add_le_add ?_ ih
    cases act <;> simp [Act.ends, hits]

/-- The trace of an orderly state answers each request at most once. -/
theorem Orderly.answeredOnce (orderly : threads.Orderly) (request : Nat) :
    AnsweredOnce threads.trace request := by
  have ends := orderly.ends request
  simp only [endShare] at ends
  refine ⟨(tally_answered_le threads.trace request).trans (by omega), ?_, ?_⟩
  · intro before after split answered
    have cancel : 0 < tally Act.ends [.cancelAccepted request] request :=
      tally_pos.mpr ⟨_, List.mem_singleton_self _, rfl⟩
    have answer : 0 < tally Act.ends after request := tally_pos.mpr ⟨_, answered, rfl⟩
    rw [split, ← List.singleton_append, tally_append, tally_append] at ends
    omega
  · have counts : threads.trace.count (.decremented request) =
        tally Act.decrements threads.trace request := by
      induction threads.trace with
      | nil => rfl
      | cons act rest ih =>
        rw [List.count_cons, ih, ← List.singleton_append, tally_append, tally_single,
          Nat.add_comm]
        cases act <;> simp [Act.decrements, hits]
    have decrements := orderly.decrements request
    simp only [decrementShare] at decrements
    rw [counts]
    cases thread : threads.decode with
    | erasing own msg =>
      have held := orderly.hits_le_held_unsent
        (show threads.unsent = some (own, msg.taskId) by simp only [Threads.unsent, thread])
        request
      rw [thread, DecodeThread.erases] at decrements
      omega
    | _ =>
      rw [thread, DecodeThread.erases] at decrements
      · omega
      all_goals simp

/-- In every run in which no other handler gets ahead of the failure path of a send, each
request is answered at most once. -/
theorem answered_once {threads : Threads}
    (reached : Reaches (step options) (Unraced options) {} threads) (request : Nat) :
    AnsweredOnce threads.trace request := by
  have orderly : threads.Orderly := reached.invariant Orderly orderly_initial
    fun _ _ _ orderly unraced stepped => orderly.step unraced stepped
  exact orderly.answeredOnce request

/-- A request is on its way to a prefill server. -/
def sendRequest : List Move :=
  [.registration "A" 4, .prefill, .request { taskId := 1 }, .decode 0 true, .decode 0 true]

/-- The send fails, the task is erased and failed, and the server is lost afterwards. -/
def failedSend : List Move :=
  sendRequest ++ [.decode 0 false, .decode 0 true, .decode 0 true, .decode 0 true, .down "A",
    .watchdog, .watchdog]

theorem failedSend_runs :
    (runWithin (step .default) (Unraced .default) {} failedSend).isSome = true := by
  decide +kernel

theorem answered_once_failedSend : AnsweredOnce
    ((runWithin (step .default) (Unraced .default) {} failedSend).get failedSend_runs).trace 0 :=
  answered_once (reaches_get failedSend_runs) 0

/-- The server is lost while the request is sent, and the watchdog fails its task first. -/
def racedSend : List Move :=
  sendRequest ++ [.down "A", .watchdog, .watchdog, .decode 0 false, .decode 0 true,
    .decode 0 true, .decode 0 true]

theorem racedSend_runs :
    (runWithin (step .default) (fun _ _ => True) {} racedSend).isSome = true := by
  decide +kernel

/-- Then the failure path answers the request again. -/
theorem answered_twice : ¬∀ (options : Options) (threads : Threads),
    Reaches (step options) (fun _ _ => True) {} threads →
      ∀ request, AnsweredOnce threads.trace request := by
  intro claim
  have once := (claim .default _ (reaches_get racedSend_runs) 0).answered
  have twice : ((runWithin (step .default) (fun _ _ => True) {} racedSend).get
      racedSend_runs).trace.count (.answered 0) = 2 := by decide +kernel
  omega

end Threads

end InferenceServer.Gateway
