import InferenceServer.Disaggregation.PrefillFirst

/-! How often a request that waits for its reservation is completed. The request is in the
map, in the hands of one handler, or completed; a second one of it is made only by writing
an entry back that was taken since it was read, or by failing a request whose entry is
gone. -/
namespace InferenceServer.Disaggregation.PrefillFirst
open Machine

/-- The request that is completed: by an error, by the launch of its work or by an
exception. -/
def Event.completes : Event → Option Nat
  | .result task _ | .chunk task _ _ | .thrown task _ => some task
  | .launched work => some work.task
  | .reserving _ | .abortedRequest _ => none

/-- Whether the handler is to complete the request. -/
def Frame.holds (task : Nat) : Frame → Nat
  | .applying pending _ | .aborting pending _ | .failing pending _ _ =>
    hits task (some pending.task)
  | .resolving work => hits task (some work.task)
  | .discovering _ _ | .reading _ _ _ | .updating _ _ _ | .connecting _ _ | .sending _ _
  | .unreserved _ _ _ | .stopping _ | .failingAll _ => 0

variable (server : PrefillFirst)

/-- How often the request is completed or in the map. -/
def own (task : Nat) : Nat :=
  tally Event.completes server.trace task +
    Table.total (fun _ entry => hits task (some entry.task)) server.pendingSlotReservations

theorem own_note (event : Event) (task : Nat) :
    (server.note event).own task = server.own task + hits task event.completes := by
  simp [own, note]
  omega

theorem own_erase {server : PrefillFirst} {taskId : TaskId} {entry : PrefillFirstPending}
    (found : server.pendingSlotReservations.lookup taskId = some entry) (task : Nat) :
    server.own task = own { server with
        pendingSlotReservations := server.pendingSlotReservations.erase taskId } task +
      hits task (some entry.task) := by
  have split := Table.total_erase (fun _ entry => hits task (some entry.task)) found
  simp only [own, split, Nat.add_assoc]

theorem own_insert {server : PrefillFirst} {taskId : TaskId} {entry updated : PrefillFirstPending}
    (found : server.pendingSlotReservations.lookup taskId = some entry)
    (same : entry.task = updated.task) (task : Nat) :
    own { server with
      pendingSlotReservations := server.pendingSlotReservations.insert taskId updated } task =
      server.own task := by
  have split := Table.total_erase (fun _ entry => hits task (some entry.task)) found
  have added := Table.total_insert (fun _ entry => hits task (some entry.task))
    server.pendingSlotReservations taskId updated
  simp only [own, split, added, same]

/-- A new entry may only push another one out. -/
theorem own_insert_le (taskId : TaskId) (new : PrefillFirstPending) (task : Nat) :
    own { server with
      pendingSlotReservations := server.pendingSlotReservations.insert taskId new } task ≤
      server.own task + hits task (some new.task) := by
  have added := Table.total_insert (fun _ entry => hits task (some entry.task))
    server.pendingSlotReservations taskId new
  have less : Table.total (fun _ entry => hits task (some entry.task))
      (server.pendingSlotReservations.erase taskId) ≤
        Table.total (fun _ entry => hits task (some entry.task))
          server.pendingSlotReservations := by
    cases found : server.pendingSlotReservations.lookup taskId with
    | none => rw [Table.total_erase_none _ found]
    | some entry => rw [Table.total_erase _ found]; omega
  simp only [own, added]
  omega

abbrev Serving := Running PrefillFirst Frame

/-- A request is completed at most once, and is not in the map any more then. -/
structure CompletedOnce (serving : Serving) (task : Nat) : Prop where
  once : tally Event.completes serving.shared.trace task ≤ 1
  gone : 0 < tally Event.completes serving.shared.trace task →
    ∀ entry ∈ serving.shared.pendingSlotReservations.entries, entry.2.task ≠ task

namespace Serving

variable (serving : Serving)

/-- The request's entry is still in the map. -/
def Pends (task : Nat) (taskId : TaskId) : Prop :=
  (serving.shared.pendingSlotReservations.lookup taskId).map (·.task) = some task

instance (serving : Serving) (task : Nat) (taskId : TaskId) :
    Decidable (serving.Pends task taskId) :=
  inferInstanceAs (Decidable (_ = _))

/-- No handler takes an entry between its reading and its writing back, nor the entry of a
request whose reservation fails. -/
def Undisturbed : Turn Call Frame Outcome → Prop
  | .resume (.updating _ message updated) _ => serving.Pends updated.task message.taskId
  | .resume (.unreserved task taskId _) _ => serving.Pends task taskId
  | _ => True

instance (serving : Serving) (turn : Turn Call Frame Outcome) :
    Decidable (serving.Undisturbed turn) := by
  unfold Undisturbed
  split <;> infer_instance

def share (task : Nat) : Nat :=
  serving.shared.own task + load (Frame.holds task) serving.frames

end Serving

/-- Each request is in at most one place, and later requests are in none. -/
structure OnePlace (serving : Serving) : Prop where
  one : ∀ task, serving.share task ≤ 1
  later : ∀ task, serving.shared.tasks ≤ task → serving.share task = 0

namespace OnePlace

variable {options : Options} {serving : Serving}
variable {shared : PrefillFirst} {rest : Option Frame} {frame : Frame}

theorem completedOnce (placed : OnePlace serving) (task : Nat) : CompletedOnce serving task := by
  have one := placed.one task
  unfold Serving.share own at one
  refine ⟨by omega, fun completed entry present same => ?_⟩
  have found := Table.total_erase (fun _ entry => hits task (some entry.task))
    (Table.mem_entries.mp present)
  simp only [same, hits_self] at found
  omega

theorem initial : OnePlace { shared := {} } where
  one _ := Nat.zero_le 1
  later _ _ := rfl

section

variable (placed : OnePlace serving)
include placed

/-- A step that makes no new request adds no share. -/
theorem of_change {rest left : List Frame} (tasks : shared.tasks = serving.shared.tasks)
    (change : ∀ task, shared.own task + load (Frame.holds task) rest +
      load (Frame.holds task) left ≤ serving.share task) :
    OnePlace { shared, frames := rest ++ left } := by
  have shares : ∀ task, Serving.share { shared, frames := rest ++ left } task ≤
      serving.share task := by
    intro task
    have bound := change task
    simp only [Serving.share, load_append] at bound ⊢
    omega
  constructor
  · exact fun task => (shares task).trans (placed.one task)
  · intro task new
    have none := placed.later task (tasks ▸ new)
    have bound := shares task
    omega

theorem enqueued (tasks : shared.tasks = serving.shared.tasks + 1)
    (idle : ∀ task, load (Frame.holds task) rest.toList = 0) (added : ∀ task, shared.own task ≤
      serving.shared.own task + hits task (some serving.shared.tasks)) :
    OnePlace { shared, frames := rest.toList ++ serving.frames } := by
  have bound : ∀ task, Serving.share { shared, frames := rest.toList ++ serving.frames } task ≤
      serving.share task + hits task (some serving.shared.tasks) := by
    intro task
    have more := added task
    have none := idle task
    simp only [Serving.share, load_append] at more ⊢
    omega
  constructor
  · intro task
    have more := bound task
    by_cases new : serving.shared.tasks = task
    · have none := placed.later task new.le
      have single := hits_le_one task (some serving.shared.tasks)
      omega
    · have one := placed.one task
      have other : hits task (some serving.shared.tasks) = 0 :=
        if_neg fun same => new (Option.some.inj same)
      omega
  · intro task later
    simp only [tasks] at later
    have none := placed.later task (by omega)
    have other : hits task (some serving.shared.tasks) = 0 :=
      if_neg fun same => by have := Option.some.inj same; omega
    have more := bound task
    omega

theorem called (call : Call) :
    OnePlace { shared := (PrefillFirst.call options serving.shared call).1
               frames := (PrefillFirst.call options serving.shared call).2.toList ++
                 serving.frames } := by
  cases call with
  | enqueuePrefillFirst request registrationHashes reply =>
    simp only [PrefillFirst.call]
    split
    · exact placed.enqueued rfl (fun task => rfl) (own_insert_le serving.shared _ _)
    · exact placed.enqueued rfl (fun task => rfl) fun task => (own_note _ _ task).le
  | handleSlotReservationResponse result =>
    simp only [PrefillFirst.call]
    cases found : serving.shared.pendingSlotReservations.lookup result.taskId with
    | none => exact placed
    | some pending =>
      refine placed.of_change rfl fun task => ?_
      have taken := own_erase found task
      simp [Frame.holds, Serving.share]
      omega
  | abortRequest taskId =>
    simp only [PrefillFirst.call]
    cases found : serving.shared.pendingSlotReservations.lookup taskId with
    | none => exact placed.of_change rfl fun task => by simp [Frame.holds, Serving.share]
    | some pending =>
      refine placed.of_change rfl fun task => ?_
      have taken := own_erase found task
      simp [Frame.holds, Serving.share]
      omega
  | connectionLost =>
    exact placed.of_change rfl fun task => by
      simp [PrefillFirst.call, Frame.holds, Serving.share]

/-- A handler takes its next step. -/
theorem goes_on (waits : frame ∈ serving.frames) (tasks : shared.tasks = serving.shared.tasks)
    (change : ∀ task, shared.own task + load (Frame.holds task) rest.toList ≤
      serving.shared.own task + frame.holds task) :
    OnePlace { shared, frames := rest.toList ++ serving.frames.erase frame } := by
  refine placed.of_change tasks fun task => ?_
  have split := load_erase (Frame.holds task) waits
  have bound := change task
  unfold Serving.share
  omega

/-- What a handler has in its hands it completes. -/
theorem completes (event : Event) (waits : frame ∈ serving.frames)
    (own : ∀ task, hits task event.completes = frame.holds task)
    (idle : ∀ task, load (Frame.holds task) rest.toList = 0) :
    OnePlace { shared := serving.shared.note event
               frames := rest.toList ++ serving.frames.erase frame } :=
  placed.goes_on waits rfl fun task => by rw [own_note, own task, idle task, Nat.add_zero]

/-- A handler goes on with what it has in its hands. -/
theorem passes {next : Frame} (waits : frame ∈ serving.frames)
    (same : ∀ task, next.holds task = frame.holds task) :
    OnePlace { shared := serving.shared
               frames := (some next).toList ++ serving.frames.erase frame } :=
  placed.goes_on waits rfl fun task => by rw [load_some, same task]

theorem resumed {outcome : Outcome} (waits : frame ∈ serving.frames)
    (undisturbed : serving.Undisturbed (.resume frame outcome)) :
    OnePlace { shared := (serving.shared.resume frame outcome).1
               frames := (serving.shared.resume frame outcome).2.toList ++
                 serving.frames.erase frame } := by
  cases frame with
  | discovering task message =>
    simp only [PrefillFirst.resume]
    split <;> exact placed.passes waits fun _ => rfl
  | reading task message peer =>
    simp only [PrefillFirst.resume]
    split <;> exact placed.passes waits fun _ => rfl
  | updating task message updated =>
    obtain ⟨entry, found, same⟩ := Option.map_eq_some_iff.mp undisturbed
    exact placed.goes_on waits rfl fun own => (own_insert found same own).le
  | connecting task message =>
    simp only [PrefillFirst.resume]
    split <;> exact placed.passes waits fun _ => rfl
  | sending task message =>
    simp only [PrefillFirst.resume]
    split
    · exact placed.completes (.reserving message) waits (fun _ => rfl) fun _ => rfl
    · exact placed.passes waits fun _ => rfl
  | unreserved task taskId text =>
    obtain ⟨entry, found, same⟩ := Option.map_eq_some_iff.mp undisturbed
    refine placed.goes_on waits rfl fun own => ?_
    have taken := own_erase found own
    simp [PrefillFirst.resume, own_note, Event.completes, ← same]
    omega
  | applying pending result =>
    simp only [PrefillFirst.resume]
    split
    · refine placed.completes _ waits (fun own => ?_) fun _ => rfl
      unfold PrefillFirstPending.fail
      split <;> rfl
    · exact placed.passes waits fun _ => rfl
  | resolving work =>
    simp only [PrefillFirst.resume]
    split
    · refine placed.completes _ waits (fun own => ?_) fun _ => rfl
      unfold LaunchedWork.fail
      split <;> rfl
    · split
      · exact placed.completes (.launched _) waits (fun _ => rfl) fun _ => rfl
      · exact placed.goes_on waits rfl fun own => Nat.le_add_right _ _
  | aborting pending taskId =>
    refine placed.completes (pending.abort taskId) waits (fun own => ?_) fun _ => rfl
    unfold PrefillFirstPending.abort
    split <;> rfl
  | stopping taskId =>
    exact placed.completes (.abortedRequest taskId) waits (fun _ => rfl) fun _ => rfl
  | failingAll taskIds =>
    cases taskIds with
    | nil => exact placed.goes_on waits rfl fun _ => le_rfl
    | cons taskId rest =>
      simp only [PrefillFirst.resume]
      cases found : serving.shared.pendingSlotReservations.lookup taskId with
      | none => exact placed.passes waits fun _ => rfl
      | some pending =>
        refine placed.goes_on waits rfl fun own => ?_
        have taken := own_erase found own
        simp [Frame.holds]
        omega
  | failing pending taskId rest =>
    refine placed.completes (pending.fail taskId "connection lost") waits (fun own => ?_)
      fun _ => rfl
    unfold PrefillFirstPending.fail
    split <;> rfl

end

end OnePlace

/-- In every run in which no handler takes an entry that is about to be written back or
whose reservation has failed, each request is completed at most once. -/
theorem pending_completed_once {options : Options} {serving : Serving}
    (reached : Reaches (prefillHandlers options).step Serving.Undisturbed { shared := {} } serving)
    (task : Nat) : CompletedOnce serving task := by
  refine ((prefillHandlers options).invariant OnePlace .initial ?_ ?_ reached).completedOnce task
  · exact fun before call placed _ => placed.called call
  · exact fun before frame outcome placed undisturbed waits => placed.resumed waits undisturbed

/-- A request of the frontend with its reservation. -/
def request : LLMRequest where
  taskId := 5
  prompt := [1, 2, 3]

def reservation : SlotReservationRequestMessage where
  taskId := 5
  registrationHashes := [9]

def decodePeer : DecodePeer where
  instanceIdHex := "1f"

def pendingRequest : PrefillFirstPending :=
  { newPending 0 request [9] .result with decodeInstanceId := "1f" }

def grant : SlotReservationResponseMessage where
  taskId := 5
  hasSlot := true
  slotId := 3
  sessionId := "s"

/-- The reservation is granted and the work launched; the abort comes too late. -/
def reservedAndLaunched : List (Turn Call Frame Outcome) :=
  [.call (.enqueuePrefillFirst request [9] .result),
    .resume (.discovering 0 reservation) { peers := [decodePeer] },
    .resume (.reading 0 reservation decodePeer) {},
    .resume (.updating 0 reservation pendingRequest) {}, .resume (.connecting 0 reservation) {},
    .resume (.sending 0 reservation) {}, .call (.handleSlotReservationResponse grant),
    .call (.abortRequest 5), .resume (.applying pendingRequest grant) {},
    .resume (.resolving (pendingRequest.granted grant)) {}, .resume (.stopping 5) {}]

theorem reservedAndLaunched_runs : (runWithin (prefillHandlers {}).step Serving.Undisturbed
    { shared := {} } reservedAndLaunched).isSome = true := by
  decide +kernel

theorem pending_completed_once_launched : CompletedOnce
    ((runWithin (prefillHandlers {}).step Serving.Undisturbed { shared := {} }
      reservedAndLaunched).get reservedAndLaunched_runs) 0 :=
  pending_completed_once (reaches_get reservedAndLaunched_runs) 0

/-- The abort comes between the reading of the entry and its writing back. -/
def abortedBetween : List (Turn Call Frame Outcome) :=
  [.call (.enqueuePrefillFirst request [9] .result),
    .resume (.discovering 0 reservation) { peers := [decodePeer] },
    .resume (.reading 0 reservation decodePeer) {}, .call (.abortRequest 5),
    .resume (.aborting (newPending 0 request [9] .result) 5) {},
    .resume (.updating 0 reservation pendingRequest) {}, .resume (.connecting 0 reservation) {},
    .resume (.sending 0 reservation) {}, .call (.handleSlotReservationResponse grant),
    .resume (.applying pendingRequest grant) {},
    .resume (.resolving (pendingRequest.granted grant)) {}]

theorem abortedBetween_runs : (runWithin (prefillHandlers {}).step (fun _ _ => True)
    { shared := {} } abortedBetween).isSome = true := by
  decide +kernel

/-- Then the request that was aborted is launched. -/
theorem aborted_request_launched : ¬∀ (options : Options) (serving : Serving) (task : Nat),
    Reaches (prefillHandlers options).step (fun _ _ => True) { shared := {} } serving →
      CompletedOnce serving task := by
  intro claim
  have once := (claim {} _ 0 (reaches_get abortedBetween_runs)).once
  have twice : tally Event.completes ((runWithin (prefillHandlers {}).step (fun _ _ => True)
      { shared := {} } abortedBetween).get abortedBetween_runs).shared.trace 0 = 2 := by
    decide +kernel
  omega

end InferenceServer.Disaggregation.PrefillFirst
