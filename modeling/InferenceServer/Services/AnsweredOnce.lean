import InferenceServer.Services.AsyncService

/-! Every request is answered at most once, and no request waits for a worker that has died. A
callback is in the map or in the hands of one operation. Once a death has failed all that waited, a
request is in the map only as long as its own call goes on: the call looks at the flag after it has
put the request there. -/
namespace InferenceServer.Services
open Machine
open Disaggregation (TaskId)

variable {Payload : Type*}

namespace AsyncFrame

/-- How many callbacks of a request an operation is to call. -/
def holds (taskId : TaskId) : AsyncFrame Payload → Nat
  | refusing own => hits taskId (some own)
  | validating own => hits taskId (some own)
  | completing own _ => hits taskId (some own)
  | responding own _ => hits taskId (some own)
  | answering _ own _ => hits taskId (some own)
  | failing remaining _ _ => remaining.count taskId
  | _ => 0

/-- The request whose `produceResponseAsync` call has not returned. -/
def produces : AsyncFrame Payload → Option TaskId
  | refusing taskId => some taskId
  | validating taskId => some taskId
  | pushing taskId => some taskId
  | stamping taskId => some taskId
  | checking taskId => some taskId
  | reasoning taskId => some taskId
  | retracting taskId _ => some taskId
  | completing taskId _ => some taskId
  | draining _ (.submitter taskId) => some taskId
  | failing _ _ (.submitter taskId) => some taskId
  | _ => none

/-- The request that such a call has put into the map and has yet to look after. -/
def retains : AsyncFrame Payload → Option TaskId
  | pushing taskId => some taskId
  | stamping taskId => some taskId
  | checking taskId => some taskId
  | reasoning taskId => some taskId
  | retracting taskId _ => some taskId
  | draining _ (.submitter taskId) => some taskId
  | _ => none

theorem produces_of_retains {frame : AsyncFrame Payload} {taskId : TaskId}
    (retained : frame.retains = some taskId) : frame.produces = some taskId := by
  unfold retains at retained
  split at retained
  all_goals first
    | exact retained
    | cases retained

/-- A worker's death that is to drain what waits. -/
def Deadly : AsyncFrame Payload → Prop
  | draining _ .workerDeath => True
  | _ => False

end AsyncFrame

namespace AsyncService

/-- How often a request's callback has been called. -/
def completed (service : AsyncService Payload) (taskId : TaskId) : Nat :=
  tally (fun completion => some completion.1) service.completions taskId

/-- One for a request that waits. -/
def pending (service : AsyncService Payload) (taskId : TaskId) : Nat :=
  service.pendingResults.total fun other _ => hits taskId (some other)

end AsyncService

/-- No task id is submitted twice. -/
def Answering.Distinct (answering : Answering Payload) : AsyncTurn Payload → Prop
  | .call (.produceResponseAsync taskId) => taskId ∉ answering.shared.submitted
  | _ => True

/-- The invariant: counts for the callbacks and for the calls, the size of the map, and what the
death of a worker leaves in it. -/
structure Answered (service : AsyncService Payload) (frames : List (AsyncFrame Payload)) :
    Prop where
  size : service.inFlight = UInt64.ofNat service.pendingResults.entries.length
  once : ∀ taskId, service.completed taskId + service.pending taskId +
      load (AsyncFrame.holds taskId) frames ≤
    if taskId ∈ service.submitted then 1 else 0
  calls : ∀ taskId, service.returned.count taskId +
      load (fun frame => hits taskId frame.produces) frames ≤
    if taskId ∈ service.submitted then 1 else 0
  marked : (service.workerDied ∨ ∃ frame ∈ frames, frame.Deadly) → service.workerFailed
  kept : service.workerDied → ∀ taskId, (service.pendingResults.lookup taskId).isSome →
    ∃ frame ∈ frames, frame.retains = some taskId

namespace Answered

variable {before after service : AsyncService Payload}
variable {frames rest : List (AsyncFrame Payload)}
variable {taskId : TaskId} {next : AsyncFrame Payload}

theorem perm (answered : Answered service frames) (same : frames.Perm rest) :
    Answered service rest where
  size := answered.size
  once taskId := by
    have once := answered.once taskId
    rwa [load, (same.map _).sum_eq] at once
  calls taskId := by
    have calls := answered.calls taskId
    rwa [load, (same.map _).sum_eq] at calls
  marked cause := by
    refine answered.marked (cause.imp_right ?_)
    rintro ⟨frame, member, deadly⟩
    exact ⟨frame, same.mem_iff.mpr member, deadly⟩
  kept died taskId waits := by
    obtain ⟨frame, member, retained⟩ := answered.kept died taskId waits
    exact ⟨frame, same.mem_iff.mp member, retained⟩

/-- An operation goes on, comes to be or ends, and leaves the map as it is. -/
theorem advance (frame next : Option (AsyncFrame Payload))
    (answered : Answered before (frame.toList ++ rest))
    (pendingResults : after.pendingResults = before.pendingResults)
    (inFlight : after.inFlight = before.inFlight)
    (submitted : after.submitted = before.submitted)
    (died : after.workerDied = before.workerDied)
    (failed : before.workerFailed → after.workerFailed)
    (once : ∀ taskId, after.completed taskId + load (AsyncFrame.holds taskId) next.toList ≤
      before.completed taskId + load (AsyncFrame.holds taskId) frame.toList)
    (calls : ∀ taskId, after.returned.count taskId +
        load (fun frame => hits taskId frame.produces) next.toList ≤
      before.returned.count taskId +
        load (fun frame => hits taskId frame.produces) frame.toList)
    (marked : ∀ frame ∈ next, frame.Deadly → after.workerFailed)
    (kept : before.workerDied → ∀ old ∈ frame, ∀ taskId, old.retains = some taskId →
      (before.pendingResults.lookup taskId).isSome →
      ∃ new ∈ next, new.retains = some taskId) :
    Answered after (next.toList ++ rest) where
  size := by
    rw [inFlight, pendingResults]
    exact answered.size
  once taskId := by
    have before := answered.once taskId
    have once := once taskId
    simp only [AsyncService.pending, pendingResults, submitted, load_append] at before ⊢
    omega
  calls taskId := by
    have before := answered.calls taskId
    have calls := calls taskId
    simp only [submitted, load_append] at before ⊢
    omega
  marked := by
    rintro (dead | ⟨other, member, deadly⟩)
    · exact failed (answered.marked (.inl (died ▸ dead)))
    · obtain new | old := List.mem_append.mp member
      · exact marked other (Option.mem_toList.mp new) deadly
      · exact failed (answered.marked (.inr ⟨other, List.mem_append_right _ old, deadly⟩))
  kept dead taskId waits := by
    rw [died] at dead
    rw [pendingResults] at waits
    obtain ⟨other, member, retained⟩ := answered.kept dead taskId waits
    obtain old | same := List.mem_append.mp member
    · obtain ⟨new, present, retained⟩ :=
        kept dead other (Option.mem_toList.mp old) taskId retained waits
      exact ⟨new, List.mem_append_left _ (Option.mem_toList.mpr present), retained⟩
    · exact ⟨other, List.mem_append_right _ same, retained⟩

/-- An operation takes a callback off the map. -/
theorem take (frame next : Option (AsyncFrame Payload)) {entry : PendingEntry}
    (answered : Answered service (frame.toList ++ rest))
    (found : service.pendingResults.lookup taskId = some entry)
    (holds : ∀ other, load (AsyncFrame.holds other) next.toList =
      load (AsyncFrame.holds other) frame.toList + hits other (some taskId))
    (calls : ∀ other, load (fun frame => hits other frame.produces) next.toList =
      load (fun frame => hits other frame.produces) frame.toList)
    (harmless : ∀ frame ∈ next, ¬frame.Deadly)
    (kept : ∀ old ∈ frame, ∀ other, old.retains = some other → other = taskId) :
    Answered
      { service with
        pendingResults := service.pendingResults.erase taskId
        inFlight := service.inFlight - 1 } (next.toList ++ rest) where
  size := by
    rw [answered.size, Table.length_erase found, UInt64.ofNat_add]
    exact UInt64.add_sub_cancel _ _
  once other := by
    have once := answered.once other
    have holds := holds other
    simp only [AsyncService.pending, Table.total_erase _ found, AsyncService.completed,
      load_append] at once ⊢
    omega
  calls other := by
    have before := answered.calls other
    have calls := calls other
    simp only [load_append] at before ⊢
    omega
  marked := by
    rintro (dead | ⟨other, member, deadly⟩)
    · exact answered.marked (.inl dead)
    · obtain new | old := List.mem_append.mp member
      · exact absurd deadly (harmless other (Option.mem_toList.mp new))
      · exact answered.marked (.inr ⟨other, List.mem_append_right _ old, deadly⟩)
  kept dead other waits := by
    have different : other ≠ taskId := by
      rintro rfl
      rw [AList.lookup_erase] at waits
      cases waits
    rw [AList.lookup_erase_ne different] at waits
    obtain ⟨old, member, retained⟩ := answered.kept dead other waits
    obtain own | same := List.mem_append.mp member
    · exact absurd (kept old (Option.mem_toList.mp own) other retained) different
    · exact ⟨old, List.mem_append_right _ same, retained⟩

/-- A request is put into the map by its own call. -/
theorem insert (answered : Answered service (.validating taskId :: rest)) :
    Answered
      { service with
        pendingResults := service.pendingResults.insert taskId {}
        inFlight := service.inFlight + 1 } (.pushing taskId :: rest) := by
  have new : service.pendingResults.lookup taskId = none := by
    by_contra present
    obtain ⟨entry, present⟩ := Option.ne_none_iff_exists'.mp present
    have once := answered.once taskId
    rw [AsyncService.pending, Table.total_erase _ present, load_cons, AsyncFrame.holds,
      hits_self] at once
    split at once <;> omega
  refine ⟨?_, fun other => ?_, fun other => ?_, ?_, fun dead other waits => ?_⟩
  · rw [answered.size, Table.length_insert_new new, UInt64.ofNat_add]
    rfl
  · have once := answered.once other
    simp only [AsyncService.pending, Table.total_insert_new _ new, AsyncService.completed,
      load_cons, AsyncFrame.holds] at once ⊢
    omega
  · exact answered.calls other
  · rintro (dead | ⟨frame, member, deadly⟩)
    · exact answered.marked (.inl dead)
    · obtain same | old := List.mem_cons.mp member
      · rw [same] at deadly
        exact deadly.elim
      · exact answered.marked (.inr ⟨frame, List.mem_cons_of_mem _ old, deadly⟩)
  · by_cases same : other = taskId
    · exact ⟨_, List.mem_cons_self, congrArg some same.symm⟩
    · rw [AList.lookup_insert_ne same] at waits
      obtain ⟨frame, member, retained⟩ := answered.kept dead other waits
      obtain own | old := List.mem_cons.mp member
      · rw [own] at retained
        cases retained
      · exact ⟨frame, List.mem_cons_of_mem _ old, retained⟩

theorem claim (answered : Answered service frames) (workerIdx : Nat) (taskId : TaskId) :
    Answered (service.claim workerIdx taskId) frames where
  size := by
    rw [AsyncService.claim, Table.length_modify]
    exact answered.size
  once other := by
    have same : (service.claim workerIdx taskId).pending other = service.pending other :=
      Table.total_modify (by intro _ _; rfl) taskId service.pendingResults
    rw [same]
    exact answered.once other
  calls := answered.calls
  marked := answered.marked
  kept dead other waits := by
    refine answered.kept dead other ?_
    simp only [AsyncService.claim, Table.lookup_modify] at waits
    split at waits
    · rename_i same
      rwa [same, ← Option.isSome_map]
    · exact waits

/-- All that wait are taken off the map. -/
theorem drain {error : String} {drainer : Drainer}
    (answered : Answered service (.draining error drainer :: rest)) :
    Answered
      { service with
        pendingResults := ∅
        inFlight := 0
        workerDied := service.workerDied || drainer = .workerDeath }
      (.failing service.pendingResults.entries.keys error drainer :: rest) where
  size := rfl
  once other := by
    have once := answered.once other
    have keys : service.pending other = service.pendingResults.entries.keys.count other := by
      rw [← sum_hits, List.keys, List.map_map]
      rfl
    simp only [AsyncService.completed, AsyncService.pending, Table.total_empty, load_cons,
      AsyncFrame.holds] at once keys ⊢
    omega
  calls other := by
    have calls := answered.calls other
    cases drainer <;> exact calls
  marked := by
    rintro (dead | ⟨frame, member, deadly⟩)
    · obtain dead | dead := Bool.or_eq_true_iff.mp dead
      · exact answered.marked (.inl dead)
      · obtain rfl := of_decide_eq_true dead
        exact answered.marked (.inr ⟨_, List.mem_cons_self, trivial⟩)
    · obtain same | old := List.mem_cons.mp member
      · rw [same] at deadly
        exact deadly.elim
      · exact answered.marked (.inr ⟨frame, List.mem_cons_of_mem _ old, deadly⟩)
  kept _ _ waits := by cases waits

/-- An operation goes on without a change of the service. -/
theorem proceed {frame : AsyncFrame Payload} (answered : Answered service (frame :: rest))
    (holds : ∀ taskId, next.holds taskId ≤ frame.holds taskId)
    (produces : next.produces = frame.produces) (harmless : ¬next.Deadly)
    (retains : next.retains = frame.retains) : Answered service (next :: rest) := by
  refine answered.advance (some frame) (some next) rfl rfl rfl rfl id
    (fun taskId => ?_) (fun taskId => ?_) ?_ ?_
  · have holds := holds taskId
    simp
    omega
  · simp only [load_some, produces]
    omega
  · rintro _ ⟨⟩ deadly
    exact absurd deadly harmless
  · rintro - _ ⟨⟩ taskId retained -
    exact ⟨next, rfl, retains.trans retained⟩

/-- An operation comes to be that holds no callback and is no request's. -/
theorem arrive (answered : Answered service rest) (holds : ∀ taskId, next.holds taskId = 0)
    (produces : next.produces = none) (harmless : ¬next.Deadly) :
    Answered service (next :: rest) := by
  refine answered.advance none (some next) rfl rfl rfl rfl id (fun taskId => ?_)
    (fun taskId => ?_) ?_ ?_
  · rw [load_some, holds, load_none]
  · rw [load_some, produces, hits_none, load_none]
  · rintro _ ⟨⟩ deadly
    exact absurd deadly harmless
  · rintro - _ ⟨⟩

theorem takePending_cases (service : AsyncService Payload) (taskId : TaskId) :
    (service.pendingResults.lookup taskId = none ∧
      service.takePending taskId = (false, service)) ∨
    ∃ entry, service.pendingResults.lookup taskId = some entry ∧
      service.takePending taskId = (true, { service with
        pendingResults := service.pendingResults.erase taskId
        inFlight := service.inFlight - 1 }) := by
  rw [AsyncService.takePending, Table.take]
  cases found : service.pendingResults.lookup taskId with
  | none => exact .inl ⟨rfl, rfl⟩
  | some entry => exact .inr ⟨entry, rfl, rfl⟩

theorem submit (answered : Answered service rest) (distinct : taskId ∉ service.submitted)
    (holds : ∀ other, next.holds other = hits other (some taskId))
    (produces : next.produces = some taskId) (harmless : ¬next.Deadly) :
    Answered { service with submitted := service.submitted ++ [taskId] } (next :: rest) := by
  refine ⟨answered.size, fun other => ?_, fun other => ?_, ?_, fun dead other waits => ?_⟩
  · have once := answered.once other
    have new := hits_new distinct other
    simp only [load_cons, holds, AsyncService.completed, AsyncService.pending] at once ⊢
    omega
  · have calls := answered.calls other
    have new := hits_new distinct other
    simp only [load_cons, produces]
    omega
  · rintro (dead | ⟨frame, member, deadly⟩)
    · exact answered.marked (.inl dead)
    · obtain same | old := List.mem_cons.mp member
      · exact absurd (same ▸ deadly) harmless
      · exact answered.marked (.inr ⟨frame, old, deadly⟩)
  · obtain ⟨frame, member, retained⟩ := answered.kept dead other waits
    exact ⟨frame, List.mem_cons_of_mem _ member, retained⟩

theorem call {resultQueues : Nat} {answering : Answering Payload} {call : AsyncCall Payload}
    (answered : Answered answering.shared answering.frames)
    (distinct : Answering.Distinct answering (.call call)) :
    Answered ((asyncHandlers resultQueues).call answering.shared call).1
      (((asyncHandlers resultQueues).call answering.shared call).2.toList ++ answering.frames) := by
  cases call with
  | produceResponseAsync taskId =>
    simp only [asyncHandlers, AsyncService.call]
    split
    · exact answered.submit distinct (fun _ => rfl) rfl id
    · exact answered.submit distinct (fun _ => rfl) rfl id
  | consume workerIdx result =>
    simp only [asyncHandlers, AsyncService.call]
    split
    · exact answered.claim workerIdx result.taskId
    · obtain ⟨-, same⟩ | ⟨entry, found, same⟩ :=
        takePending_cases answering.shared result.taskId
      · simp only [same]
        exact answered
      · simp only [same]
        refine answered.take none (some _) found (fun other => ?_) (fun other => rfl) ?_ ?_
        · exact (Nat.zero_add _).symm
        · rintro _ ⟨⟩ deadly
          exact deadly
        · rintro _ ⟨⟩
  | onWorkerDied workerIdx =>
    simp only [asyncHandlers, AsyncService.call]
    split
    · exact answered.arrive (fun _ => rfl) rfl id
    · exact answered.arrive (fun _ => rfl) rfl id
  | stop =>
    simp only [asyncHandlers, AsyncService.call]
    split
    · have arrived : Answered answering.shared (.stopping :: answering.frames) :=
        answered.arrive (fun _ => rfl) rfl id
      exact ⟨arrived.size, arrived.once, arrived.calls, arrived.marked, arrived.kept⟩
    · exact answered.arrive (fun _ => rfl) rfl id

variable {frame : AsyncFrame Payload} (outcome : AsyncOutcome Payload)

/-- The call of a request is over. -/
theorem finish (answered : Answered service (frame :: rest))
    (produces : frame.produces = some taskId)
    (kept : service.workerDied → frame.retains = some taskId →
      service.pendingResults.lookup taskId = none) : Answered (service.finish taskId) rest := by
  refine answered.advance (some frame) none rfl rfl rfl rfl id (fun other => ?_)
    (fun other => ?_) (by rintro _ ⟨⟩) ?_
  · rw [load_none]
    exact Nat.le_add_right _ _
  · simp only [AsyncService.finish, List.count_append, count_single, load_none, load_some,
      produces]
    omega
  · rintro dead _ ⟨⟩ other retained waits
    obtain rfl := Option.some.inj
      ((AsyncFrame.produces_of_retains retained).symm.trans produces)
    rw [kept dead retained] at waits
    cases waits

/-- An operation that is no request's is over. -/
theorem depart (answered : Answered service (frame :: rest)) (retains : frame.retains = none) :
    Answered service rest := by
  refine answered.advance (some frame) none rfl rfl rfl rfl id (fun other => ?_)
    (fun other => ?_) (by rintro _ ⟨⟩) ?_
  · rw [load_none]
    exact Nat.le_add_right _ _
  · rw [load_none]
    exact Nat.le_add_right _ _
  · rintro - _ ⟨⟩ other retained
    rw [retains] at retained
    cases retained

/-- A callback is called by an operation that goes on. -/
theorem complete (response : AsyncResponse Payload) (next : Option (AsyncFrame Payload))
    (answered : Answered service (frame :: rest))
    (holds : ∀ other, hits other (some taskId) + load (AsyncFrame.holds other) next.toList ≤
      frame.holds other)
    (produces : ∀ other, load (fun frame => hits other frame.produces) next.toList ≤
      hits other frame.produces) (harmless : ∀ frame ∈ next, ¬frame.Deadly)
    (retains : frame.retains = none) :
    Answered (service.complete taskId response) (next.toList ++ rest) := by
  refine answered.advance (some frame) next rfl rfl rfl rfl id (fun other => ?_)
    (fun other => ?_) (fun other member deadly => absurd deadly (harmless other member)) ?_
  · have holds := holds other
    simp [AsyncService.complete, AsyncService.completed]
    omega
  · have produces := produces other
    simp [AsyncService.complete]
    omega
  · rintro - _ ⟨⟩ other retained
    rw [retains] at retained
    cases retained

theorem resumeProduce (answered : Answered service (frame :: rest)) :
    Answered (service.resumeProduce outcome frame).1
      ((service.resumeProduce outcome frame).2.toList ++ rest) := by
  cases frame with
  | refusing taskId => exact answered.proceed (fun _ => Nat.le_refl _) rfl id rfl
  | validating taskId =>
    simp only [AsyncService.resumeProduce]
    split
    · exact answered.proceed (fun _ => Nat.le_refl _) rfl id rfl
    · split
      · exact answered.proceed (fun _ => Nat.le_refl _) rfl id rfl
      · exact answered.insert
  | pushing taskId =>
    simp only [AsyncService.resumeProduce]
    split
    · exact answered.proceed (fun _ => Nat.le_refl _) rfl id rfl
    · have pushed : Answered service (.stamping taskId :: rest) :=
        answered.proceed (fun _ => Nat.le_refl _) rfl id rfl
      exact ⟨pushed.size, pushed.once, pushed.calls, pushed.marked, pushed.kept⟩
  | stamping taskId => exact answered.proceed (fun _ => Nat.le_refl _) rfl id rfl
  | checking taskId =>
    simp only [AsyncService.resumeProduce]
    split
    · exact answered.proceed (fun _ => Nat.le_refl _) rfl id rfl
    · rename_i working
      -- without the flag no death has drained the map yet
      exact answered.finish rfl fun dead _ => absurd (answered.marked (.inl dead)) working
  | reasoning taskId => exact answered.proceed (fun _ => Nat.le_refl _) rfl id rfl
  | retracting taskId error =>
    obtain ⟨absent, same⟩ | ⟨entry, found, same⟩ := takePending_cases service taskId
    · simp only [AsyncService.resumeProduce, same]
      exact answered.finish rfl fun _ _ => absent
    · simp only [AsyncService.resumeProduce, same]
      refine answered.take (some (.retracting taskId error)) (some _) found (fun other => ?_)
        (fun other => rfl) ?_ ?_
      · exact (Nat.zero_add _).symm
      · rintro _ ⟨⟩ deadly
        exact deadly
      · rintro _ ⟨⟩ other retained
        exact (Option.some.inj retained).symm
  | completing taskId response =>
    -- as at the end of a drain of its own
    have called := answered.complete response
      (some (.failing [] "" (.submitter taskId))) (fun other => Nat.le_refl _)
      (fun other => Nat.le_refl _) (by rintro _ ⟨⟩ deadly; exact deadly) rfl
    exact called.finish rfl fun _ => by rintro ⟨⟩
  | _ => exact answered

theorem resumeDeath (answered : Answered service (frame :: rest)) :
    Answered (service.resumeDeath outcome frame).1
      ((service.resumeDeath outcome frame).2.toList ++ rest) := by
  cases frame with
  | emptying workerIdx =>
    simp only [AsyncService.resumeDeath]
    split
    · exact answered.proceed (fun _ => Nat.le_refl _) rfl id rfl
    · rename_i result _
      split
      · exact answered
      · split
        · exact answered.claim workerIdx result.taskId
        · obtain ⟨-, same⟩ | ⟨entry, found, same⟩ :=
            takePending_cases service result.taskId
          · simp only [same]
            exact answered
          · simp only [same]
            refine answered.take (some (.emptying workerIdx)) (some _) found (fun other => ?_)
              (fun other => rfl) ?_ ?_
            · exact (Nat.zero_add _).symm
            · rintro _ ⟨⟩ deadly
              exact deadly
            · rintro _ ⟨⟩ other retained
              cases retained
  | answering workerIdx taskId response =>
    exact answered.complete response (some (.emptying workerIdx)) (fun other => Nat.le_refl _)
      (fun other => Nat.le_refl _) (by rintro _ ⟨⟩ deadly; exact deadly) rfl
  | recording workerIdx =>
    have recorded : Answered service (.marking ("Worker process " ++ toString workerIdx ++
        " exited while processing request") :: rest) :=
      answered.proceed (fun _ => Nat.le_refl _) rfl id rfl
    exact ⟨recorded.size, recorded.once, recorded.calls, recorded.marked, recorded.kept⟩
  | marking reason =>
    refine answered.advance (some (.marking reason)) (some _) rfl rfl rfl rfl (fun _ => rfl)
      (fun other => Nat.le_refl _) (fun other => Nat.le_refl _) (fun _ _ _ => rfl) ?_
    rintro - _ ⟨⟩ other retained
    cases retained
  | _ => exact answered

theorem resumeDrain (answered : Answered service (frame :: rest)) :
    Answered (service.resumeDrain frame).1 ((service.resumeDrain frame).2.toList ++ rest) := by
  cases frame with
  | draining error drainer => exact answered.drain
  | failing remaining error drainer =>
    cases remaining with
    | nil =>
      cases drainer with
      | submitter taskId => exact answered.finish rfl fun _ => by rintro ⟨⟩
      | workerDeath => exact answered.depart rfl
      | stop => exact answered.depart rfl
    | cons taskId remaining =>
      refine answered.complete (.error error) (some (.failing remaining error drainer))
        (fun other => ?_) (fun other => ?_) (by rintro _ ⟨⟩ deadly; exact deadly) rfl
      · rw [load_some, AsyncFrame.holds, AsyncFrame.holds, ← count_single, ← List.count_append,
          List.singleton_append]
      · cases drainer <;> exact Nat.le_refl _
  | _ => exact answered

theorem resume (answered : Answered service (frame :: rest)) :
    Answered (service.resume frame outcome).1
      ((service.resume frame outcome).2.toList ++ rest) := by
  cases frame with
  | responding taskId response =>
    exact answered.complete response none (fun other => Nat.le_refl _) (fun other => Nat.zero_le _)
      (by rintro _ ⟨⟩) rfl
  | stopping => exact answered.proceed (fun _ => Nat.le_refl _) rfl id rfl
  | draining | failing => exact answered.resumeDrain
  | emptying | answering | recording | marking => exact answered.resumeDeath outcome
  | refusing | validating | pushing | stamping | checking | reasoning | retracting | completing =>
    exact answered.resumeProduce outcome

end Answered

theorem answered_initial : Answered ({} : AsyncService Payload) [] where
  size := rfl
  once _ := Nat.zero_le _
  calls _ := Nat.zero_le _
  marked := by
    rintro (dead | ⟨frame, none, -⟩)
    · cases dead
    · cases none
  kept dead := by cases dead

/-- No callback is called twice, the number of requests in flight is that of the requests that wait,
and once the death of a worker has failed all that waited, no request waits whose call has
returned. -/
theorem answered_at_most_once [DecidableEq Payload] (resultQueues : Nat)
    {answering : Answering Payload}
    (reached : Reaches (asyncHandlers resultQueues).step Answering.Distinct { shared := {} }
      answering) :
    (∀ taskId, answering.shared.completed taskId ≤ 1) ∧
    answering.shared.inFlight.toNat = answering.shared.pendingResults.entries.length ∧
    (answering.shared.workerDied → ∀ taskId ∈ answering.shared.returned,
      answering.shared.pendingResults.lookup taskId = none) := by
  have answered : Answered answering.shared answering.frames :=
    Handlers.invariant (fun answering => Answered answering.shared answering.frames)
      answered_initial (fun _ _ held distinct => held.call distinct)
      (fun _ _ outcome held _ waits =>
        (held.perm (List.perm_cons_erase waits)).resume outcome) reached
  refine ⟨fun taskId => ?_, ?_, fun dead taskId gone => ?_⟩
  · have once := answered.once taskId
    split at once <;> omega
  · rw [answered.size, UInt64.toNat_ofNat_of_lt']
    exact Nat.lt_of_le_of_lt (Table.length_le_size answering.shared.pendingResults) (by decide)
  · by_contra waits
    obtain ⟨frame, member, retained⟩ :=
      answered.kept dead taskId (Option.isSome_iff_ne_none.mpr waits)
    have calls := answered.calls taskId
    have one := le_load (fun frame => hits taskId frame.produces) member
    rw [AsyncFrame.produces_of_retains retained, hits_self] at one
    have returned := List.count_pos_iff.mpr gone
    split at calls <;> omega

section Runs

instance (answering : Answering Payload) : DecidablePred (Answering.Distinct answering)
  | .call (.produceResponseAsync taskId) =>
    inferInstanceAs (Decidable (taskId ∉ answering.shared.submitted))
  | .call (.consume ..) => inferInstanceAs (Decidable True)
  | .call (.onWorkerDied _) => inferInstanceAs (Decidable True)
  | .call .stop => inferInstanceAs (Decidable True)
  | .resume .. => inferInstanceAs (Decidable True)

/-- A worker dies while a request is on its way, after another one has been answered. -/
def diesInBetween : List (AsyncTurn Unit) :=
  [.call (.produceResponseAsync 1), .resume (.validating 1) {}, .resume (.pushing 1) {},
    .call (.consume 0 { taskId := 1, payload := () }),
    .resume (.responding 1 (.result ())) {}, .resume (.stamping 1) {}, .resume (.checking 1) {},
    .call (.produceResponseAsync 2), .call (.onWorkerDied 0), .resume (.emptying 0) {},
    .resume (.recording 0) {},
    .resume (.marking "Worker process 0 exited while processing request") {},
    .resume (.draining "Worker process 0 exited while processing request" .workerDeath) {},
    .resume (.validating 2) {}, .resume (.pushing 2) {}, .resume (.stamping 2) {},
    .resume (.checking 2) {}, .resume (.reasoning 2) {},
    .resume (.draining "Worker process 0 exited while processing request" (.submitter 2)) {},
    .resume (.failing [2] "Worker process 0 exited while processing request" (.submitter 2)) {},
    .resume (.failing [] "Worker process 0 exited while processing request" (.submitter 2)) {}]

theorem diesInBetween_runs : (runWithin (asyncHandlers 1).step Answering.Distinct { shared := {} }
    diesInBetween).isSome = true := by
  decide +kernel

/-- What the run ends in. -/
def afterDeath : Answering Unit :=
  (runWithin (asyncHandlers 1).step Answering.Distinct { shared := {} } diesInBetween).get
    diesInBetween_runs

theorem answered_at_most_once_afterDeath :
    afterDeath.shared.workerDied = true ∧ afterDeath.shared.returned = [1, 2] ∧
    (∀ taskId, afterDeath.shared.completed taskId ≤ 1) ∧
    afterDeath.shared.inFlight.toNat = afterDeath.shared.pendingResults.entries.length ∧
    (afterDeath.shared.workerDied → ∀ taskId ∈ afterDeath.shared.returned,
      afterDeath.shared.pendingResults.lookup taskId = none) :=
  ⟨by decide +kernel, by decide +kernel,
    answered_at_most_once 1 (reaches_get diesInBetween_runs)⟩

end Runs

end InferenceServer.Services
