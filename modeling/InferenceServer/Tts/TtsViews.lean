import InferenceServer.Tts.TtsStep
import Mathlib.Data.List.Count

/-! What the runner, the scheduler and the queues hold of one task, and of one slot. Every handler
changes the view of one task and of one slot at most. -/
namespace InferenceServer.Tts

/-- Where the phase still has slots to evict. -/
def Phase.evicting : Phase → List Nat
  | .evicts _ rest => rest
  | _ => []

def Message.finishes (taskId : Nat) : Message → Bool
  | .finish other _ _ => other = taskId
  | .chunk _ _ _ _ _ => false

/-- The messages and maps that name a task, and what the scheduler owes it while it waits. -/
@[ext] structure TaskView where
  popped : Nat
  voice : Option Task
  allocation : Option Task
  conditioning : Bool
  terminals : Nat
  encodes : Nat
  allocates : Nat

/-- The context of a slot, its requests and its run, and the evictions still to be asked for. -/
@[ext] structure SlotView where
  context : SlotContext
  granted : Bool
  stops : List SchedulerRequest
  evicts : List SchedulerRequest
  teardowns : Nat
  run : Option Run

namespace TtsRunner

variable {runner : TtsRunner} {taskId other slotId elsewhere : Nat} {answers : Answers}
  {reason : FinishReason} {error : String}

/-- The terminal messages of a task, sent and pending. -/
def terminals (runner : TtsRunner) (taskId : Nat) : Nat :=
  runner.sent.countP (Message.finishes taskId) +
    runner.pendingTerminalMessages.countP (·.message.finishes taskId)

def taskView (runner : TtsRunner) (taskId : Nat) : TaskView where
  popped := runner.popped.count taskId
  voice := runner.pendingVoiceEncodes taskId
  allocation := runner.pendingAllocations taskId
  conditioning := runner.conditioningByTask taskId
  terminals := runner.terminals taskId
  encodes := (runner.pendingVoiceEncodes taskId).elim 0 fun _ => runner.encoding.count taskId
  allocates := (runner.pendingAllocations taskId).elim 0 fun _ =>
    runner.outstanding.count ⟨.allocate, taskId, taskId, invalidSlot⟩

/-- The requests of a type for a slot that are not answered. -/
def requests (runner : TtsRunner) (type : RequestType) (slotId : Nat) : List SchedulerRequest :=
  runner.outstanding.filter fun request => request.type = type ∧ request.slotId = slotId

/-- The evictions of a slot that the runner has still to ask for. -/
def teardowns (runner : TtsRunner) (slotId : Nat) : Nat :=
  runner.pendingTerminalMessages.countP (·.slotIdToEvict = some slotId) +
    runner.deferredEvictSlots.count slotId + runner.phase.evicting.count slotId

def slotView (runner : TtsRunner) (slotId : Nat) : SlotView where
  context := runner.slots slotId
  granted := runner.granted slotId
  stops := runner.requests .stop slotId
  evicts := runner.requests .evict slotId
  teardowns := runner.teardowns slotId
  run := runner.runs slotId

section Operations

variable {context : SlotContext} {request : SchedulerRequest} {terminal : PendingTerminalMessage}

@[simp] theorem taskView_setSlot :
    (runner.setSlot slotId context).taskView taskId = runner.taskView taskId := rfl

theorem slotView_setSlot :
    (runner.setSlot slotId context).slotView slotId =
      { runner.slotView slotId with context } := by
  ext <;> simp [slotView, setSlot, requests, teardowns]

theorem slotView_setSlot_other (apart : elsewhere ≠ slotId) :
    (runner.setSlot slotId context).slotView elsewhere = runner.slotView elsewhere := by
  ext <;> simp [slotView, setSlot, requests, teardowns, apart]

theorem taskView_accept (type : request.type ≠ .allocate) :
    (runner.accept request).taskView taskId = runner.taskView taskId := by
  have apart : (⟨.allocate, taskId, taskId, invalidSlot⟩ : SchedulerRequest) ≠ request := by
    intro same
    exact type (same ▸ rfl)
  ext <;> simp [taskView, accept, terminals, apart.symm]

theorem slotView_accept :
    (runner.accept request).slotView slotId = { runner.slotView slotId with
      stops := (runner.slotView slotId).stops ++
        if request.type = .stop ∧ request.slotId = slotId then [request] else []
      evicts := (runner.slotView slotId).evicts ++
        if request.type = .evict ∧ request.slotId = slotId then [request] else [] } := by
  ext <;> simp [slotView, accept, requests, teardowns, List.filter_cons]

theorem slotView_accept_other
    (apart : request.type = .stop ∨ request.type = .evict → request.slotId ≠ slotId) :
    (runner.accept request).slotView slotId = runner.slotView slotId := by
  rw [slotView_accept, if_neg fun both => apart (.inl both.1) both.2,
    if_neg fun both => apart (.inr both.1) both.2, List.append_nil, List.append_nil]

theorem taskView_send {message : Message} : (runner.send message).taskView taskId =
    { runner.taskView taskId with
      terminals := (runner.taskView taskId).terminals +
        if message.finishes taskId then 1 else 0 } := by
  ext <;> simp [taskView, send, terminals, List.countP_cons, Nat.add_right_comm]

@[simp] theorem slotView_send {message : Message} :
    (runner.send message).slotView slotId = runner.slotView slotId := rfl

theorem taskView_pend :
    (runner.pend terminal).taskView taskId = { runner.taskView taskId with
      terminals := (runner.taskView taskId).terminals +
        if terminal.message.finishes taskId then 1 else 0 } := by
  ext <;> simp [taskView, pend, terminals, List.countP_cons, Nat.add_assoc]

theorem slotView_pend :
    (runner.pend terminal).slotView slotId = { runner.slotView slotId with
      teardowns := (runner.slotView slotId).teardowns +
        if terminal.slotIdToEvict = some slotId then 1 else 0 } := by
  ext <;> simp [slotView, pend, requests, teardowns, List.countP_cons]
  omega

/-- A request to evict a slot changes no view of a task. -/
@[simp] theorem taskView_requestEvict :
    (runner.requestEvict slotId answers).taskView taskId = runner.taskView taskId := by
  unfold requestEvict
  split
  · split
    · rw [setState, taskView_setSlot, taskView_accept (by nofun)]
    · split <;> rfl
  · rfl

theorem slotView_requestEvict_other (apart : elsewhere ≠ slotId) :
    (runner.requestEvict slotId answers).slotView elsewhere = runner.slotView elsewhere := by
  unfold requestEvict
  split
  · split
    · rw [setState, slotView_setSlot_other apart, slotView_accept_other fun _ => apart.symm]
    · split
      · rfl
      · ext <;> simp [slotView, requests, teardowns, apart.symm]
  · rfl

/-- A slot of which nobody else asks for the eviction. -/
theorem slotView_requestEvict (has : runner.HasSlot slotId)
    (waiting : (runner.slots slotId).state ≠ .awaitingEvictAck)
    (alone : (runner.slotView slotId).teardowns = 0) :
    (runner.requestEvict slotId answers).slotView slotId =
      if answers.evict then { runner.slotView slotId with
        context := { runner.slots slotId with state := .awaitingEvictAck }
        evicts := (runner.slotView slotId).evicts ++ [⟨.evict, (runner.slots slotId).taskId,
          (runner.slots slotId).taskId, slotId⟩] }
      else { runner.slotView slotId with teardowns := 1 } := by
  have absent : slotId ∉ runner.deferredEvictSlots := by
    intro member
    have counted := List.count_pos_iff.mpr member
    simp only [slotView, teardowns] at alone
    omega
  rw [requestEvict, if_pos ⟨has, waiting⟩]
  split
  · rw [setState, slotView_setSlot, slotView_accept]
    simp [accept]
  · simp only [slotView, teardowns] at alone
    ext <;> simp [slotView, requests, teardowns]
    omega

theorem taskView_handleTerminalDelivered :
    (runner.handleTerminalDelivered terminal answers).taskView taskId = runner.taskView taskId := by
  unfold handleTerminalDelivered
  split
  · rw [taskView_requestEvict]
  · rfl

end Operations

section Finish

theorem taskView_finishing {slot : Option Nat} : (runner.finishing taskId slot).taskView other =
    if other = taskId then { runner.taskView taskId with conditioning := false }
    else runner.taskView other := by
  have cleared : { runner with
      conditioningByTask := Function.update runner.conditioningByTask taskId false }.taskView other =
      if other = taskId then { runner.taskView taskId with conditioning := false }
      else runner.taskView other := by
    by_cases same : other = taskId
    · subst same
      rw [if_pos rfl]
      ext <;> simp [taskView, terminals]
    · rw [if_neg same]
      ext <;> simp [taskView, terminals, same]
  unfold finishing
  dsimp only
  split
  · split
    · rw [setState, taskView_setSlot]
      exact cleared
    · exact cleared
  · exact cleared

theorem slotView_finishing_none : (runner.finishing taskId none).slotView slotId =
    runner.slotView slotId := rfl

theorem slotView_finishing_other (apart : elsewhere ≠ slotId) :
    (runner.finishing taskId (some slotId)).slotView elsewhere = runner.slotView elsewhere := by
  unfold finishing
  dsimp only
  split
  · rw [setState, slotView_setSlot_other apart]
    rfl
  · rfl

theorem slotView_finishing (has : runner.HasSlot slotId) :
    (runner.finishing taskId (some slotId)).slotView slotId = { runner.slotView slotId with
      context := { runner.slots slotId with state := .awaitingTerminalDelivery } } := by
  rw [finishing]
  dsimp only
  rw [if_pos has, setState, slotView_setSlot]
  rfl

/-- A task that ends gets one more terminal message. -/
theorem taskView_sendFinish {slot : Option Nat} :
    (runner.sendFinish answers taskId reason error slot).taskView other =
      if other = taskId then { runner.taskView taskId with
        conditioning := false
        terminals := (runner.taskView taskId).terminals + 1 }
      else runner.taskView other := by
  have counted : { runner.finishing taskId slot |>.taskView other with
      terminals := ((runner.finishing taskId slot).taskView other).terminals +
        if taskId = other then 1 else 0 } =
      if other = taskId then { runner.taskView taskId with
        conditioning := false
        terminals := (runner.taskView taskId).terminals + 1 }
      else runner.taskView other := by
    rw [taskView_finishing]
    by_cases same : other = taskId
    · rw [if_pos same, if_pos same, if_pos same.symm]
    · rw [if_neg same, if_neg same, if_neg (Ne.symm same)]
      rfl
  rw [← counted]
  unfold sendFinish
  dsimp only
  split
  · rw [taskView_handleTerminalDelivered, taskView_send]
    simp [Message.finishes]
  · rw [taskView_pend]
    simp [Message.finishes]

theorem slotView_sendFinish_none :
    (runner.sendFinish answers taskId reason error none).slotView slotId =
      runner.slotView slotId := by
  unfold sendFinish
  dsimp only
  split
  · rfl
  · rw [slotView_pend, slotView_finishing_none]
    simp

theorem slotView_sendFinish_other (apart : elsewhere ≠ slotId) :
    (runner.sendFinish answers taskId reason error (some slotId)).slotView elsewhere =
      runner.slotView elsewhere := by
  unfold sendFinish
  dsimp only
  split
  · rw [handleTerminalDelivered]
    dsimp only
    rw [slotView_requestEvict_other apart, slotView_send, slotView_finishing_other apart]
  · rw [slotView_pend, slotView_finishing_other apart]
    simp [apart.symm]

/-- The slot of a task that ends waits for its terminal message, or is evicted at once. -/
theorem slotView_sendFinish (has : runner.HasSlot slotId)
    (alone : (runner.slotView slotId).teardowns = 0) :
    (runner.sendFinish answers taskId reason error (some slotId)).slotView slotId =
        { runner.slotView slotId with
          context := { runner.slots slotId with state := .awaitingTerminalDelivery }
          teardowns := 1 } ∨
      (runner.sendFinish answers taskId reason error (some slotId)).slotView slotId =
        { runner.slotView slotId with
          context := { runner.slots slotId with state := .awaitingEvictAck }
          evicts := (runner.slotView slotId).evicts ++ [⟨.evict, (runner.slots slotId).taskId,
            (runner.slots slotId).taskId, slotId⟩] } := by
  have view := @slotView_finishing runner taskId slotId has
  have waits : ((runner.finishing taskId (some slotId)).slots slotId).state =
      .awaitingTerminalDelivery := congrArg (fun view => view.context.state) view
  have context := congrArg SlotView.context view
  have still : (runner.finishing taskId (some slotId)).HasSlot slotId := by
    unfold finishing
    dsimp only
    rw [if_pos has]
    exact has
  unfold sendFinish
  dsimp only
  split
  · rw [handleTerminalDelivered]
    dsimp only
    have free : ((runner.finishing taskId (some slotId)).slotView slotId).teardowns = 0 := by
      rw [view]
      exact alone
    have evicted := @slotView_requestEvict
      ((runner.finishing taskId (some slotId)).send (.finish taskId reason error)) slotId answers
      still (by simp [send, waits]) free
    rw [evicted, slotView_send, view]
    split
    · right
      ext <;> first | rfl | simp [send, show (runner.finishing taskId (some slotId)).slots slotId = _
        from context]
    · exact .inl rfl
  · left
    rw [slotView_pend, view]
    simp [alone]

end Finish

section Answers

variable {response : SchedulerResponse}

theorem requests_erase (type : RequestType) (request : SchedulerRequest) :
    { runner with outstanding := runner.outstanding.erase request }.requests type slotId =
      (runner.requests type slotId).erase request :=
  List.erase_filter.symm

theorem requests_erase_other {type : RequestType} {request : SchedulerRequest}
    (apart : ¬ (request.type = type ∧ request.slotId = slotId)) :
    { runner with outstanding := runner.outstanding.erase request }.requests type slotId =
      runner.requests type slotId := by
  rw [requests_erase]
  refine List.erase_of_not_mem fun member => apart ?_
  exact of_decide_eq_true (List.mem_filter.mp member).2

/-- A response changes the view of no task but the one it answers. -/
theorem taskView_answered
    (apart : other ≠ response.requestId ∨ runner.pendingAllocations other = none) :
    (runner.answered response).taskView other = runner.taskView other := by
  have counted : { runner with
      outstanding := runner.outstanding.erase response.request }.taskView other =
      runner.taskView other := by
    ext1
    all_goals try rfl
    change Option.elim _ _ _ = Option.elim _ _ _
    dsimp only
    cases waits : runner.pendingAllocations other with
    | none => rfl
    | some task =>
      have different := apart.resolve_right (by rw [waits]; nofun)
      refine List.count_erase_of_ne ?_
      intro same
      exact different (congrArg SchedulerRequest.requestId same)
  rw [← counted]
  unfold answered
  dsimp only
  repeat' split
  all_goals rfl

theorem slotView_answered_other (apart : slotId ≠ response.slotId) :
    (runner.answered response).slotView slotId = runner.slotView slotId := by
  have stops : { runner with
      outstanding := runner.outstanding.erase response.request }.requests .stop slotId =
      runner.requests .stop slotId := by
    refine requests_erase_other ?_
    rintro ⟨type, same⟩
    have type : response.type = .stop := type
    rw [SchedulerResponse.request, type] at same
    exact apart same.symm
  have evicts : { runner with
      outstanding := runner.outstanding.erase response.request }.requests .evict slotId =
      runner.requests .evict slotId := by
    refine requests_erase_other ?_
    rintro ⟨type, same⟩
    have type : response.type = .evict := type
    rw [SchedulerResponse.request, type] at same
    exact apart same.symm
  unfold answered
  dsimp only
  repeat' split
  all_goals
    ext1
    all_goals first
      | rfl
      | exact stops
      | exact evicts
      | exact Function.update_of_ne apart ..

/-- What the slot of a response becomes. -/
theorem slotView_answered : (runner.answered response).slotView response.slotId =
    match response.type with
    | .allocate =>
      if response.Grants then { runner.slotView response.slotId with granted := true }
      else runner.slotView response.slotId
    | .submit =>
      if response.errorCode ≠ 0 ∧
          (runner.runs response.slotId).map Run.taskId = some response.taskId then
        { runner.slotView response.slotId with run := none }
      else runner.slotView response.slotId
    | .continue_ => runner.slotView response.slotId
    | .stop => { runner.slotView response.slotId with
        stops := (runner.slotView response.slotId).stops.erase response.request
        run := none }
    | .evict => { runner.slotView response.slotId with
        granted := false
        evicts := (runner.slotView response.slotId).evicts.erase response.request
        run := none } := by
  have erased := @requests_erase runner response.slotId
  have others : ∀ type, response.type ≠ type → { runner with
      outstanding := runner.outstanding.erase response.request }.requests type response.slotId =
      runner.requests type response.slotId :=
    fun type apart => requests_erase_other fun both => apart both.1
  unfold answered
  cases type : response.type with
  | allocate | submit =>
    dsimp only
    split
    all_goals
      ext1
      all_goals first
        | rfl
        | exact others .stop (by rw [type]; nofun)
        | exact others .evict (by rw [type]; nofun)
        | exact Function.update_self ..
  | continue_ =>
    ext1
    all_goals first
      | rfl
      | exact others .stop (by rw [type]; nofun)
      | exact others .evict (by rw [type]; nofun)
  | stop =>
    ext1
    all_goals first
      | rfl
      | exact erased .stop response.request
      | exact others .evict (by rw [type]; nofun)
      | exact Function.update_self ..
  | evict =>
    ext1
    all_goals first
      | rfl
      | exact erased .evict response.request
      | exact others .stop (by rw [type]; nofun)
      | exact Function.update_self ..

end Answers

end TtsRunner
end InferenceServer.Tts
