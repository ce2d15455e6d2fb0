import InferenceServer.Tts.TtsSettled

/-! Most handlers send no chunk, complete no task, start no run and lose no slot. -/
namespace InferenceServer.Tts

def Message.belongs (taskId : Nat) : Message → Bool
  | .chunk other _ _ _ _ => other = taskId
  | .finish _ _ _ => false

namespace TtsRunner

variable {runner mid next : TtsRunner} {place : Nat → Place} {taskId slotId : Nat}
  {answers : Answers} {reason : FinishReason} {error : String} {task : Task}
  {speechIds : List Nat} {completes : Nat → Prop}
variable {terminal : PendingTerminalMessage} {slot : Option Nat} {response : SchedulerResponse}

/-- The chunks that were sent of a task. -/
def chunks (runner : TtsRunner) (taskId : Nat) : List Message :=
  runner.sent.filter (·.belongs taskId)

/-- The task has a terminal message that says it is complete. -/
def Completed (runner : TtsRunner) (taskId : Nat) : Prop :=
  ∃ error, .finish taskId .completed error ∈
    runner.sent ++ runner.pendingTerminalMessages.map PendingTerminalMessage.message

/-- Only terminal messages are pending. -/
def PendingFinishes (runner : TtsRunner) : Prop :=
  ∀ terminal ∈ runner.pendingTerminalMessages,
    ∃ taskId reason error, terminal.message = .finish taskId reason error

/-- What does not change, but for the tasks that are complete. -/
structure Quiet (completes : Nat → Prop) (runner next : TtsRunner) : Prop where
  sent : ∃ added, next.sent = runner.sent ++ added ∧
    ∀ message ∈ added, ∃ taskId reason error, message = .finish taskId reason error
  completed : ∀ taskId, next.Completed taskId → runner.Completed taskId ∨ completes taskId
  pending : runner.PendingFinishes → next.PendingFinishes
  running : ∀ slotId, (next.slots slotId).state = .running →
    (runner.slots slotId).state = .running ∧
      (next.slots slotId).taskId = (runner.slots slotId).taskId
  runs : ∀ slotId run, next.runs slotId = some run → ∃ old, runner.runs slotId = some old ∧
    old.taskId = run.taskId ∧ (old.last = true → run.last = true)
  submitted : next.submitted = runner.submitted
  granted : ∀ slotId, next.granted slotId = true → runner.granted slotId = true
  free : ∀ slotId, next.granted slotId = true → (next.slots slotId).state = .free →
    (runner.slots slotId).state = .free
  evicts : ∀ slotId, next.granted slotId = true → next.requests .evict slotId = [] →
    runner.requests .evict slotId = []

theorem Quiet.chunks (quiet : Quiet completes runner next) : next.chunks = runner.chunks := by
  obtain ⟨added, sent, finishes⟩ := quiet.sent
  funext taskId
  have none_ : added.filter (·.belongs taskId) = [] := by
    refine List.filter_eq_nil_iff.mpr fun message member => ?_
    obtain ⟨_, _, _, rfl⟩ := finishes message member
    exact Bool.false_ne_true
  rw [TtsRunner.chunks, sent, List.filter_append, none_, List.append_nil]
  rfl

/-- Nothing of it changes. -/
theorem Quiet.same (sent : next.sent = runner.sent)
    (pending : next.pendingTerminalMessages = runner.pendingTerminalMessages)
    (slots : next.slots = runner.slots) (runs : next.runs = runner.runs)
    (submitted : next.submitted = runner.submitted)
    (granted : next.granted = runner.granted)
    (evicts : ∀ slotId, next.requests .evict slotId = runner.requests .evict slotId) :
    Quiet completes runner next where
  sent := ⟨[], sent.trans (List.append_nil _).symm, nofun⟩
  completed := by
    rintro taskId ⟨error, member⟩
    rw [sent, pending] at member
    exact .inl ⟨error, member⟩
  pending := by
    intro finishes terminal member
    rw [pending] at member
    exact finishes terminal member
  running := by
    intro slotId now
    rw [slots] at now ⊢
    exact ⟨now, rfl⟩
  runs := by
    intro slotId run found
    rw [runs] at found
    exact ⟨run, found, rfl, id⟩
  submitted := submitted
  granted := by
    intro slotId now
    rw [granted] at now
    exact now
  free := by
    intro slotId _ now
    rw [slots] at now
    exact now
  evicts := by
    intro slotId _ now
    rw [evicts] at now
    exact now

theorem Quiet.refl : Quiet completes runner runner :=
  .same rfl rfl rfl rfl rfl rfl fun _ => rfl

theorem Quiet.trans {first second : Nat → Prop} (before : Quiet first runner mid)
    (after : Quiet second mid next) (either : ∀ taskId, first taskId ∨ second taskId →
      completes taskId) : Quiet completes runner next where
  sent := by
    obtain ⟨first, sent, finishes⟩ := before.sent
    obtain ⟨second, sent', finishes'⟩ := after.sent
    refine ⟨first ++ second, by rw [sent', sent, List.append_assoc], fun message member => ?_⟩
    exact (List.mem_append.mp member).elim (finishes message) (finishes' message)
  completed := by
    intro taskId done
    rcases after.completed taskId done with earlier | now
    · rcases before.completed taskId earlier with earlier | now
      · exact .inl earlier
      · exact .inr (either taskId (.inl now))
    · exact .inr (either taskId (.inr now))
  pending := fun finishes => after.pending (before.pending finishes)
  running := by
    intro slotId now
    obtain ⟨then_, same⟩ := after.running slotId now
    obtain ⟨first, same'⟩ := before.running slotId then_
    exact ⟨first, same.trans same'⟩
  runs := by
    intro slotId run found
    obtain ⟨old, there, names, last⟩ := after.runs slotId run found
    obtain ⟨older, where_, names', last'⟩ := before.runs slotId old there
    exact ⟨older, where_, names'.trans names, last ∘ last'⟩
  submitted := after.submitted.trans before.submitted
  granted := fun slotId now => before.granted slotId (after.granted slotId now)
  free := fun slotId granted now =>
    before.free slotId (after.granted slotId granted) (after.free slotId granted now)
  evicts := fun slotId granted now =>
    before.evicts slotId (after.granted slotId granted) (after.evicts slotId granted now)

/-- Slots go on to wait, and requests are accepted. -/
theorem Quiet.waits (sent : ∃ added, next.sent = runner.sent ++ added ∧
      ∀ message ∈ added, ∃ taskId reason error, message = .finish taskId reason error)
    (completed : ∀ taskId, next.Completed taskId → runner.Completed taskId ∨ completes taskId)
    (pending : runner.PendingFinishes → next.PendingFinishes)
    (slots : ∀ slotId, next.slots slotId = runner.slots slotId ∨
      (next.slots slotId).state ≠ .running ∧ (next.slots slotId).state ≠ .free)
    (runs : next.runs = runner.runs)
    (submitted : next.submitted = runner.submitted) (granted : next.granted = runner.granted)
    (evicts : ∃ added, next.outstanding = runner.outstanding ++ added) :
    Quiet completes runner next where
  sent := sent
  completed := completed
  pending := pending
  running := by
    intro slotId now
    rcases slots slotId with same | apart
    · rw [same] at now ⊢
      exact ⟨now, rfl⟩
    · exact absurd now apart.1
  runs := by
    intro slotId run found
    rw [runs] at found
    exact ⟨run, found, rfl, id⟩
  submitted := submitted
  granted := by
    intro slotId now
    rw [granted] at now
    exact now
  free := by
    intro slotId _ now
    rcases slots slotId with same | apart
    · rw [same] at now
      exact now
    · exact absurd now apart.2
  evicts := by
    obtain ⟨added, accepted⟩ := evicts
    intro slotId _ none_
    rw [requests, accepted, List.filter_append] at none_
    exact (List.append_eq_nil_iff.mp none_).1

theorem quiet_requestStop : Quiet completes runner (runner.requestStop slotId answers) := by
  unfold requestStop
  split
  · split
    · refine .waits ⟨[], (List.append_nil _).symm, nofun⟩ (fun _ done => .inl done) id (fun other => ?_) rfl rfl
        rfl ⟨_, rfl⟩
      by_cases same : other = slotId
      · right
        rw [same, show TtsRunner.slots _ slotId = _ from Function.update_self ..]
        exact ⟨nofun, nofun⟩
      · exact .inl (Function.update_of_ne same ..)
    · split
      · exact .refl
      · exact .same rfl rfl rfl rfl rfl rfl fun _ => rfl
  · exact .refl

theorem quiet_requestEvict : Quiet completes runner (runner.requestEvict slotId answers) := by
  unfold requestEvict
  split
  · split
    · refine .waits ⟨[], (List.append_nil _).symm, nofun⟩ (fun _ done => .inl done) id (fun other => ?_) rfl rfl
        rfl ⟨_, rfl⟩
      by_cases same : other = slotId
      · right
        rw [same, show TtsRunner.slots _ slotId = _ from Function.update_self ..]
        exact ⟨nofun, nofun⟩
      · exact .inl (Function.update_of_ne same ..)
    · split
      · exact .refl
      · exact .same rfl rfl rfl rfl rfl rfl fun _ => rfl
  · exact .refl

theorem quiet_handleTerminalDelivered :
    Quiet completes runner (runner.handleTerminalDelivered terminal answers) := by
  unfold handleTerminalDelivered
  split
  · exact quiet_requestEvict
  · exact .refl

theorem quiet_finishing : Quiet completes runner (runner.finishing taskId slot) := by
  unfold finishing
  dsimp only
  split
  · rename_i slotId
    split
    · refine .waits ⟨[], (List.append_nil _).symm, nofun⟩ (fun _ done => .inl done) id (fun other => ?_) rfl rfl
        rfl ⟨[], (List.append_nil _).symm⟩
      by_cases same : other = slotId
      · right
        rw [same, show TtsRunner.slots _ slotId = _ from Function.update_self ..]
        exact ⟨nofun, nofun⟩
      · exact .inl (Function.update_of_ne same ..)
    · exact .same rfl rfl rfl rfl rfl rfl fun _ => rfl
  · exact .same rfl rfl rfl rfl rfl rfl fun _ => rfl

/-- A terminal message completes its task at most. -/
theorem quiet_finish (message : terminal.message = .finish taskId reason error) :
    Quiet (fun other => reason = .completed ∧ other = taskId) runner
      (runner.send terminal.message) ∧
    Quiet (fun other => reason = .completed ∧ other = taskId) runner (runner.pend terminal) := by
  have names : ∀ other what, .finish other .completed what = terminal.message →
      reason = .completed ∧ other = taskId := by
    intro other what same
    rw [message] at same
    cases same
    exact ⟨rfl, rfl⟩
  constructor
  · refine .waits ?_ ?_ id (fun _ => .inl rfl) rfl rfl rfl
      ⟨[], (List.append_nil _).symm⟩
    · refine ⟨[terminal.message], rfl, fun sent member => ?_⟩
      exact ⟨_, _, _, (List.mem_singleton.mp member).trans message⟩
    · rintro other ⟨what, member⟩
      simp only [send, List.append_assoc, List.mem_append, List.mem_singleton] at member
      rcases member with sent | now | pending
      · exact .inl ⟨what, List.mem_append_left _ sent⟩
      · exact .inr (names other what now)
      · exact .inl ⟨what, List.mem_append_right _ pending⟩
  · refine .waits ⟨[], (List.append_nil _).symm, fun _ member => absurd member List.not_mem_nil⟩ ?_ (fun finishes later member => ?_) (fun _ => .inl rfl)
      rfl rfl rfl ⟨[], (List.append_nil _).symm⟩
    rotate_left
    · rcases List.mem_append.mp member with old | now
      · exact finishes later old
      · exact ⟨_, _, _, List.mem_singleton.mp now ▸ message⟩
    rintro other ⟨what, member⟩
    simp only [pend, List.map_append, List.map_cons, List.map_nil, List.mem_append,
      List.mem_singleton] at member
    rcases member with sent | pending | now
    · exact .inl ⟨what, List.mem_append_left _ sent⟩
    · exact .inl ⟨what, List.mem_append_right _ pending⟩
    · exact .inr (names other what now)

theorem quiet_sendFinish :
    Quiet (fun other => reason = .completed ∧ other = taskId) runner
      (runner.sendFinish answers taskId reason error slot) := by
  have message : (⟨.finish taskId reason error, slot⟩ : PendingTerminalMessage).message =
    .finish taskId reason error := rfl
  have first : Quiet (fun _ => False) runner (runner.finishing taskId slot) := quiet_finishing
  have last : ∀ terminal later, Quiet (fun _ => False) later
    (TtsRunner.handleTerminalDelivered later terminal answers) :=
    fun _ _ => quiet_handleTerminalDelivered
  unfold sendFinish
  dsimp only
  split
  · have sent := (@quiet_finish (runner.finishing taskId slot) _ _ _ _ message).1.trans
      (last ⟨.finish taskId reason error, slot⟩ _) fun other either => either.elim id False.elim
    exact first.trans sent fun other either => either.elim False.elim id
  · exact first.trans (quiet_finish message).2 fun other either => either.elim False.elim id

theorem Quiet.mono {fewer : Nat → Prop} (quiet : Quiet fewer runner next)
    (more : ∀ taskId, fewer taskId → completes taskId) : Quiet completes runner next :=
  quiet.trans .refl fun taskId either => either.elim (more taskId) (more taskId)

/-- A task that ends without success. -/
theorem quiet_ends (fails : reason ≠ .completed) :
    Quiet completes runner (runner.sendFinish answers taskId reason error slot) :=
  quiet_sendFinish.mono fun _ done => absurd done.1 fails

/-- The slot of a task that ends neither runs nor is free. -/
theorem state_of_sendFinish (has : runner.HasSlot slotId) :
    ((runner.sendFinish answers taskId reason error (some slotId)).slots slotId).state ≠ .running ∧
    ((runner.sendFinish answers taskId reason error (some slotId)).slots slotId).state ≠ .free := by
  have finishing : ((runner.finishing taskId (some slotId)).slots slotId).state =
      .awaitingTerminalDelivery := by
    unfold TtsRunner.finishing
    dsimp only
    rw [if_pos has, setState, setSlot]
    dsimp only
    rw [Function.update_self]
  have evicts : ∀ later : TtsRunner, (later.slots slotId).state = .awaitingTerminalDelivery →
      ((later.requestEvict slotId answers).slots slotId).state ≠ .running ∧
      ((later.requestEvict slotId answers).slots slotId).state ≠ .free := by
    intro later waits
    unfold TtsRunner.requestEvict
    split
    · split
      · rw [show TtsRunner.slots _ slotId = _ from Function.update_self ..]
        exact ⟨by rintro ⟨⟩, by rintro ⟨⟩⟩
      · split
        · rw [waits]
          exact ⟨by rintro ⟨⟩, by rintro ⟨⟩⟩
        · dsimp only
          rw [waits]
          exact ⟨by rintro ⟨⟩, by rintro ⟨⟩⟩
    · rw [waits]
      exact ⟨by rintro ⟨⟩, by rintro ⟨⟩⟩
  unfold TtsRunner.sendFinish
  dsimp only
  split
  · exact evicts _ finishing
  · refine ⟨fun running => ?_, fun free => ?_⟩
    · cases finishing.symm.trans running
    · cases finishing.symm.trans free

/-- A slot is given up, whatever it was told before. -/
theorem quiet_finishSlot {context : SlotContext} (has : runner.HasSlot slotId) :
    Quiet (fun other => reason = .completed ∧ other = taskId) runner
      ((runner.setSlot slotId context).sendFinish answers taskId reason error (some slotId)) := by
  have quiet := @quiet_sendFinish (runner.setSlot slotId context) taskId answers reason error
    (some slotId)
  have left := @state_of_sendFinish (runner.setSlot slotId context) taskId slotId answers reason
    error has
  have elsewhere : ∀ other, other ≠ slotId →
      (runner.setSlot slotId context).slots other = runner.slots other :=
    fun other apart => Function.update_of_ne apart ..
  exact { quiet with
    running := by
      intro other now
      by_cases same : other = slotId
      · exact absurd now (same ▸ left.1)
      · rw [← elsewhere other same]
        exact quiet.running other now
    free := by
      intro other granted now
      by_cases same : other = slotId
      · exact absurd now (same ▸ left.2)
      · rw [← elsewhere other same]
        exact quiet.free other granted now }

theorem quiet_maybeFinalizeCompletedSlot :
    Quiet (fun other => runner.Passes slotId ∧ (runner.slots slotId).completionPending = true ∧
        (runner.slots slotId).audioLastReceived = true ∧ other = (runner.slots slotId).taskId)
      runner (runner.maybeFinalizeCompletedSlot slotId answers) := by
  unfold maybeFinalizeCompletedSlot
  dsimp only
  split
  · rename_i all
    exact (quiet_finishSlot all.1).mono fun other done =>
      ⟨⟨all.1, all.2.2.2⟩, all.2.1, all.2.2.1, done.2⟩
  · exact .refl

theorem quiet_allocateTask : Quiet completes runner (runner.allocateTask task answers) := by
  unfold allocateTask
  split
  · exact quiet_ends nofun
  · split
    · exact .waits ⟨[], (List.append_nil _).symm, nofun⟩ (fun _ done => .inl done) id (fun _ => .inl rfl) rfl rfl rfl ⟨_, rfl⟩
    · exact quiet_ends nofun

/-- One quiet step after another. -/
theorem Quiet.then (before : Quiet completes runner mid) (after : Quiet completes mid next) :
    Quiet completes runner next :=
  before.trans after fun _ either => either.elim id id

theorem quiet_compileTask : Quiet completes runner (runner.compileTask task speechIds answers) := by
  unfold compileTask
  split
  · refine Quiet.then ?_ quiet_allocateTask
    exact .same rfl rfl rfl rfl rfl rfl fun _ => rfl
  · exact quiet_ends nofun

theorem quiet_addVoiceSample {samples : List Int} :
    Quiet completes runner (runner.addVoiceSample samples speechIds) := by
  unfold addVoiceSample
  split
  · exact .refl
  · split <;> exact .same rfl rfl rfl rfl rfl rfl fun _ => rfl

theorem quiet_handleTask : Quiet completes runner (runner.handleTask task answers) := by
  unfold handleTask
  split
  · exact quiet_allocateTask
  · split
    · refine Quiet.then ?_ quiet_compileTask
      exact .same rfl rfl rfl rfl rfl rfl fun _ => rfl
    · split
      · exact .same rfl rfl rfl rfl rfl rfl fun _ => rfl
      · exact quiet_ends nofun

theorem quiet_handleControl : Quiet completes runner (runner.handleControl taskId answers) := by
  unfold handleControl
  split
  · have ends : Quiet completes runner (runner.sendFinish answers taskId .cancelled "" none) :=
      quiet_ends nofun
    refine ends.then ?_
    exact .same rfl rfl rfl rfl rfl rfl fun _ => rfl
  · split
    · exact quiet_requestStop
    · split
      · rename_i task _
        have ends : Quiet completes runner
          (runner.sendFinish answers task.taskId .cancelled "" none) := quiet_ends nofun
        refine ends.then ?_
        exact .same rfl rfl rfl rfl rfl rfl fun _ => rfl
      · exact .refl

theorem quiet_handleVoiceEncodeResult {result : VoiceEncodeResult} :
    Quiet completes runner (runner.handleVoiceEncodeResult result answers) := by
  unfold handleVoiceEncodeResult
  split
  · exact .refl
  · have taken : Quiet completes runner { runner with
        pendingVoiceEncodes := Function.update runner.pendingVoiceEncodes result.requestId none } :=
      .same rfl rfl rfl rfl rfl rfl fun _ => rfl
    dsimp only
    split
    · exact taken.then (quiet_addVoiceSample.then quiet_compileTask)
    · exact taken.then (quiet_ends nofun)
    · exact taken.then (quiet_ends nofun)

theorem quiet_handleSubmitAck :
    Quiet completes runner (runner.handleSubmitAck response answers) := by
  unfold handleSubmitAck
  split
  · exact .refl
  · split
    · exact .refl
    · exact quiet_ends nofun

theorem quiet_handleStopAck : Quiet completes runner (runner.handleStopAck response answers) :=
  quiet_ends nofun

/-- A slot that is no longer granted is free again. -/
theorem quiet_cleanupSlot (free : runner.granted slotId = false) :
    Quiet completes runner (runner.cleanupSlot slotId) := by
  unfold cleanupSlot
  split
  · refine ⟨⟨[], (List.append_nil _).symm, nofun⟩, fun _ done => .inl done, id, fun other now => ?_,
      fun other run found => ⟨run, found, rfl, id⟩, rfl, fun _ granted => granted,
      fun other granted now => ?_, fun _ _ none_ => none_⟩
    · by_cases same : other = slotId
      · rw [same, show TtsRunner.slots _ slotId = _ from Function.update_self ..] at now
        cases now
      · have kept : (runner.setSlot slotId {}).slots other = runner.slots other :=
          Function.update_of_ne same ..
        rw [kept] at now ⊢
        exact ⟨now, rfl⟩
    · by_cases same : other = slotId
      · rw [same] at granted
        exact absurd (granted.symm.trans free) nofun
      · rw [show TtsRunner.slots _ other = _ from Function.update_of_ne same ..] at now
        exact now
  · exact .refl

end TtsRunner
end InferenceServer.Tts
