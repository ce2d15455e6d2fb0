import InferenceServer.Tts.TtsDelivery

/-! The chunks of a task against what the scheduler has put out for it, and the order of the
messages of a task. -/
namespace InferenceServer.Tts.TtsRunner

open Machine

variable {runner mid next : TtsRunner} {place : Nat → Place} {taskId slotId : Nat}
  {answers : Answers} {response : SchedulerResponse} {completes : Nat → Prop} {label : Label}

/-- The scheduler has a run for the task, or had one. -/
def WasSubmitted (runner : TtsRunner) (taskId : Nat) : Prop :=
  taskId ∈ runner.submitted.map TtsSubmit.taskId

/-- All chunks that the scheduler has put out for a task were sent, and there will be no more. -/
def Whole (runner : TtsRunner) (taskId : Nat) : Prop :=
  runner.chunks taskId = runner.produced taskId ∧
    ∀ slotId run, runner.runs slotId = some run → run.taskId = taskId → run.last = true

structure Delivered (runner : TtsRunner) : Prop where
  unsubmitted : ∀ taskId, ¬ runner.WasSubmitted taskId →
    runner.produced taskId = [] ∧ runner.chunks taskId = []
  runs : ∀ slotId run, runner.runs slotId = some run → runner.WasSubmitted run.taskId
  settled : ∀ taskId, runner.WasSubmitted taskId → runner.Settled taskId
  running : ∀ slotId, (runner.slots slotId).state = .running →
    runner.chunks (runner.slots slotId).taskId = runner.produced (runner.slots slotId).taskId ∨
      (runner.slots slotId).taskId ∈ runner.refused
  completed : ∀ taskId, runner.Completed taskId → runner.Whole taskId
  pending : runner.PendingFinishes
  ordered : runner.sent.Pairwise fun earlier later =>
    ∀ taskId, earlier.finishes taskId = true → later.belongs taskId = false

/-- Terminal messages may follow anything. -/
theorem ordered_finishes {sent added : List Message}
    (ordered : sent.Pairwise fun earlier later =>
      ∀ taskId, earlier.finishes taskId = true → later.belongs taskId = false)
    (finishes : ∀ message ∈ added, ∃ taskId reason error, message = .finish taskId reason error) :
    (sent ++ added).Pairwise fun earlier later =>
      ∀ taskId, earlier.finishes taskId = true → later.belongs taskId = false := by
  have apart : ∀ earlier message, message ∈ added → ∀ taskId,
      Message.finishes taskId earlier = true → message.belongs taskId = false := by
    intro earlier message member taskId _
    obtain ⟨_, _, _, rfl⟩ := finishes message member
    rfl
  refine List.pairwise_append.mpr ⟨ordered, ?_, fun earlier _ message => apart earlier message⟩
  exact List.pairwise_of_forall_mem_list fun earlier _ message => apart earlier message

theorem Delivered.quiet (delivered : runner.Delivered) (quiet : Quiet completes runner next)
    (outputs : next.produced = runner.produced ∧ next.refused = runner.refused)
    (settled : ∀ taskId, runner.Settled taskId → next.Settled taskId)
    (whole : ∀ taskId, completes taskId → runner.Whole taskId) : next.Delivered := by
  obtain ⟨produced, refused⟩ := outputs
  have chunks := quiet.chunks
  have same : ∀ taskId, next.WasSubmitted taskId ↔ runner.WasSubmitted taskId := by
    intro taskId
    rw [WasSubmitted, quiet.submitted]
    rfl
  refine ⟨fun taskId fresh => ?_, fun slotId run found => ?_, fun taskId was => ?_,
    fun slotId now => ?_, fun taskId done => ?_, quiet.pending delivered.pending, ?_⟩
  · rw [chunks, produced]
    exact delivered.unsubmitted taskId fun was => fresh ((same taskId).mpr was)
  · obtain ⟨old, there, names, _⟩ := quiet.runs slotId run found
    rw [same, ← names]
    exact delivered.runs slotId old there
  · exact settled taskId (delivered.settled taskId ((same taskId).mp was))
  · obtain ⟨then_, names⟩ := quiet.running slotId now
    rw [names, chunks, produced, refused]
    exact delivered.running slotId then_
  · have before : runner.Whole taskId := by
      rcases quiet.completed taskId done with earlier | now
      · exact delivered.completed taskId earlier
      · exact whole taskId now
    refine ⟨by rw [chunks, produced]; exact before.1, fun slotId run found names => ?_⟩
    obtain ⟨old, there, same', last⟩ := quiet.runs slotId run found
    exact last (before.2 slotId old there (same'.trans names))
  · obtain ⟨added, sent, finishes⟩ := quiet.sent
    rw [sent]
    exact ordered_finishes delivered.ordered finishes

/-- A task that has a terminal message saying so has one. -/
theorem terminals_of_completed (done : runner.Completed taskId) : runner.terminals taskId ≠ 0 := by
  obtain ⟨error, member⟩ := done
  have finishes : Message.finishes taskId (.finish taskId .completed error) = true :=
    decide_eq_true rfl
  rcases List.mem_append.mp member with sent | pending
  · have counted := List.countP_pos_iff.mpr ⟨_, sent, finishes⟩
    unfold terminals
    omega
  · obtain ⟨terminal, member, message⟩ := List.mem_map.mp pending
    have counted : 0 < runner.pendingTerminalMessages.countP (·.message.finishes taskId) :=
      List.countP_pos_iff.mpr ⟨terminal, member, by rw [message]; exact finishes⟩
    unfold terminals
    omega

theorem Delivered.starts (delivered : runner.Delivered) (sound : runner.Sound place)
    (starts : runner.Starts taskId slotId next) (refused : next.refused = runner.refused)
    (settled : ∀ taskId, runner.Settled taskId → next.Settled taskId)
    (popped : taskId ∈ next.popped) : next.Delivered := by
  obtain ⟨task, waits, _⟩ := starts.waits
  have here := (sound.allocating_of waits).1
  have fits := sound.tasks taskId
  rw [here] at fits
  have fresh : ¬ runner.WasSubmitted taskId := by
    intro was
    have held := (delivered.settled taskId was).2
    exact absurd ((congrArg Prod.snd held).symm.trans waits) nofun
  have chunks : next.chunks = runner.chunks := by
    funext other
    rw [TtsRunner.chunks, starts.sent]
    rfl
  have same : ∀ other, next.WasSubmitted other ↔ runner.WasSubmitted other ∨ other = taskId := by
    intro other
    rw [WasSubmitted, starts.submitted, List.mem_append, List.mem_singleton]
    rfl
  have completed : ∀ other, next.Completed other → runner.Completed other := by
    rintro other ⟨error, member⟩
    rw [starts.sent, starts.pending] at member
    exact ⟨error, member⟩
  refine ⟨fun other unknown => ?_, fun other run found => ?_, fun other was => ?_,
    fun other now => ?_, fun other done => ?_, ?_, ?_⟩
  · rw [chunks, starts.produced]
    exact delivered.unsubmitted other fun was => unknown ((same other).mpr (.inl was))
  · rw [same]
    rw [starts.runs] at found
    by_cases mine : other = slotId
    · rw [mine, Function.update_self] at found
      cases found
      exact .inr rfl
    · rw [Function.update_of_ne mine] at found
      exact .inl (delivered.runs other run found)
  · rcases (same other).mp was with before | rfl
    · exact settled other (delivered.settled other before)
    · refine ⟨popped, starts.held.trans ?_⟩
      exact congrArg (·, none) fits.2.1
  · rw [starts.slots] at now ⊢
    by_cases mine : other = slotId
    · rw [mine, Function.update_self, chunks, starts.produced]
      obtain ⟨none_, empty⟩ := delivered.unsubmitted taskId fresh
      exact .inl (empty.trans none_.symm)
    · rw [Function.update_of_ne mine] at now ⊢
      rw [chunks, starts.produced, refused]
      exact delivered.running other now
  · have done := completed other done
    have whole := delivered.completed other done
    refine ⟨by rw [chunks, starts.produced]; exact whole.1, fun elsewhere run found names => ?_⟩
    rw [starts.runs] at found
    by_cases mine : elsewhere = slotId
    · rw [mine, Function.update_self] at found
      cases found
      have counted := terminals_of_completed done
      rw [← names] at counted
      exact absurd fits.2.2.2.1 counted
    · rw [Function.update_of_ne mine] at found
      exact whole.2 elsewhere run found names
  · intro terminal member
    rw [starts.pending] at member
    exact delivered.pending terminal member
  · rw [starts.sent]
    exact delivered.ordered

theorem settled_of_same (popped : next.popped = runner.popped) (held : next.held = runner.held)
    (settled : runner.Settled taskId) : next.Settled taskId := by
  rw [Settled, popped, held]
  exact settled

variable {run : Run} {phase : Phase}
variable {context : SlotContext} {produced : Nat → List Message} {refused : List Nat}

/-- An output of a run is put down; its chunk is sent, or is lost for a task that is known to have
lost one, or that runs no more. -/
theorem Delivered.output {last : Bool} (delivered : runner.Delivered)
    (found : runner.runs slotId = some run) (unlast : run.last = false)
    (runs : next.runs = Function.update runner.runs slotId (some { run with last }))
    (slots : next.slots = runner.slots) (submitted : next.submitted = runner.submitted)
    (pending : next.pendingTerminalMessages = runner.pendingTerminalMessages)
    (completed : ∀ other, next.Completed other → runner.Completed other)
    (settled : ∀ other, runner.Settled other → next.Settled other)
    (others : ∀ other, other ≠ run.taskId →
      next.chunks other = runner.chunks other ∧ next.produced other = runner.produced other)
    (refused : ∀ other ∈ runner.refused, other ∈ next.refused)
    (mine : ∀ other, (runner.slots other).state = .running →
      (runner.slots other).taskId = run.taskId →
      next.chunks run.taskId = next.produced run.taskId ∨ run.taskId ∈ next.refused)
    (ordered : next.sent.Pairwise fun earlier later =>
      ∀ taskId, earlier.finishes taskId = true → later.belongs taskId = false) :
    next.Delivered := by
  have known := delivered.runs slotId run found
  have same : ∀ other, next.WasSubmitted other ↔ runner.WasSubmitted other := by
    intro other
    rw [WasSubmitted, submitted]
    rfl
  refine ⟨fun other fresh => ?_, fun other run' there => ?_, fun other was => ?_,
    fun other now => ?_, fun other done => ?_, fun terminal member => ?_, ordered⟩
  · rw [same] at fresh
    have apart : other ≠ run.taskId := by
      rintro rfl
      exact fresh known
    rw [(others other apart).1, (others other apart).2]
    exact delivered.unsubmitted other fresh
  · rw [same]
    rw [runs] at there
    by_cases here : other = slotId
    · rw [here, Function.update_self] at there
      cases there
      exact known
    · rw [Function.update_of_ne here] at there
      exact delivered.runs other run' there
  · exact settled other (delivered.settled other ((same other).mp was))
  · rw [slots] at now ⊢
    by_cases names : (runner.slots other).taskId = run.taskId
    · rw [names]
      exact mine other now names
    · rw [(others _ names).1, (others _ names).2]
      exact (delivered.running other now).imp_right (refused _)
  · have whole := delivered.completed other (completed other done)
    have apart : other ≠ run.taskId := by
      rintro rfl
      exact absurd (unlast.symm.trans (whole.2 slotId run found rfl)) nofun
    refine ⟨by rw [(others other apart).1, (others other apart).2]; exact whole.1,
      fun elsewhere run' there names => ?_⟩
    rw [runs] at there
    by_cases here : elsewhere = slotId
    · rw [here, Function.update_self] at there
      cases there
      exact absurd names.symm apart
    · rw [Function.update_of_ne here] at there
      exact whole.2 elsewhere run' there names
  · rw [pending] at member
    exact delivered.pending terminal member

/-- The flags of a slot are set. -/
theorem quiet_flags (state : context.state = (runner.slots slotId).state)
    (names : context.taskId = (runner.slots slotId).taskId) :
    Quiet completes runner (runner.setSlot slotId context) := by
  have now : (runner.setSlot slotId context).slots slotId = context := Function.update_self ..
  refine ⟨⟨[], (List.append_nil _).symm, nofun⟩, fun _ done => .inl done, id, fun other run => ?_,
    fun other run found => ⟨run, found, rfl, id⟩, rfl, fun _ granted => granted,
    fun other _ free => ?_, fun _ _ none_ => none_⟩
  · by_cases same : other = slotId
    · rw [same, now] at run ⊢
      exact ⟨state.symm.trans run, names⟩
    · rw [show TtsRunner.slots _ other = _ from Function.update_of_ne same ..] at run
      exact ⟨run, congrArg SlotContext.taskId (Function.update_of_ne same ..)⟩
  · by_cases same : other = slotId
    · rw [same, now] at free
      rw [same]
      exact state.symm.trans free
    · rw [show TtsRunner.slots _ other = _ from Function.update_of_ne same ..] at free
      exact free

/-- The flags of a slot and of its run are set, and the task may be complete with them. -/
theorem Delivered.flags (delivered : runner.Delivered)
    (state : context.state = (runner.slots slotId).state)
    (names : context.taskId = (runner.slots slotId).taskId)
    (whole : (runner.slots slotId).state = .running → context.completionPending = true →
      context.audioLastReceived = true → runner.Whole (runner.slots slotId).taskId) :
    ((runner.setSlot slotId context).maybeFinalizeCompletedSlot slotId answers).Delivered := by
  have now : (runner.setSlot slotId context).slots slotId = context := Function.update_self ..
  have told : Quiet (fun _ => False) runner (runner.setSlot slotId context) :=
    quiet_flags state names
  refine delivered.quiet (told.trans quiet_maybeFinalizeCompletedSlot fun _ either =>
    either.elim False.elim id) ?_ (fun other => settled_of_same ?_ ?_) fun other done => ?_
  · exact ⟨congrArg OuterView.produced outerView_maybeFinalizeCompletedSlot,
      congrArg OuterView.refused outerView_maybeFinalizeCompletedSlot⟩
  · exact congrArg OuterView.popped outerView_maybeFinalizeCompletedSlot
  · exact held_maybeFinalizeCompletedSlot
  · rw [now] at done
    obtain ⟨passes, complete, last, rfl⟩ := done
    rw [names]
    refine whole ?_ complete last
    have running := passes.2
    rw [now] at running
    exact state.symm.trans running

/-- No output completes a run of whose chunks the full audio queue has refused one, itself
included. -/
def ChunksHold (runner : TtsRunner) : Label → Prop
  | .token output _ => runner.Passes output.slotId → output.final = true →
      (runner.slots output.slotId).audioLastReceived = true →
      (runner.slots output.slotId).taskId ∉ runner.refused
  | .audio output answers => runner.Passes output.slotId → output.last = true →
      (runner.slots output.slotId).completionPending = true →
      (runner.slots output.slotId).taskId ∉ runner.refused ∧
        (output.samplesBf16 ≠ [] → answers.chunk = false → answers.request = true)
  | _ => True

/-- A task whose chunks were all sent, and whose run is in one slot and over. -/
theorem Sound.whole {now : Run} (sound : runner.Sound place) (found : runner.runs slotId = some run)
    (sent : next.chunks run.taskId = next.produced run.taskId)
    (runs : next.runs = Function.update runner.runs slotId (some now)) (last : now.last = true) :
    next.Whole run.taskId := by
  refine ⟨sent, fun other run' there names => ?_⟩
  rw [runs] at there
  by_cases here : other = slotId
  · rw [here, Function.update_self] at there
    cases there
    exact last
  · rw [Function.update_of_ne here] at there
    exact absurd (sound.single _ _ _ _ there found names) here

theorem Delivered.token {output : TokenOutput} (delivered : runner.Delivered)
    (sound : runner.Sound place) (found : runner.runs output.slotId = some run)
    (holds : runner.ChunksHold (.token output answers)) :
    ({ runner with
      phase
      runs := Function.update runner.runs output.slotId
        (some { run with final := output.final }) }.handleTokenOutput output answers).Delivered := by
  have quiet : Quiet (fun _ => False) runner { runner with
      phase
      runs := Function.update runner.runs output.slotId
        (some { run with final := output.final }) } := by
    refine ⟨⟨[], (List.append_nil _).symm, nofun⟩, fun _ done => .inl done, id,
      fun other now => ⟨now, rfl⟩, fun other run' there => ?_, rfl, fun _ granted => granted,
      fun _ _ free => free, fun _ _ none_ => none_⟩
    dsimp only at there
    by_cases here : other = output.slotId
    · rw [here, Function.update_self] at there
      cases there
      rw [here]
      exact ⟨run, found, rfl, id⟩
    · rw [Function.update_of_ne here] at there
      exact ⟨run', there, rfl, id⟩
  have base := delivered.quiet quiet ⟨rfl, rfl⟩ (fun _ => id) fun _ no => no.elim
  unfold handleTokenOutput
  split
  · rename_i both
    have passes : runner.Passes output.slotId := both.1
    have now := (sound.running_of passes).2.2.2.2.2.1
    cases found.symm.trans now
    refine base.flags rfl rfl fun running complete last => ?_
    have kept := holds passes both.2 last
    exact sound.whole now ((delivered.running output.slotId running).resolve_right kept) rfl last
  · exact base

theorem belongs_message {output : AudioOutput} {other : Nat} :
    output.message.belongs other = decide (output.taskId = other) := rfl

/-- What the push of an output's chunk leaves, for a slot that runs. -/
theorem Delivered.pushed {output : AudioOutput} (delivered : runner.Delivered)
    (sound : runner.Sound place) (passes : runner.Passes output.slotId)
    (found : runner.runs output.slotId = some run) (names : run.taskId = output.taskId)
    (unlast : run.last = false) (put : produced = if output.samplesBf16 = [] then runner.produced
      else Function.update runner.produced output.taskId
        (runner.produced output.taskId ++ [output.message]))
    (told : refused = if output.samplesBf16 ≠ [] ∧ answers.chunk = false then
      runner.refused ++ [output.taskId] else runner.refused) (mid : TtsRunner)
    (here : mid = { runner with
      phase
      runs := Function.update runner.runs output.slotId (some { run with last := output.last })
      produced
      refused }.pushAudio output answers) :
    mid.Delivered ∧
      ((mid.slots output.slotId).state = .running →
        mid.slots output.slotId = runner.slots output.slotId ∧
        (run.taskId ∉ runner.refused →
          (output.samplesBf16 ≠ [] → answers.chunk = false → answers.request = true) →
          mid.chunks run.taskId = mid.produced run.taskId)) := by
  have now := (sound.running_of passes).2.2.2.2.2.1
  have task : (runner.slots output.slotId).taskId = run.taskId := by
    cases found.symm.trans now
    rfl
  have running := delivered.running output.slotId passes.2
  rw [task] at running
  have others : ∀ other, other ≠ run.taskId → produced other = runner.produced other := by
    intro other apart
    rw [put]
    split
    · rfl
    · exact Function.update_of_ne (names ▸ apart) ..
  rcases @pushAudio_cases { runner with
      phase
      runs := Function.update runner.runs output.slotId (some { run with last := output.last })
      produced
      refused } answers output with ⟨empty, pushed⟩ | ⟨some_, taken, pushed⟩ | ⟨some_, full, pushed⟩
  · rw [if_pos empty] at put
    rw [if_neg fun both => both.1 empty] at told
    subst put told
    rw [pushed] at here
    subst here
    refine ⟨delivered.output found unlast rfl rfl rfl rfl (fun _ => id) (fun _ => id)
      (fun other apart => ⟨rfl, rfl⟩) (fun _ => id) (fun _ _ _ => running) delivered.ordered,
      fun _ => ⟨rfl, fun kept _ => running.resolve_right kept⟩⟩
  · rw [if_neg some_] at put
    rw [taken, if_neg fun both => Bool.noConfusion both.2] at told
    subst told
    rw [pushed] at here
    subst here
    have chunk : ∀ other, TtsRunner.chunks (TtsRunner.send { runner with
        phase
        runs := Function.update runner.runs output.slotId (some { run with last := output.last })
        produced } output.message) other =
        runner.chunks other ++ if output.taskId = other then [output.message] else [] := by
      intro other
      by_cases same : output.taskId = other
      · simp [TtsRunner.chunks, send, belongs_message, same]
      · simp [TtsRunner.chunks, send, belongs_message, same]
    have added : runner.chunks run.taskId = runner.produced run.taskId →
        runner.chunks run.taskId ++ (if output.taskId = run.taskId then [output.message] else []) =
          produced run.taskId := by
      intro same
      rw [if_pos names.symm, same, put, names, Function.update_self]
    have live := (sound.task_of_runs passes.1 ⟨.inl passes.2, task⟩).2.2.2.2
    refine ⟨delivered.output found unlast rfl rfl rfl rfl ?_ (fun _ => id)
      (fun other apart => ⟨?_, others other apart⟩) (fun _ => id) (fun _ _ _ => ?_) ?_,
      fun _ => ⟨rfl, fun kept _ => ?_⟩⟩
    · rintro other ⟨error, member⟩
      refine ⟨error, ?_⟩
      simp only [send, List.mem_append, List.mem_singleton] at member
      rcases member with (sent | message) | waits
      · exact List.mem_append_left _ sent
      · cases message
      · exact List.mem_append_right _ waits
    · rw [chunk, if_neg fun same => apart (same.symm.trans names.symm), List.append_nil]
    · rw [chunk]
      exact running.imp_left added
    · refine List.pairwise_append.mpr ⟨delivered.ordered, List.pairwise_singleton .., ?_⟩
      intro earlier member later last other finishes
      rw [List.mem_singleton.mp last, belongs_message]
      refine decide_eq_false fun same => ?_
      have counted : 0 < runner.sent.countP (Message.finishes other) :=
        List.countP_pos_iff.mpr ⟨earlier, member, finishes⟩
      have none_ : runner.terminals run.taskId = 0 := live
      rw [names, same] at none_
      unfold terminals at none_
      omega
    · rw [chunk]
      exact added (running.resolve_right kept)
  · rw [if_pos ⟨some_, full⟩] at told
    have lost : run.taskId ∈ refused := by
      rw [told, names]
      exact List.mem_append_right _ (List.mem_singleton_self _)
    have base := @Delivered.output runner { runner with
        phase
        runs := Function.update runner.runs output.slotId (some { run with last := output.last })
        produced
        refused } output.slotId run output.last delivered found unlast rfl rfl rfl rfl
      (fun _ => id) (fun _ => id)
      (fun other apart => ⟨rfl, others other apart⟩)
      (fun other member => by dsimp only; rw [told]; exact List.mem_append_left _ member)
      (fun _ _ _ => .inr lost) delivered.ordered
    rw [here, pushed]
    refine ⟨base.quiet (@quiet_requestStop _ _ _ fun _ => False)
      ⟨congrArg OuterView.produced outerView_requestStop,
        congrArg OuterView.refused outerView_requestStop⟩
      (fun other => settled_of_same (congrArg OuterView.popped outerView_requestStop)
        held_requestStop) (fun _ no => no.elim), fun still => ?_⟩
    unfold requestStop at still ⊢
    split at still
    · rename_i has
      rw [if_pos has]
      split at still
      · rw [show TtsRunner.slots _ output.slotId = _ from Function.update_self ..] at still
        cases still
      · rename_i request
        rw [if_neg request]
        have both : (output.samplesBf16 ≠ [] → answers.chunk = false → answers.request = true) →
            False := fun accepted => request (accepted some_ full)
        split
        · exact ⟨rfl, fun _ accepted => (both accepted).elim⟩
        · exact ⟨rfl, fun _ accepted => (both accepted).elim⟩
    · rename_i no
      exact absurd ⟨passes.1, passes.2⟩ no

theorem Delivered.audio {output : AudioOutput} (delivered : runner.Delivered)
    (sound : runner.Sound place) (found : runner.runs output.slotId = some run)
    (names : run.taskId = output.taskId) (unlast : run.last = false)
    (holds : runner.ChunksHold (.audio output answers))
    (put : produced = if output.samplesBf16 = [] then runner.produced
      else Function.update runner.produced output.taskId
        (runner.produced output.taskId ++ [output.message]))
    (told : refused = if output.samplesBf16 ≠ [] ∧ answers.chunk = false then
      runner.refused ++ [output.taskId] else runner.refused) :
    ({ runner with
      phase
      runs := Function.update runner.runs output.slotId (some { run with last := output.last })
      produced
      refused }.handleAudioOutput output answers).Delivered := by
  unfold handleAudioOutput
  split
  · rename_i passes
    have passes : runner.Passes output.slotId := passes
    have now := (sound.running_of passes).2.2.2.2.2.1
    dsimp only
    obtain ⟨base, running⟩ := delivered.pushed sound passes found names unlast put told _ rfl
    have runs : TtsRunner.runs (TtsRunner.pushAudio _ output answers) = _ :=
      @runs_pushAudio { runner with
        phase
        runs := Function.update runner.runs output.slotId (some { run with last := output.last })
        produced
        refused } answers output
    split
    · rename_i last
      refine base.flags rfl rfl fun still complete _ => ?_
      obtain ⟨same, sent⟩ := running still
      dsimp only at complete
      rw [same] at complete ⊢
      cases found.symm.trans now
      obtain ⟨kept, accepted⟩ := holds passes last complete
      exact sound.whole found (sent kept accepted) runs last
    · exact base
  · rename_i stopped
    have stopped : ¬ runner.Passes output.slotId := stopped
    refine delivered.output found unlast rfl rfl rfl rfl (fun _ => id) (fun _ => id)
      (fun other apart => ⟨rfl, ?_⟩) (fun other member => ?_) (fun other running same => ?_)
      delivered.ordered
    · dsimp only
      rw [put]
      split
      · rfl
      · exact Function.update_of_ne (names ▸ apart) ..
    · dsimp only
      rw [told]
      split
      · exact List.mem_append_left _ member
      · exact member
    · -- No slot but the one of the output runs its task.
      have has := @Sound.has_of_state _ _ other sound (by rw [running]; nofun)
      have there := (sound.running_of ⟨has, running⟩).2.2.2.2.2.1
      have here := sound.single _ _ _ _ there found same
      exact absurd ⟨here ▸ has, here ▸ running⟩ stopped

end InferenceServer.Tts.TtsRunner
