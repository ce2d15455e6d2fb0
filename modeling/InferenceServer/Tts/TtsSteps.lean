import InferenceServer.Tts.TtsFrames
import InferenceServer.Tts.TtsRuns

/-! What every step keeps. -/
namespace InferenceServer.Tts.TtsRunner

open Machine

variable {runner mid next : TtsRunner} {place : Nat → Place} {taskId slotId : Nat}
  {answers : Answers} {label : Label}

section

variable (sound : runner.Sound place)
include sound

/-- A slot whose teardown is due is evicted, or its eviction stays due. -/
theorem Sound.tearDown (config : mid.config = runner.config)
    (tasks : ∀ other, mid.taskView other = runner.taskView other)
    (slots : ∀ other, other ≠ slotId → mid.slotView other = runner.slotView other)
    (view : { mid.slotView slotId with teardowns := (mid.slotView slotId).teardowns + 1 } =
      runner.slotView slotId) : (mid.requestEvict slotId answers).Sound place := by
  have fits := sound.slots slotId
  have due : (runner.slotView slotId).teardowns = (mid.slotView slotId).teardowns + 1 :=
    (congrArg SlotView.teardowns view).symm
  have has : runner.HasSlot slotId := by
    by_contra no
    have none_ := (fits.outside no).2.2.1
    rw [due] at none_
    cases none_
  have inside := fits.inside has
  have waits : (runner.slotView slotId).context.state = .awaitingTerminalDelivery ∧
      (runner.slotView slotId).granted = true ∧ (runner.slotView slotId).stops = [] ∧
      (runner.slotView slotId).evicts = [] ∧ (runner.slotView slotId).teardowns = 1 := by
    unfold StateFits at inside
    split at inside
    case h_4 state => exact ⟨state, inside⟩
    case h_1 => rw [due] at inside; cases inside.2.1
    case h_2 => rw [due] at inside; cases inside.2.2.2.1
    case h_3 => rw [due] at inside; cases inside.2.2.2
    case h_5 => rw [due] at inside; cases inside.2.2.2
  obtain ⟨state, granted, stops, evicts, teardowns⟩ := waits
  have context : mid.slots slotId = runner.slots slotId := congrArg SlotView.context view
  have run : mid.runs slotId = runner.runs slotId := congrArg SlotView.run view
  have alone : (mid.slotView slotId).teardowns = 0 := by omega
  have evicted := @slotView_requestEvict mid slotId answers ((hasSlot_iff config _).mpr has)
    (by rw [context]; exact fun other => by cases state.symm.trans other) alone
  have granted : (mid.slotView slotId).granted = true :=
    (congrArg SlotView.granted view).trans granted
  have stops : (mid.slotView slotId).stops = [] := (congrArg SlotView.stops view).trans stops
  have evicts : (mid.slotView slotId).evicts = [] := (congrArg SlotView.evicts view).trans evicts
  have idle : ∀ other, ¬ (runner.slots slotId).Runs other := by
    intro other runs
    have state : (runner.slots slotId).state = .awaitingTerminalDelivery := state
    rcases runs.1 with running | stopping
    · cases state.symm.trans running
    · cases state.symm.trans stopping
  refine @Sound.movedSlot runner _ place slotId sound (config_requestEvict.trans config)
    (fun other => taskView_requestEvict.trans (tasks other))
    (fun other apart => (slotView_requestEvict_other apart).trans (slots other apart)) ?_
    (fun other _ => iff_of_false ?_ (idle other)) (fun _ => ⟨.inl state, ?_⟩)
    fun run' found => ⟨run', ?_, rfl⟩
  · rw [evicted]
    split
    · refine ⟨?_, fun _ => granted, fun _ => ?_, fun no => absurd has no⟩
      · dsimp only
        rw [evicts]
        exact Nat.le_refl 1
      · refine ⟨granted, stops, ?_, alone⟩
        dsimp only
        rw [evicts]
        rfl
    · refine ⟨?_, fun some => absurd evicts some, fun _ => ?_, fun no => absurd has no⟩
      · dsimp only
        rw [evicts]
        exact Nat.zero_le 1
      · unfold StateFits
        have state : (mid.slotView slotId).context.state = .awaitingTerminalDelivery :=
          (congrArg SlotContext.state context).trans state
        dsimp only
        rw [state]
        exact ⟨granted, stops, evicts, rfl⟩
  · have same := congrArg SlotView.context evicted
    intro runs
    change (mid.requestEvict slotId answers).slots slotId = _ at same
    rw [same] at runs
    split at runs
    · rcases runs.1 with running | stopping
      · cases running
      · cases stopping
    · change (mid.slots slotId).Runs other at runs
      rw [context] at runs
      exact idle other runs
  · have names : (mid.slots slotId).taskId = (runner.slots slotId).taskId :=
      congrArg SlotContext.taskId context
    have same := congrArg (fun view => view.context.taskId) evicted
    change ((mid.requestEvict slotId answers).slots slotId).taskId = _ at same
    rw [same]
    split <;> exact names
  · have same := congrArg SlotView.run evicted
    change (mid.requestEvict slotId answers).runs slotId = _ at same
    rw [same] at found
    split at found
    · exact run.symm.trans found
    · exact run.symm.trans found

theorem Sound.evict {pressed : Bool} {rest : List Nat}
    (phase : runner.phase = .evicts pressed (slotId :: rest)) :
    ({ runner with phase := .evicts pressed rest }.requestEvict slotId answers).Sound place := by
  refine sound.tearDown rfl (fun _ => rfl) (fun other apart => ?_) ?_
  · ext <;> simp [slotView, requests, TtsRunner.teardowns, phase, Phase.evicting, apart.symm]
  · ext <;> simp [slotView, requests, TtsRunner.teardowns, phase, Phase.evicting]
    omega

theorem Sound.deliver {terminal : PendingTerminalMessage} {rest : List PendingTerminalMessage}
    (pending : runner.pendingTerminalMessages = terminal :: rest) :
    (({ runner with pendingTerminalMessages := rest }.send
      terminal.message).handleTerminalDelivered terminal answers).Sound place := by
  have tasks : ∀ other, ({ runner with pendingTerminalMessages := rest }.send
      terminal.message).taskView other = runner.taskView other := by
    intro other
    ext <;> simp [taskView, send, TtsRunner.terminals, pending, List.countP_cons]
    omega
  unfold handleTerminalDelivered
  split
  · rename_i slot names
    refine sound.tearDown rfl tasks (fun other apart => ?_) ?_
    · ext <;> simp [slotView, send, requests, TtsRunner.teardowns, pending, names, apart.symm]
    · ext <;> simp [slotView, send, requests, TtsRunner.teardowns, pending, names]
      omega
  · rename_i names
    refine sound.same rfl tasks fun other => ?_
    ext <;> simp [slotView, send, requests, TtsRunner.teardowns, pending, names]

theorem Sound.drains (stepped : runner.next = some next) : next.Sound place := by
  have phases : ∀ phase cancels, phase.evicting = runner.phase.evicting →
      { runner with phase, cancelQueue := cancels }.Sound place :=
    fun phase cancels same => (sound.phase same).same rfl (fun _ => rfl) fun _ => rfl
  unfold TtsRunner.next at stepped
  split at stepped
  case h_1 => cases stepped
  case h_2 here =>
    split at stepped <;> cases stepped
    exact phases _ _ (by rw [here]; rfl)
  case h_3 here | h_4 here | h_5 here | h_6 here =>
    cases stepped
    exact phases _ _ (by rw [here]; rfl)
  case h_7 here =>
    split at stepped <;> cases stepped <;> exact phases _ _ (by rw [here]; rfl)
  case h_8 here =>
    split at stepped <;> cases stepped
    exact phases _ _ (by rw [here]; rfl)
  case h_9 here =>
    split at stepped <;> cases stepped
    refine sound.same rfl (fun _ => rfl) fun other => ?_
    ext <;> simp [slotView, requests, TtsRunner.teardowns, here, Phase.evicting]
  case h_10 here =>
    split at stepped <;> cases stepped
    refine sound.same rfl (fun _ => rfl) fun other => ?_
    ext <;> simp [slotView, requests, TtsRunner.teardowns, here, Phase.evicting]
  case h_11 pressed _ here =>
    split at stepped <;> cases stepped
    rename_i over_
    refine phases _ _ ?_
    rw [here, over_]
    cases pressed <;> rfl
  case h_12 here =>
    split at stepped <;> cases stepped
    exact phases _ _ (by rw [here]; rfl)

/-- A task that is popped is one that was not seen before. -/
theorem Sound.popped {task : Task} {rest : List Task} {drained : Nat} (queued : runner.Queued)
    (phase : runner.phase = .tasks drained) (queue : runner.taskQueue = task :: rest)
    (live : task.done = false) :
    Taken runner place task.taskId { runner with
      taskQueue := rest
      popped := runner.popped ++ [task.taskId]
      phase := .tasks (drained + 1) } := by
  have fresh : (runner.taskView task.taskId).popped = 0 := by
    refine List.count_eq_zero.mpr (queued.new task ?_ live).2
    rw [queue]
    exact List.mem_cons_self
  have fits := sound.tasks task.taskId
  have here : place task.taskId = .unseen := by
    cases there : place task.taskId with
    | unseen => rfl
    | encoding | allocating | slot | finished =>
      rw [there] at fits
      cases fresh.symm.trans fits.1
  rw [here] at fits
  exact {
    sound := sound
    config := rfl
    tasks := by
      intro other apart
      ext <;> simp [taskView, TtsRunner.terminals, apart.symm]
    slots := by
      intro other
      ext <;> simp [slotView, requests, TtsRunner.teardowns, phase, Phase.evicting]
    popped := by
      change (runner.popped ++ [task.taskId]).count task.taskId = 1
      rw [List.count_append, List.count_singleton_self]
      exact congrArg (· + 1) fresh
    voice := fits.2.1
    allocation := fits.2.2.1
    terminals := fits.2.2.2.2
    source := by rw [here]; rintro _ ⟨⟩
    live := by rw [here]; rintro ⟨⟩ }

end

section

variable (queued : runner.Queued)
include queued

/-- Only the task queue and what was popped of it matter. -/
theorem Queued.outer {before after : OuterView} (first : runner.outerView = before)
    (second : next.outerView = after) (tasks : after.taskQueue = before.taskQueue)
    (all : after.queued = before.queued) (popped : after.popped = before.popped) : next.Queued := by
  have tasks : next.taskQueue = runner.taskQueue := by
    rw [← congrArg OuterView.taskQueue first, ← congrArg OuterView.taskQueue second] at tasks
    exact tasks
  have all : next.queued = runner.queued := by
    rw [← congrArg OuterView.queued first, ← congrArg OuterView.queued second] at all
    exact all
  have popped : next.popped = runner.popped := by
    rw [← congrArg OuterView.popped first, ← congrArg OuterView.popped second] at popped
    exact popped
  refine ⟨?_, ?_, ?_⟩
  · rw [tasks, all, popped]
    exact queued.new
  · rw [tasks]
    exact queued.distinct
  · rw [all, popped]
    exact queued.known

theorem Queued.putDone {task : Task} (done : task.done = true) :
    { runner with taskQueue := runner.taskQueue ++ [task] }.Queued := by
  refine ⟨fun other member live => ?_, ?_, queued.known⟩
  · rcases List.mem_append.mp member with old | added
    · exact queued.new other old live
    · rw [List.mem_singleton.mp added, done] at live
      cases live
  · simpa [List.filter_append, done] using queued.distinct

theorem Queued.put {task : Task} (fresh : task.taskId ∉ runner.queued) :
    { runner with
      taskQueue := runner.taskQueue ++ [task]
      queued := runner.queued ++ [task.taskId] }.Queued := by
  refine ⟨fun other member going => ?_, ?_, fun other popped => ?_⟩
  · rcases List.mem_append.mp member with old | added
    · obtain ⟨known, unpopped⟩ := queued.new other old going
      exact ⟨List.mem_append_left _ known, unpopped⟩
    · rw [List.mem_singleton.mp added]
      exact ⟨List.mem_append_right _ (List.mem_singleton_self _),
        fun popped => fresh (queued.known _ popped)⟩
  · rw [List.filter_append, List.map_append]
    refine List.nodup_append.mpr ⟨queued.distinct, ?_, ?_⟩
    · exact (List.filter_sublist.map _).nodup (List.pairwise_singleton ..)
    · rintro old member other added rfl
      obtain ⟨task', kept, rfl⟩ := List.mem_map.mp member
      obtain ⟨kept, going⟩ := List.mem_filter.mp kept
      obtain ⟨task'', same, names⟩ := List.mem_map.mp added
      rw [List.mem_singleton.mp (List.mem_filter.mp same).1] at names
      exact fresh (names ▸ (queued.new task' kept (of_decide_eq_true going)).1)
  · exact List.mem_append_left _ (queued.known other popped)

theorem Queued.pop {task : Task} {rest : List Task} {phase : Phase}
    (queue : runner.taskQueue = task :: rest) (live : task.done = false) :
    { runner with
      taskQueue := rest
      popped := runner.popped ++ [task.taskId]
      phase }.Queued := by
  have distinct := queued.distinct
  simp only [queue, List.filter_cons, live, decide_true, if_true, List.map_cons,
    List.nodup_cons] at distinct
  have head := (queued.new task (by rw [queue]; exact List.mem_cons_self) live).1
  refine ⟨fun other member going => ?_, distinct.2, fun other popped => ?_⟩
  · obtain ⟨known, unpopped⟩ := queued.new other
      (by rw [queue]; exact List.mem_cons_of_mem _ member) going
    refine ⟨known, fun popped => ?_⟩
    rcases List.mem_append.mp popped with old | added
    · exact unpopped old
    · refine distinct.1 (List.mem_map.mpr ⟨other, ?_, List.mem_singleton.mp added⟩)
      exact List.mem_filter.mpr ⟨member, decide_eq_true going⟩
  · rcases List.mem_append.mp popped with old | added
    · exact queued.known other old
    · exact List.mem_singleton.mp added ▸ head

theorem Queued.step (stepped : runner.step label = some next) : next.Queued := by
  cases does_of_step stepped with
  | putDone done => exact queued.putDone done
  | putTask fresh => exact queued.put fresh
  | putCancel | shutDown | begin | pressed => exact queued.outer rfl rfl rfl rfl rfl
  | deliver => exact queued.outer rfl outerView_handleTerminalDelivered rfl rfl rfl
  | voiceResult => exact queued.outer rfl outerView_handleVoiceEncodeResult rfl rfl rfl
  | response =>
    exact queued.outer rfl (outerView_handleSchedulerResponse.trans outerView_answered) rfl rfl rfl
  | token => exact queued.outer rfl outerView_handleTokenOutput rfl rfl rfl
  | audio => exact queued.outer rfl outerView_handleAudioOutput rfl rfl rfl
  | finalize => exact queued.outer rfl outerView_maybeFinalizeCompletedSlot rfl rfl rfl
  | control => exact queued.outer rfl outerView_handleControl rfl rfl rfl
  | stop => exact queued.outer rfl outerView_requestStop rfl rfl rfl
  | evict => exact queued.outer rfl outerView_requestEvict rfl rfl rfl
  | taskDone _ queue done =>
    refine ⟨fun other member => queued.new other ?_, ?_, queued.known⟩
    · rw [queue]
      exact List.mem_cons_of_mem _ member
    · have distinct := queued.distinct
      rw [queue] at distinct
      simpa [done] using distinct
  | task _ queue live => exact (queued.pop queue live).outer rfl outerView_handleTask rfl rfl rfl
  | next drains =>
    unfold TtsRunner.next at drains
    repeat' split at drains
    all_goals
      cases drains
      try exact queued.outer rfl rfl rfl rfl rfl

end

theorem Consistent.step (consistent : runner.Consistent) (queued : runner.Queued)
    (orderly : runner.AnswersInOrder label) (stepped : runner.step label = some next) :
    next.Consistent := by
  obtain ⟨place, sound⟩ := consistent
  cases does_of_step stepped with
  | putDone | putTask | putCancel | shutDown =>
    exact ⟨place, sound.same rfl (fun _ => rfl) fun _ => rfl⟩
  | begin idle => exact ⟨place, sound.phase (by rw [idle]; rfl)⟩
  | pressed waits => exact ⟨place, sound.phase (by rw [waits]; rfl)⟩
  | deliver pending => exact ⟨place, sound.deliver pending⟩
  | @voiceResult _ _ drained phase =>
    have sound : { runner with phase := .voiceResults (drained + 1) }.Sound place :=
      sound.phase (by rw [phase]; rfl)
    exact sound.handleVoiceEncodeResult
  | @response response _ pressed drained phase may =>
    have sound : { runner with phase := .responses pressed (drained + 1) }.Sound place :=
      sound.phase (by rw [phase]; rfl)
    unfold handleSchedulerResponse
    cases type : response.type with
    | allocate => exact sound.handleAllocateAck type may orderly
    | submit => exact sound.handleSubmitAck type orderly
    | continue_ =>
      refine ⟨place, sound.same config_answered
        (fun other => taskView_answered_of_type (by rw [type]; nofun)) fun other => ?_⟩
      by_cases same : other = response.slotId
      · have view := @slotView_answered
          { runner with phase := .responses pressed (drained + 1) } response
        rw [type] at view
        rw [same]
        exact view
      · exact slotView_answered_other same
    | stop => exact sound.handleStopAck type may.1
    | evict => exact ⟨place, sound.handleEvictAck type may.1⟩
  | @token _ _ drained _ phase found fresh =>
    have sound : { runner with phase := .tokens (drained + 1) }.Sound place :=
      sound.phase (by rw [phase]; rfl)
    exact sound.tokenOutput found fresh
  | @audio output answers drained _ phase found _ fresh =>
    have sound : { runner with
        phase := .audio (drained + 1)
        produced := if output.samplesBf16 = [] then runner.produced
          else Function.update runner.produced output.taskId
            (runner.produced output.taskId ++ [output.message])
        refused := if output.samplesBf16 ≠ [] ∧ answers.chunk = false then
            runner.refused ++ [output.taskId]
          else runner.refused }.Sound place :=
      (sound.phase (by rw [phase]; rfl)).same rfl (fun _ => rfl) fun _ => rfl
    exact sound.audioOutput found fresh
  | @finalize _ _ rest phase =>
    have sound : { runner with phase := .finalizing rest }.Sound place :=
      sound.phase (by rw [phase]; rfl)
    rw [sound.finalize]
    exact ⟨place, sound⟩
  | @control _ pressed taskId rest phase =>
    have sound : { runner with
        phase := .controls pressed rest
        drainedCancels := runner.drainedCancels ++ [taskId] }.Sound place :=
      (sound.phase (by rw [phase]; rfl)).same rfl (fun _ => rfl) fun _ => rfl
    exact sound.handleControl
  | @stop _ pressed _ rest phase =>
    have sound : { runner with phase := .stops pressed rest }.Sound place :=
      sound.phase (by rw [phase]; rfl)
    exact ⟨place, sound.requestStop⟩
  | evict phase => exact ⟨place, sound.evict phase⟩
  | taskDone phase =>
    exact ⟨place, (sound.phase (by rw [phase]; rfl)).same rfl (fun _ => rfl) fun _ => rfl⟩
  | task phase queue live => exact (sound.popped queued phase queue live).handleTask
  | next drains => exact ⟨place, sound.drains drains⟩

/-- The runner as it is created. -/
def create (config : TtsConfig) : TtsRunner where
  config := config

theorem consistent_create (config : TtsConfig) : (create config).Consistent := by
  refine ⟨fun _ => .unseen, fun taskId => ?_, fun slotId => ?_, fun slotId taskId => ?_,
    fun slotId _ ending => ?_, nofun, nofun⟩
  · exact ⟨rfl, rfl, rfl, rfl, rfl⟩
  · refine ⟨Nat.zero_le 1, fun some => absurd rfl some, fun _ => ⟨rfl, rfl, rfl⟩,
      fun _ => ⟨rfl, rfl, rfl, rfl⟩⟩
  · refine ⟨nofun, ?_⟩
    rintro ⟨_, running | stopping, _⟩
    · cases running
    · cases stopping
  · rcases ending with free | free <;> cases free

end InferenceServer.Tts.TtsRunner
