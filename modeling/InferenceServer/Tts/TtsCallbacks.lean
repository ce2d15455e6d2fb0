import InferenceServer.Tts.TtsAudioLoops

/-! The shutdown of the service, the workers, and what holds of every callback. -/
namespace InferenceServer.Tts.TtsService

open Machine

variable {service next : TtsService} {taskId worker : Nat} {label : ServiceLabel}

theorem waitingChunks_append (first second : List (Option Message)) :
    waitingChunks taskId (first ++ second) =
      waitingChunks taskId first ++ waitingChunks taskId second := List.flatMap_append

section

variable (sound : service.Sound)
include sound

theorem Sound.stop (alone : service.running = false → service.stopping = .stopped) :
    service.stop.Sound := by
  unfold TtsService.stop
  split
  · rename_i running
    have no := sound.started running
    exact {
      sound with
      fits := by
        intro other
        have now : TtsService.requestView { service with
            running := false
            stopping := .joining
            taskQueue := service.taskQueue ++ [{ taskId := 0, done := true }]
            audioQueues := fun worker => service.audioQueues worker ++ [none] } other =
            service.requestView other := by
          ext1
          all_goals try rfl
          · dsimp only [requestView]
            simp only [waitingChunks_append]
            simp [waitingChunks]
          · dsimp only [requestView]
            rw [no]
            rfl
        rw [now]
        exact sound.fits other
      queues := by
        intro worker message member
        rcases List.mem_append.mp member with old | added
        · exact sound.queues worker message old
        · exact absurd (List.mem_singleton.mp added) nofun
      queued := by
        intro task member live
        rcases List.mem_append.mp member with old | added
        · exact sound.queued task old live
        · rw [List.mem_singleton.mp added] at live
          cases live
      distinct := by
        simpa [List.filter_append] using sound.distinct
      started := nofun
      joined := nofun
      swept := nofun
      returned := by
        intro returned
        exact absurd (no.symm.trans (sound.returned returned)) nofun }
  · rename_i stopped
    exact { sound with
      fits := sound.fits
      returned := fun _ => alone (Bool.eq_false_iff.mpr stopped) }

theorem Sound.join (stepped : service.join = some next) : next.Sound := by
  unfold TtsService.join at stepped
  split at stepped
  · rename_i all
    cases stepped
    exact {
      sound with
      fits := by
        intro other
        have now : TtsService.requestView { service with stopping := .sweeping } other =
            service.requestView other := by
          ext1
          all_goals try rfl
          dsimp only [requestView]
          rw [all.1]
          rfl
        rw [now]
        exact sound.fits other
      started := fun running => absurd (all.1.symm.trans (sound.started running)) nofun
      joined := fun _ => all.2
      swept := nofun
      returned := fun returned => absurd (all.1.symm.trans (sound.returned returned)) nofun }
  · cases stepped

theorem Sound.sweep {order : List Nat} (stepped : service.sweep order = some next) :
    next.Sound := by
  unfold TtsService.sweep at stepped
  split at stepped
  · rename_i all
    obtain ⟨sweeping, perm⟩ := all
    cases stepped
    exact {
      sound with
      fits := by
        intro other
        have fits := sound.fits other
        have now : TtsService.requestView { service with
            inFlight := []
            stopping := .calling order } other =
            { service.requestView other with
              inFlight := 0
              sweeping := (service.requestView other).inFlight } := by
          ext1
          all_goals try rfl
          exact perm.count_eq other
        have idle : (service.requestView other).sweeping = 0 := by
          dsimp only [requestView]
          rw [sweeping]
          rfl
        have holders := fits.holders
        rw [now]
        exact { fits with
          holders := by
            dsimp only
            omega
          flow := fun some_ => absurd rfl some_ }
      started := fun running => absurd (sweeping.symm.trans (sound.started running)) nofun
      joined := fun _ => sound.joined (by rw [sweeping]; rfl)
      swept := fun _ => rfl
      returned := fun returned => absurd (sweeping.symm.trans (sound.returned returned)) nofun }
  · cases stepped

theorem Sound.stopCall (stepped : service.stopCall = some next) : next.Sound := by
  unfold TtsService.stopCall at stepped
  cases here : service.stopping with
  | no | joining | sweeping | stopped =>
    rw [here] at stepped
    cases stepped
  | calling order =>
    have exited := sound.joined (by rw [here]; rfl)
    have swept := sound.swept (by rw [here]; rfl)
    have started : service.running = true → False := fun running =>
      absurd (here.symm.trans (sound.started running)) nofun
    rw [here] at stepped
    cases order with
    | nil =>
      cases stepped
      exact {
        sound with
        fits := by
          intro other
          have now : TtsService.requestView { service with
              stopping := .stopped
              stopReturned := true } other = service.requestView other := by
            ext1
            all_goals try rfl
            dsimp only [requestView]
            rw [here]
            rfl
          rw [now]
          exact sound.fits other
        started := fun running => (started running).elim
        joined := fun _ => exited
        swept := fun _ => swept
        returned := fun _ => rfl }
    | cons taskId rest =>
      cases stepped
      have silent : ∀ worker < service.workers,
          chunksOf ((service.loops worker).called taskId) = [] := by
        intro worker inside
        rw [exited worker inside]
        rfl
      have counted : ∀ other, (service.requestView other).sweeping =
          rest.count other + if taskId = other then 1 else 0 := by
        intro other
        dsimp only [requestView]
        rw [here]
        simp [Stopping.rest, List.count_cons]
      have own := counted taskId
      rw [if_pos rfl] at own
      exact {
        sound with
        fits := by
          refine sound.fits_of taskId { service.requestView taskId with
            sweeping := rest.count taskId
            told := (service.requestView taskId).told ++ [.finish .cancelled] } ?_
            ((sound.fits taskId).ended (sound.called_of_worker silent) (by omega))
            fun other mine => ?_
          · ext1
            all_goals try rfl
            exact told_tell.trans (by rw [if_pos rfl]; rfl)
          · have swept := counted other
            rw [if_neg (Ne.symm mine)] at swept
            ext1
            all_goals try rfl
            · exact swept.symm
            · exact told_tell.trans (by rw [if_neg mine, List.append_nil]; rfl)
        started := fun running => (started running).elim
        joined := fun _ => exited
        swept := fun _ => swept
        returned := fun returned => absurd (here.symm.trans (sound.returned returned)) nofun }

theorem Sound.takeTask (stepped : service.takeTask worker = some next) : next.Sound := by
  unfold TtsService.takeTask at stepped
  cases queue : service.taskQueue with
  | nil =>
    rw [queue] at stepped
    cases stepped
  | cons task rest =>
    rw [queue] at stepped
    dsimp only at stepped
    have kept : ∀ other ∈ rest, other.done = false →
        service.generating other.taskId = .returned true ∧ service.worker other.taskId = none :=
      fun other member => sound.queued other (by rw [queue]; exact List.mem_cons_of_mem _ member)
    have distinct := sound.distinct
    rw [queue] at distinct
    split at stepped <;> cases stepped
    rename_i inside
    cases done : task.done with
    | true =>
      exact { sound with
        fits := sound.fits
        queued := kept
        distinct := by simpa [done] using distinct }
    | false =>
      obtain ⟨accepted, untaken⟩ := sound.queued task (by rw [queue]; exact List.mem_cons_self) done
      simp only [List.filter_cons, done, decide_true, if_true, List.map_cons,
        List.nodup_cons] at distinct
      have apart : ∀ other ∈ rest, other.done = false → other.taskId ≠ task.taskId := by
        intro other member live same
        exact distinct.1 (List.mem_map.mpr ⟨other, List.mem_filter.mpr
          ⟨member, decide_eq_true live⟩, same⟩)
      -- No message of the task is anywhere yet.
      have unnamed : ∀ elsewhere, ¬ (service.loops elsewhere).Names task.taskId := by
        intro elsewhere names
        exact absurd (untaken.symm.trans (sound.loops elsewhere task.taskId names)) nofun
      have unsent : ∀ elsewhere message, some message ∈ service.audioQueues elsewhere →
          message.taskId ≠ task.taskId := by
        intro elsewhere message member same
        have taken := sound.queues elsewhere message member
        rw [same, untaken] at taken
        cases taken
      obtain ⟨streamed, called, waiting, spoken⟩ := (sound.fits task.taskId).unclaimed untaken
      have idle : (service.loops worker).called task.taskId = [] ∧
          (service.loops worker).handled task.taskId = [] := by
        cases loop : service.loops worker with
        | checking | popping | exited => exact ⟨rfl, rfl⟩
        | handling message =>
          exact ⟨rfl, if_neg fun both => unnamed worker (by rw [loop]; exact both.1)⟩
        | calling request event =>
          exact ⟨if_neg fun same => unnamed worker (by rw [loop]; exact same), rfl⟩
      have empty : waitingChunks task.taskId (service.audioQueues worker) = [] := by
        refine List.flatMap_eq_nil_iff.mpr fun message member => ?_
        cases message with
        | none => rfl
        | some message => exact if_neg fun both => unsent worker message member both.1
      exact {
        sound with
        fits := by
          rw [if_neg Bool.false_ne_true]
          refine sound.fits_of task.taskId
            { service.requestView task.taskId with worker := some worker } ?_
            { sound.fits task.taskId with
              taken := fun _ => accepted
              untaken := nofun } fun other mine => ?_
          · ext1
            all_goals try rfl
            · exact Function.update_self ..
            · dsimp only [requestView]
              rw [Function.update_self, untaken]
              exact idle.1
            · dsimp only [requestView]
              rw [Function.update_self, untaken]
              dsimp only [Option.elim_some, Option.elim_none]
              rw [idle.2, empty]
              rfl
          · ext1
            all_goals try rfl
            all_goals
              dsimp only [requestView]
              rw [Function.update_of_ne mine]
        loops := by
          intro elsewhere other names
          have same : other ≠ task.taskId := by
            rintro rfl
            exact unnamed elsewhere names
          rw [if_neg Bool.false_ne_true]
          exact (Function.update_of_ne same ..).trans (sound.loops elsewhere other names)
        queues := by
          intro elsewhere message member
          rw [if_neg Bool.false_ne_true]
          exact (Function.update_of_ne (unsent elsewhere message member) ..).trans
            (sound.queues elsewhere message member)
        workers := by
          intro other elsewhere taken
          rw [if_neg Bool.false_ne_true] at taken
          dsimp only at taken
          by_cases mine : other = task.taskId
          · rw [mine, Function.update_self] at taken
            cases taken
            exact inside
          · rw [Function.update_of_ne mine] at taken
            exact sound.workers other elsewhere taken
        queued := by
          intro other member live
          obtain ⟨accepted, untaken⟩ := kept other member live
          rw [if_neg Bool.false_ne_true]
          exact ⟨accepted, (Function.update_of_ne (apart other member live) ..).trans untaken⟩
        distinct := distinct.2 }

theorem Sound.sendMessage {message : Message}
    (stepped : service.sendMessage worker message = some next) : next.Sound := by
  unfold TtsService.sendMessage at stepped
  split at stepped
  · rename_i mine
    cases stepped
    have put : ∀ other, (service.put ++ [message]).flatMap (Message.spokenTo other) =
        service.streamed other ++ message.spokenTo other := by
      intro other
      rw [List.flatMap_append]
      simp [streamed]
    have now : ∀ other, TtsService.requestView { service with
        audioQueues := Function.update service.audioQueues worker
          (service.audioQueues worker ++ [some message])
        put := service.put ++ [message] } other =
        { service.requestView other with
          waiting := (service.requestView other).waiting ++ message.spokenTo other
          streamed := (service.requestView other).streamed ++ message.spokenTo other } := by
      intro other
      ext1
      all_goals try rfl
      · dsimp only [requestView]
        cases taken : service.worker other with
        | none =>
          have apart : message.taskId ≠ other := by
            rintro rfl
            exact absurd (taken.symm.trans mine) nofun
          dsimp only [Option.elim_none]
          rw [Message.spokenTo, if_neg fun both => apart both.1]
          rfl
        | some elsewhere =>
          dsimp only [Option.elim_some]
          by_cases here : elsewhere = worker
          · rw [here, Function.update_self, waitingChunks_append, List.append_assoc]
            simp [waitingChunks]
          · have apart : message.taskId ≠ other := by
              rintro rfl
              rw [taken] at mine
              exact here (Option.some.inj mine)
            rw [Function.update_of_ne here, Message.spokenTo, if_neg fun both => apart both.1,
              List.append_nil]
      · exact put other
    exact {
      sound with
      fits := by
        intro other
        have fits := sound.fits other
        rw [now]
        exact { fits with
          spoken := fits.spoken.trans (List.prefix_append _ _)
          flow := by
            intro some_
            dsimp only
            rw [← fits.flow some_, List.append_assoc]
            simp
          untaken := by
            intro untaken
            have apart : message.taskId ≠ other := by
              rintro rfl
              exact absurd (mine.symm.trans untaken) nofun
            dsimp only
            rw [Message.spokenTo, if_neg fun both => apart both.1, List.append_nil,
              List.append_nil]
            exact fits.untaken untaken }
      queues := by
        intro elsewhere other member
        by_cases here : elsewhere = worker
        · rw [here, show TtsService.audioQueues _ worker = _ from Function.update_self ..] at member
          rw [here]
          rcases List.mem_append.mp member with old | added
          · exact sound.queues worker other old
          · cases List.mem_singleton.mp added
            exact mine
        · rw [show TtsService.audioQueues _ elsewhere = _ from
            Function.update_of_ne here ..] at member
          exact sound.queues elsewhere other member }
  · cases stepped

theorem Sound.step (meets : service.Meets label) (stepped : service.step label = some next) :
    next.Sound := by
  cases label with
  | generate taskId ready prepared => exact sound.generate stepped
  | register taskId => exact sound.register meets stepped
  | push task accepted => exact sound.push stepped
  | rollBack taskId => exact sound.rollBack meets stepped
  | cancel taskId =>
    cases stepped
    exact sound.cancel
  | cancelNext index room => exact sound.cancelNext meets stepped
  | check worker => exact sound.check stepped
  | pop worker => exact sound.pop stepped
  | handle worker => exact sound.handle stepped
  | call worker => exact sound.call stepped
  | stop =>
    cases stepped
    exact sound.stop meets
  | join => exact sound.join stepped
  | sweep order => exact sound.sweep stepped
  | stopCall => exact sound.stopCall stepped
  | takeTask worker => exact sound.takeTask stepped
  | takeCancel worker =>
    change service.takeCancel worker = some next at stepped
    unfold TtsService.takeCancel at stepped
    split at stepped <;> cases stepped
    exact { sound with fits := sound.fits }
  | put worker message => exact sound.sendMessage stepped

end

/-- In every run in which no `cancel` overtakes an audio loop, `generate` rolls back only what is
still registered, nothing is registered after the sweep of `stop` and no second `stop` comes before
the first has returned: every callback is told chunks that its worker has sent, in order, and at
most one end after them; one that belongs to a `generate` that threw or returned false is told
nothing; and after `stop` has returned, every accepted request was told its end, but for those that
a `cancel` has taken and is about to tell. -/
theorem callbacks_end_once {config : TtsConfig} {workers : Nat}
    (reached : Reaches step Meets (start config workers) service) :
    (∀ taskId, ∃ chunks ends, service.told taskId = chunks ++ ends ∧
      chunks <+: service.streamed taskId ∧ ends.length ≤ 1 ∧
      ∀ event ∈ ends, event.isFinish = true) ∧
    (∀ taskId, service.generating taskId = .threw ∨ service.generating taskId = .returned false →
      service.told taskId = []) ∧
    (service.stopReturned = true → ∀ taskId, service.generating taskId = .returned true →
      (endsOf (service.told taskId)).length = 1 ∨
      ∃ cancelling ∈ service.cancelling, cancelling.takes = true ∧
        cancelling.taskId = taskId) := by
  have sound : service.Sound :=
    reached.invariant Sound (sound_start config workers) fun _ _ _ sound meets stepped =>
      sound.step meets stepped
  refine ⟨fun taskId => ?_, fun taskId failed => ?_, fun returned taskId accepted => ?_⟩
  · have fits := sound.fits taskId
    have holders := fits.holders
    have few := Bool.toNat_le (service.requestView taskId).generating.active
    refine ⟨chunksOf (service.told taskId), endsOf (service.told taskId), fits.grammar,
      (List.prefix_append _ _).trans fits.spoken, ?_, fun event member => ?_⟩
    · change (endsOf (service.requestView taskId).told).length ≤ 1
      omega
    · exact (List.mem_filter.mp member).2
  · have fits := sound.fits taskId
    have before : service.generating taskId ≠ .returned true := by
      intro accepted
      rw [accepted] at failed
      rcases failed with threw | refused
      · cases threw
      · cases refused
    have spoken := (fits.unclaimed (sound.unclaimed before)).2.2.2
    have holders := fits.holders
    have idle : (service.requestView taskId).generating.active = false := by
      dsimp only [requestView]
      rcases failed with threw | refused
      · rw [threw]
        rfl
      · rw [refused]
        rfl
    rw [idle] at holders
    have ends : endsOf (service.requestView taskId).told = [] := by
      refine List.length_eq_zero_iff.mp ?_
      have holders : _ = 0 := holders
      omega
    have grammar := fits.grammar
    rw [spoken, ends] at grammar
    exact grammar
  · have stopped := sound.returned returned
    have fits := sound.fits taskId
    have holders := fits.holders
    have active : (service.requestView taskId).generating.active = true := by
      dsimp only [requestView]
      rw [accepted]
      rfl
    have table : (service.requestView taskId).inFlight = 0 := by
      dsimp only [requestView]
      rw [sound.swept (by rw [stopped]; rfl)]
      rfl
    have sweeping : (service.requestView taskId).sweeping = 0 := by
      dsimp only [requestView]
      rw [stopped]
      rfl
    have called : endsOf (service.requestView taskId).called = [] := by
      have exited := sound.joined (by rw [stopped]; rfl)
      dsimp only [requestView]
      cases taken : service.worker taskId with
      | none => rfl
      | some worker =>
        dsimp only [Option.elim_some]
        rw [exited worker (sound.workers taskId worker taken)]
        rfl
    rw [active, table, sweeping, called] at holders
    by_cases taking : (service.requestView taskId).taking = 0
    · left
      have holders : 0 + _ + 0 + 0 + (endsOf (service.told taskId)).length = 1 := holders
      omega
    · obtain ⟨cancelling, member, both⟩ := List.countP_pos_iff.mp (Nat.pos_of_ne_zero taking)
      exact .inr ⟨cancelling, member, of_decide_eq_true both⟩

/-- A request is accepted, gets a chunk and its end, and the service stops. -/
def servedRequest : List ServiceLabel :=
  [.generate 7 true true, .register 7, .push { taskId := 7 } true, .takeTask 0,
    .put 0 (.chunk 7 0 24000 1 [3]), .put 0 (.finish 7 .completed ""), .check 0, .pop 0, .handle 0,
    .call 0, .check 0, .pop 0, .handle 0, .call 0, .stop, .check 0, .join, .sweep [], .stopCall]

def oneWorker : TtsConfig where
  maxUsers := 1
  taskQueueCapacity := 2
  audioQueueCapacity := 2
  voiceSampleCacheSize := 0
  compilePromptTokens _ _ _ := .ok [1]

theorem servedRequest_runs :
    (runWithin step Meets (start oneWorker 1) servedRequest).isSome = true := by
  decide +kernel

theorem callbacks_end_once_servedRequest :
    (endsOf (((runWithin step Meets (start oneWorker 1) servedRequest).get
      servedRequest_runs).told 7)).length = 1 := by
  refine ((callbacks_end_once (reaches_get servedRequest_runs)).2.2 (by decide +kernel) 7
    (by decide +kernel)).resolve_right ?_
  rintro ⟨cancelling, member, _⟩
  have none_ : ((runWithin step Meets (start oneWorker 1) servedRequest).get
    servedRequest_runs).cancelling = [] := by decide +kernel
  rw [none_] at member
  cases member

/-- The audio loop has copied the callback for a chunk when the request is cancelled. -/
def overtaken : List ServiceLabel :=
  [.generate 7 true true, .register 7, .push { taskId := 7 } true, .takeTask 0,
    .put 0 (.chunk 7 0 24000 1 [3]), .check 0, .pop 0, .handle 0, .cancel 7, .cancelNext 0 true,
    .cancelNext 0 true, .call 0]

/-- A request is cancelled before its task is pushed, and the push fails. -/
def refusedLate : List ServiceLabel :=
  [.generate 7 true true, .register 7, .cancel 7, .cancelNext 0 true, .cancelNext 0 true,
    .push { taskId := 7 } false, .rollBack 7]

/-- A request passes the check of `running`, and is registered when all is stopped. -/
def registeredLate : List ServiceLabel :=
  [.generate 7 true true, .stop, .check 0, .join, .sweep [], .stopCall, .register 7,
    .push { taskId := 7 } true]

theorem overtaken_runs : (runWithin step (fun _ _ => True) (start oneWorker 1)
    overtaken).isSome = true := by
  decide +kernel

theorem refusedLate_runs : (runWithin step (fun _ _ => True) (start oneWorker 1)
    refusedLate).isSome = true := by
  decide +kernel

theorem registeredLate_runs : (runWithin step (fun _ _ => True) (start oneWorker 1)
    registeredLate).isSome = true := by
  decide +kernel

/-- The chunk comes after the end; a callback is told an end although `generate` threw; and an
accepted request is never told its end. -/
theorem callbacks_misled :
    ((runWithin step (fun _ _ => True) (start oneWorker 1) overtaken).get
      overtaken_runs).told 7 = [.finish .cancelled, .chunk 0 24000 1 [3]] ∧
    ((runWithin step (fun _ _ => True) (start oneWorker 1) refusedLate).get
      refusedLate_runs).generating 7 = .threw ∧
    ((runWithin step (fun _ _ => True) (start oneWorker 1) refusedLate).get
      refusedLate_runs).told 7 = [.finish .cancelled] ∧
    ((runWithin step (fun _ _ => True) (start oneWorker 1) registeredLate).get
      registeredLate_runs).stopReturned = true ∧
    ((runWithin step (fun _ _ => True) (start oneWorker 1) registeredLate).get
      registeredLate_runs).generating 7 = .returned true ∧
    ((runWithin step (fun _ _ => True) (start oneWorker 1) registeredLate).get
      registeredLate_runs).told 7 = [] ∧
    ((runWithin step (fun _ _ => True) (start oneWorker 1) registeredLate).get
      registeredLate_runs).cancelling = [] := by
  decide +kernel

end InferenceServer.Tts.TtsService
