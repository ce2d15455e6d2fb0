import InferenceServer.Tts.TtsRequests

/-! The audio loops: each takes the messages of its worker one by one, and tells the callbacks. -/
namespace InferenceServer.Tts.TtsService

variable {service next : TtsService} {taskId worker : Nat}
variable {loop : AudioLoop}

/-- Only the request that a loop has in hand before or after sees the change of the loop. -/
theorem view_setLoop {other : Nat} (before : ¬ (service.loops worker).Names other)
    (after : ¬ loop.Names other) :
    (service.setLoop worker loop).requestView other = service.requestView other := by
  have none_ : ∀ {loop : AudioLoop}, ¬ loop.Names other →
      loop.called other = [] ∧ loop.handled other = [] := by
    intro loop idle
    cases loop with
    | checking | popping | exited => exact ⟨rfl, rfl⟩
    | handling message => exact ⟨rfl, if_neg fun both => idle both.1⟩
    | calling request event => exact ⟨if_neg idle, rfl⟩
  ext1
  all_goals try rfl
  all_goals
    dsimp only [requestView, setLoop]
    cases taken : service.worker other with
    | none => rfl
    | some elsewhere =>
      dsimp only [Option.elim_some]
      by_cases here : elsewhere = worker
      · rw [here, Function.update_self]
        first
          | rw [(none_ before).1, (none_ after).1]
          | rw [(none_ before).2, (none_ after).2]
      · rw [Function.update_of_ne here]

section

variable (sound : service.Sound)
include sound

/-- A loop that goes on has not ended, and the others are where they were. -/
theorem Sound.joined_setLoop (running : service.loops worker ≠ .exited)
    (joined : service.stopping.joined = true) (elsewhere : Nat)
    (inside : elsewhere < service.workers) :
    (service.setLoop worker loop).loops elsewhere = .exited := by
  have exited := sound.joined joined elsewhere inside
  have apart : elsewhere ≠ worker := by
    rintro rfl
    exact running exited
  exact (Function.update_of_ne apart ..).trans exited

theorem Sound.loops_setLoop
    (named : ∀ taskId, loop.Names taskId → service.worker taskId = some worker)
    (elsewhere taskId : Nat) (names : ((service.setLoop worker loop).loops elsewhere).Names taskId) :
    service.worker taskId = some elsewhere := by
  by_cases here : elsewhere = worker
  · rw [here, show (service.setLoop worker loop).loops worker = loop from
      Function.update_self ..] at names
    exact here ▸ named taskId names
  · rw [show (service.setLoop worker loop).loops elsewhere = service.loops elsewhere from
      Function.update_of_ne here ..] at names
    exact sound.loops elsewhere taskId names

/-- A loop goes on with nothing of a request in hand, before or after. -/
theorem Sound.idles (before : ∀ taskId, ¬ (service.loops worker).Names taskId)
    (after : ∀ taskId, ¬ loop.Names taskId) (running : service.loops worker ≠ .exited) :
    (service.setLoop worker loop).Sound := by
  have view := fun other => @view_setLoop service _ _ _ (before other) (after other)
  exact {
    sound with
    fits := fun other => view other ▸ sound.fits other
    loops := sound.loops_setLoop fun other names => absurd names (after other)
    joined := sound.joined_setLoop running }

theorem Sound.check (stepped : service.check worker = some next) : next.Sound := by
  unfold TtsService.check at stepped
  cases loop : service.loops worker with
  | checking =>
    rw [loop] at stepped
    dsimp only at stepped
    split at stepped <;> cases stepped
    refine sound.idles (fun taskId names => ?_) (fun taskId names => ?_) ?_
    · rw [loop] at names
      exact names
    · split at names <;> exact names
    · rw [loop]
      nofun
  | popping | handling | calling | exited =>
    rw [loop] at stepped
    cases stepped

/-- A loop takes a message out of its queue. -/
theorem Sound.pop (stepped : service.pop worker = some next) : next.Sound := by
  unfold TtsService.pop at stepped
  cases loop : service.loops worker with
  | checking | handling | calling | exited =>
    rw [loop] at stepped
    cases stepped
  | popping =>
    rw [loop] at stepped
    cases queue : service.audioQueues worker with
    | nil =>
      rw [queue] at stepped
      cases stepped
    | cons message rest =>
      rw [queue] at stepped
      cases stepped
      have view : ∀ other, TtsService.requestView { service.setLoop worker
          (message.elim .exited .handling) with
          audioQueues := Function.update service.audioQueues worker rest } other =
          service.requestView other := by
        intro other
        ext1
        all_goals try rfl
        all_goals
          dsimp only [requestView, setLoop]
          cases taken : service.worker other with
          | none => rfl
          | some elsewhere =>
            dsimp only [Option.elim_some]
            by_cases here : elsewhere = worker
            · rw [here, Function.update_self, loop]
              cases message with
              | none => first | rfl | (rw [Function.update_self, queue]; rfl)
              | some message => first | rfl | (rw [Function.update_self, queue]; rfl)
            · first
                | rw [Function.update_of_ne here, Function.update_of_ne here]
                | rw [Function.update_of_ne here]
      exact {
        sound with
        fits := fun other => view other ▸ sound.fits other
        loops := by
          refine sound.loops_setLoop fun other names => ?_
          cases message with
          | none => exact names.elim
          | some message =>
            have names : message.taskId = other := names
            rw [← names]
            exact sound.queues worker message (by rw [queue]; exact List.mem_cons_self)
        queues := by
          intro elsewhere sent member
          by_cases here : elsewhere = worker
          · rw [here, show TtsService.audioQueues _ worker = _ from
              Function.update_self ..] at member
            rw [here]
            exact sound.queues worker sent (by rw [queue]; exact List.mem_cons_of_mem _ member)
          · rw [show TtsService.audioQueues _ elsewhere = _ from
              Function.update_of_ne here ..] at member
            exact sound.queues elsewhere sent member
        joined := sound.joined_setLoop (by rw [loop]; nofun) }

end

/-- The request that a loop has in hand. -/
theorem view_setLoop_mine (mine : service.worker taskId = some worker) :
    (service.setLoop worker loop).requestView taskId = { service.requestView taskId with
      called := loop.called taskId
      waiting := loop.handled taskId ++ waitingChunks taskId (service.audioQueues worker) } := by
  ext1
  all_goals try rfl
  all_goals
    dsimp only [requestView, setLoop]
    rw [mine]
    dsimp only [Option.elim_some]
    rw [Function.update_self]

theorem view_mine (mine : service.worker taskId = some worker) :
    (service.requestView taskId).called = (service.loops worker).called taskId ∧
    (service.requestView taskId).waiting = (service.loops worker).handled taskId ++
      waitingChunks taskId (service.audioQueues worker) := by
  dsimp only [requestView]
  rw [mine]
  exact ⟨rfl, rfl⟩

/-- A loop goes on with the same request in hand, or with none. -/
theorem Sound.follows {inFlight : List Nat} {events : List (Nat × TtsEvent)} (sound : service.Sound)
    (names : (service.loops worker).Names taskId)
    (after : ∀ other, loop.Names other → other = taskId)
    (fits : (TtsService.requestView { service.setLoop worker loop with inFlight, events }
      taskId).Fits)
    (table : ∀ other, other ≠ taskId → inFlight.count other = service.inFlight.count other)
    (told : ∀ other, other ≠ taskId → TtsService.told { service with events } other =
      service.told other) (swept : service.inFlight = [] → inFlight = []) :
    TtsService.Sound { service.setLoop worker loop with inFlight, events } := { sound with
  fits := by
    intro other
    by_cases here : other = taskId
    · exact here ▸ fits
    · have same : ¬ (service.loops worker).Names other := by
        intro mine
        have one := names
        cases loop : service.loops worker with
        | checking | popping | exited =>
          rw [loop] at mine
          exact mine
        | handling message =>
          rw [loop] at mine one
          exact here (mine.symm.trans one)
        | calling request event =>
          rw [loop] at mine one
          exact here (mine.symm.trans one)
      have view := view_setLoop same fun mine => here (after other mine)
      have now : TtsService.requestView { service.setLoop worker loop with inFlight, events }
          other = service.requestView other := by
        rw [← view]
        ext1
        all_goals first
          | rfl
          | exact table other here
          | exact told other here
      rw [now]
      exact sound.fits other
  loops := sound.loops_setLoop fun other mine => by
    rw [after other mine]
    exact sound.loops worker taskId names
  joined := by
    refine sound.joined_setLoop fun exited => ?_
    rw [exited] at names
    exact names
  swept := fun all => swept (sound.swept all) }

theorem spokenTo_self {message : Message} (chunk : message.event.isFinish = false) :
    message.spokenTo message.taskId = [message.event] := if_pos ⟨rfl, chunk⟩

theorem Sound.handle (sound : service.Sound) (stepped : service.handle worker = some next) :
    next.Sound := by
  unfold TtsService.handle at stepped
  cases loop : service.loops worker with
  | checking | popping | calling | exited =>
    rw [loop] at stepped
    cases stepped
  | handling message =>
    rw [loop] at stepped
    dsimp only at stepped
    have names : (service.loops worker).Names message.taskId := by
      rw [loop]
      rfl
    have mine := sound.loops worker message.taskId names
    have fits := sound.fits message.taskId
    obtain ⟨called, waiting⟩ := view_mine mine
    rw [loop] at called waiting
    have called : (service.requestView message.taskId).called = [] := called
    split at stepped
    · rename_i there
      have counted : 0 < (service.requestView message.taskId).inFlight :=
        List.count_pos_iff.mpr there
      have holders := fits.holders
      have few := Bool.toNat_le (service.requestView message.taskId).generating.active
      cases chunk : message.event.isFinish with
      | false =>
        rw [chunk, if_neg Bool.false_ne_true] at stepped
        cases stepped
        refine sound.follows names (fun other same => same.symm) ?_ (fun _ _ => rfl) (fun _ _ => rfl)
          id
        have flow := fits.flow (Nat.ne_of_gt counted)
        rw [waiting, called] at flow
        have spoken : AudioLoop.handled message.taskId (.handling message) = [message.event] :=
          spokenTo_self chunk
        rw [spoken] at flow
        have view := @view_setLoop_mine service message.taskId worker
          (.calling message.taskId message.event) mine
        have now : AudioLoop.called message.taskId (.calling message.taskId message.event) =
          [message.event] := if_pos rfl
        have chunks : chunksOf [message.event] = [message.event] := by simp [chunksOf, chunk]
        have ends : endsOf [message.event] = [] := by simp [endsOf, chunk]
        rw [now] at view
        refine Eq.mpr (congrArg RequestView.Fits view) ?_
        refine ⟨?_, fits.grammar, fun _ => ?_, ?_, fun _ => ?_, fits.taken, fun untaken => ?_⟩
        · dsimp only
          rw [ends]
          rw [called] at holders
          exact holders
        · refine List.length_eq_zero_iff.mp ?_
          dsimp only
          omega
        · dsimp only
          rw [chunks, ← flow]
          exact ⟨waitingChunks message.taskId (service.audioQueues worker), by simp [chunksOf]⟩
        · dsimp only
          rw [chunks, ← flow]
          simp [chunksOf, AudioLoop.handled]
        · cases mine.symm.trans untaken
      | true =>
        rw [chunk, if_pos rfl] at stepped
        cases stepped
        refine @Sound.follows service message.taskId worker _ _ service.events sound names
          (fun other same => same.symm) ?_ (fun other apart => List.count_erase_of_ne apart)
          (fun _ _ => rfl) fun none_ => by rw [none_]; rfl
        have view := @view_setLoop_mine service message.taskId worker
          (.calling message.taskId message.event) mine
        have now : AudioLoop.called message.taskId (.calling message.taskId message.event) =
          [message.event] := if_pos rfl
        have chunks : chunksOf [message.event] = [] := by simp [chunksOf, chunk]
        have ends : endsOf [message.event] = [message.event] := by simp [endsOf, chunk]
        rw [now] at view
        have nowCalled := congrArg RequestView.called view
        have nowWaiting := congrArg RequestView.waiting view
        have erased : TtsService.requestView { service.setLoop worker
            (.calling message.taskId message.event) with
            inFlight := service.inFlight.erase message.taskId } message.taskId =
            { service.requestView message.taskId with
              inFlight := (service.requestView message.taskId).inFlight - 1
              called := [message.event]
              waiting := waitingChunks message.taskId (service.audioQueues worker) } := by
          ext1
          all_goals first
            | rfl
            | exact List.count_erase_self
            | exact nowCalled
            | exact nowWaiting
        rw [called] at holders
        have none_ : (endsOf ([] : List TtsEvent)).length = 0 := rfl
        refine Eq.mpr (congrArg RequestView.Fits erased) ?_
        refine ⟨?_, fits.grammar, fun some_ => absurd chunks some_, ?_, fun some_ => ?_, fits.taken,
          fun untaken => ?_⟩
        · dsimp only
          rw [ends, List.length_singleton]
          omega
        · dsimp only
          rw [chunks]
          have spoken := fits.spoken
          rw [called] at spoken
          exact spoken
        · dsimp only at some_
          omega
        · cases mine.symm.trans untaken
    · rename_i gone
      cases stepped
      refine @Sound.follows service message.taskId worker .checking service.inFlight
        service.events sound names (by rintro _ ⟨⟩) ?_ (fun _ _ => rfl) (fun _ _ => rfl) id
      have view := @view_setLoop_mine service message.taskId worker .checking mine
      refine Eq.mpr (congrArg RequestView.Fits view) ?_
      have spoken := fits.spoken
      have holders := fits.holders
      rw [called] at spoken holders
      refine ⟨holders, fits.grammar, fun some_ => absurd rfl some_, spoken, fun some_ => ?_,
        fits.taken, fun untaken => ?_⟩
      · exact absurd (List.count_eq_zero.mpr gone) some_
      · cases mine.symm.trans untaken

theorem Sound.call (sound : service.Sound) (stepped : service.call worker = some next) :
    next.Sound := by
  unfold TtsService.call at stepped
  cases loop : service.loops worker with
  | checking | popping | handling | exited =>
    rw [loop] at stepped
    cases stepped
  | calling taskId event =>
    rw [loop] at stepped
    cases stepped
    have names : (service.loops worker).Names taskId := by
      rw [loop]
      rfl
    have mine := sound.loops worker taskId names
    have fits := sound.fits taskId
    obtain ⟨called, waiting⟩ := view_mine mine
    rw [loop] at called waiting
    have called : (service.requestView taskId).called = [event] := called.trans (if_pos rfl)
    refine @Sound.follows service taskId worker .checking service.inFlight
      (service.events ++ [(taskId, event)]) sound names nofun ?_ (fun _ _ => rfl) ?_ id
    · have view := @view_setLoop_mine service taskId worker .checking mine
      have nowCalled := congrArg RequestView.called view
      have nowWaiting := congrArg RequestView.waiting view
      have now : TtsService.requestView { service.setLoop worker .checking with
          events := service.events ++ [(taskId, event)] } taskId =
          { service.requestView taskId with
            called := []
            told := (service.requestView taskId).told ++ [event] } := by
        ext1
        all_goals try rfl
        · exact nowCalled
        · exact nowWaiting.trans waiting.symm
        · exact told_tell.trans (by rw [if_pos rfl]; rfl)
      exact Eq.mpr (congrArg RequestView.Fits now) (fits.told called)
    · intro other apart
      exact told_tell.trans (by rw [if_neg apart, List.append_nil])

end InferenceServer.Tts.TtsService
