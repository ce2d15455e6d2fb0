import InferenceServer.Tts.TtsService
import Mathlib.Data.List.Count

/-! The callback of a request is in one place: in the table, with a call that has taken it, or told
its end. The chunks of a request go one way, from its worker to its callback. -/
namespace InferenceServer.Tts

/-- The chunks of a request. -/
def Message.spokenTo (taskId : Nat) (message : Message) : List TtsEvent :=
  if message.taskId = taskId ∧ message.event.isFinish = false then [message.event] else []

def AudioLoop.handled (taskId : Nat) : AudioLoop → List TtsEvent
  | .handling message => message.spokenTo taskId
  | _ => []

/-- The loop has a message of the request in hand. -/
def AudioLoop.Names (taskId : Nat) : AudioLoop → Prop
  | .handling message => message.taskId = taskId
  | .calling other _ => other = taskId
  | _ => False

/-- The chunks of a request among the messages of an audio queue. -/
def waitingChunks (taskId : Nat) (queue : List (Option Message)) : List TtsEvent :=
  queue.flatMap fun message => message.elim [] (Message.spokenTo taskId)

/-- What the service holds of a request. -/
@[ext] structure RequestView where
  generating : Generating
  inFlight : Nat
  taking : Nat
  worker : Option Nat
  called : List TtsEvent
  waiting : List TtsEvent
  sweeping : Nat
  told : List TtsEvent
  streamed : List TtsEvent

def Generating.active : Generating → Bool
  | .registered | .refused | .returned true => true
  | .idle | .prepared | .returned false | .threw => false

/-- The chunks among the events of a request. -/
def chunksOf (events : List TtsEvent) : List TtsEvent := events.filter fun event => !event.isFinish

/-- The ends among the events of a request. -/
def endsOf (events : List TtsEvent) : List TtsEvent := events.filter TtsEvent.isFinish

theorem chunksOf_append (first second : List TtsEvent) :
    chunksOf (first ++ second) = chunksOf first ++ chunksOf second := List.filter_append ..

theorem endsOf_append (first second : List TtsEvent) :
    endsOf (first ++ second) = endsOf first ++ endsOf second := List.filter_append ..

structure RequestView.Fits (view : RequestView) : Prop where
  holders : view.inFlight + view.taking + (endsOf view.called).length + view.sweeping +
    (endsOf view.told).length = view.generating.active.toNat
  grammar : view.told = chunksOf view.told ++ endsOf view.told
  silent : chunksOf view.called ≠ [] → endsOf view.told = []
  spoken : chunksOf view.told ++ chunksOf view.called <+: view.streamed
  flow : view.inFlight ≠ 0 → chunksOf view.told ++ chunksOf view.called ++ view.waiting =
    view.streamed
  taken : view.worker ≠ none → view.generating = .returned true
  untaken : view.worker = none → view.streamed = [] ∧ view.called = [] ∧ view.waiting = []

/-- Nothing of a request that has no worker was sent or told. -/
theorem RequestView.Fits.unclaimed {view : RequestView} (fits : view.Fits)
    (untaken : view.worker = none) : view.streamed = [] ∧ view.called = [] ∧ view.waiting = [] ∧
      chunksOf view.told = [] := by
  obtain ⟨streamed, called, waiting⟩ := fits.untaken untaken
  have spoken := fits.spoken
  rw [streamed, List.prefix_nil, List.append_eq_nil_iff] at spoken
  exact ⟨streamed, called, waiting, spoken.1⟩

/-- The end of a request that is told by a call which had taken the callback. -/
theorem RequestView.Fits.ended {view : RequestView} {reason : FinishReason} (fits : view.Fits)
    (quiet : chunksOf view.called = []) {taking sweeping : Nat} (given : taking + sweeping + 1 = view.taking + view.sweeping) :
    { view with
      taking
      sweeping
      told := view.told ++ [TtsEvent.finish reason] }.Fits := by
  have ended : endsOf (view.told ++ [TtsEvent.finish reason]) =
    endsOf view.told ++ [.finish reason] := endsOf_append ..
  have spoken : chunksOf (view.told ++ [TtsEvent.finish reason]) = chunksOf view.told :=
    (chunksOf_append ..).trans (List.append_nil _)
  refine ⟨?_, ?_, fun some_ => absurd quiet some_, ?_, fun some_ => ?_, fits.taken, fits.untaken⟩
  · have holders := fits.holders
    dsimp only
    rw [ended, List.length_append, List.length_singleton]
    omega
  · dsimp only
    rw [ended, spoken, ← List.append_assoc, ← fits.grammar]
  · dsimp only
    rw [spoken]
    exact fits.spoken
  · dsimp only
    rw [spoken]
    exact fits.flow some_

/-- A callback is told what its loop had in hand. -/
theorem RequestView.Fits.told {view : RequestView} {event : TtsEvent} (fits : view.Fits)
    (called : view.called = [event]) :
    { view with called := [], told := view.told ++ [event] }.Fits := by
  have holders := fits.holders
  have spoken := fits.spoken
  have flow := fits.flow
  have grammar := fits.grammar
  rw [called] at holders spoken flow
  cases chunk : event.isFinish with
  | false =>
    have chunks : chunksOf [event] = [event] := by simp [chunksOf, chunk]
    have ends : endsOf [event] = [] := by simp [endsOf, chunk]
    have silent : endsOf view.told = [] := by
      refine fits.silent ?_
      rw [called, chunks]
      nofun
    rw [chunks] at spoken flow
    rw [silent, List.append_nil] at grammar
    refine ⟨?_, ?_, fun some_ => absurd rfl some_, ?_, fun some_ => ?_, fits.taken,
      fun untaken => ?_⟩
    · dsimp only
      rw [endsOf_append, ends, List.append_nil]
      rw [ends] at holders
      exact holders
    · dsimp only
      rw [chunksOf_append, endsOf_append, chunks, ends, silent, ← grammar, List.append_nil,
        List.append_nil]
    · dsimp only
      rw [chunksOf_append, chunks]
      exact (List.append_nil _).symm ▸ spoken
    · dsimp only
      rw [chunksOf_append, chunks]
      exact (List.append_nil (chunksOf view.told ++ [event])).symm ▸ flow some_
    · exact absurd ((fits.untaken untaken).2.1.symm.trans called) nofun
  | true =>
    have chunks : chunksOf [event] = [] := by simp [chunksOf, chunk]
    have ends : endsOf [event] = [event] := by simp [endsOf, chunk]
    rw [chunks] at spoken flow
    rw [ends, List.length_singleton] at holders
    have all : chunksOf (view.told ++ [event]) = chunksOf view.told := by
      rw [chunksOf_append, chunks, List.append_nil]
    refine ⟨?_, ?_, fun some_ => absurd rfl some_, ?_, fun some_ => ?_, fits.taken,
      fun untaken => ?_⟩
    · dsimp only
      rw [endsOf_append, ends, List.length_append, List.length_singleton]
      change _ + _ + 0 + _ + _ = _
      omega
    · dsimp only
      rw [all, endsOf_append, ends, ← List.append_assoc, ← grammar]
    · dsimp only
      rw [all]
      exact spoken
    · dsimp only
      rw [all]
      exact flow some_
    · exact absurd ((fits.untaken untaken).2.1.symm.trans called) nofun

namespace TtsService

variable {service next : TtsService} {taskId : Nat}

/-- What the callback of a request was told. -/
def told (service : TtsService) (taskId : Nat) : List TtsEvent :=
  (service.events.filter (·.1 = taskId)).map (·.2)

/-- The chunks that the workers have sent of a request. -/
def streamed (service : TtsService) (taskId : Nat) : List TtsEvent :=
  service.put.flatMap (Message.spokenTo taskId)

def requestView (service : TtsService) (taskId : Nat) : RequestView where
  generating := service.generating taskId
  inFlight := service.inFlight.count taskId
  taking := service.cancelling.countP fun cancelling => cancelling.takes ∧
    cancelling.taskId = taskId
  worker := service.worker taskId
  called := (service.worker taskId).elim [] fun worker => (service.loops worker).called taskId
  waiting := (service.worker taskId).elim [] fun worker => (service.loops worker).handled taskId ++
    waitingChunks taskId (service.audioQueues worker)
  sweeping := service.stopping.rest.count taskId
  told := service.told taskId
  streamed := service.streamed taskId

structure Sound (service : TtsService) : Prop where
  fits : ∀ taskId, (service.requestView taskId).Fits
  loops : ∀ worker taskId, (service.loops worker).Names taskId →
    service.worker taskId = some worker
  queues : ∀ worker message, some message ∈ service.audioQueues worker →
    service.worker message.taskId = some worker
  workers : ∀ taskId worker, service.worker taskId = some worker → worker < service.workers
  queued : ∀ task ∈ service.taskQueue, task.done = false →
    service.generating task.taskId = .returned true ∧ service.worker task.taskId = none
  distinct : ((service.taskQueue.filter (·.done = false)).map Task.taskId).Nodup
  started : service.running = true → service.stopping = .no
  joined : service.stopping.joined = true →
    ∀ worker < service.workers, service.loops worker = .exited
  swept : service.stopping.swept = true → service.inFlight = []
  returned : service.stopReturned = true → service.stopping = .stopped

theorem sound_start (config : TtsConfig) (workers : Nat) : (start config workers).Sound where
  fits taskId := by
    refine ⟨rfl, rfl, fun _ => rfl, List.nil_prefix, fun some_ => absurd rfl some_, ?_,
      fun _ => ⟨rfl, rfl, rfl⟩⟩
    exact fun some_ => absurd rfl some_
  loops := nofun
  queues := nofun
  workers := nofun
  queued := nofun
  distinct := List.Pairwise.nil
  started := fun _ => rfl
  joined := nofun
  swept := nofun
  returned := nofun

section

variable (sound : service.Sound)
include sound

/-- A step that concerns one request leaves what is seen of the others. -/
theorem Sound.fits_of (taskId : Nat) (view : RequestView) (now : next.requestView taskId = view)
    (fits : view.Fits)
    (others : ∀ other, other ≠ taskId → next.requestView other = service.requestView other)
    (other : Nat) : (next.requestView other).Fits := by
  by_cases here : other = taskId
  · rw [here, now]
    exact fits
  · rw [others other here]
    exact sound.fits other

section

variable (before : service.generating taskId ≠ .returned true)
include before

theorem Sound.unclaimed : service.worker taskId = none := by
  by_contra some_
  exact before ((sound.fits taskId).taken some_)

/-- A task in the queue is of another call of `generate` than one that has not returned. -/
theorem Sound.still_queued {stage : Generating} (task : Task) (member : task ∈ service.taskQueue)
    (live : task.done = false) :
    (service.setGenerating taskId stage).generating task.taskId = .returned true ∧
      service.worker task.taskId = none := by
  obtain ⟨accepted, untaken⟩ := sound.queued task member live
  refine ⟨?_, untaken⟩
  have apart : task.taskId ≠ taskId := by
    rintro rfl
    exact before accepted
  exact (Function.update_of_ne apart ..).trans accepted

/-- A call of `generate` goes on, and neither its callback nor its task moves. -/
theorem Sound.generating {stage : Generating}
    (same : stage.active = (service.generating taskId).active) :
    (service.setGenerating taskId stage).Sound := by
  have fits := sound.fits taskId
  exact {
    sound with
    fits := by
      refine sound.fits_of taskId { service.requestView taskId with generating := stage } ?_
        { fits with
          holders := fits.holders.trans (congrArg Bool.toNat same.symm)
          taken := fun some_ => absurd (sound.unclaimed before) some_ } fun other here => ?_
      · ext1
        all_goals first
          | rfl
          | exact Function.update_self ..
      · ext1
        all_goals first
          | rfl
          | exact Function.update_of_ne here ..
    queued := sound.still_queued before }

end

theorem Sound.generate {ready prepared : Bool}
    (stepped : service.generate taskId ready prepared = some next) : next.Sound := by
  unfold TtsService.generate at stepped
  split at stepped
  · rename_i idle
    have before : service.generating taskId ≠ .returned true := by
      rw [idle]
      nofun
    split at stepped <;> cases stepped
    · refine sound.generating before ?_
      rw [idle]
      cases prepared <;> rfl
    · refine sound.generating before ?_
      rw [idle]
      rfl
  · cases stepped

theorem Sound.register (unswept : service.stopping.swept = false)
    (stepped : service.register taskId = some next) : next.Sound := by
  unfold TtsService.register at stepped
  split at stepped
  · rename_i prepared
    have before : service.generating taskId ≠ .returned true := by
      rw [prepared]
      nofun
    split at stepped <;> cases stepped
    · refine sound.generating before ?_
      rw [prepared]
      rfl
    · have untaken := sound.unclaimed before
      have fits := sound.fits taskId
      obtain ⟨streamed, called, waiting, spoken⟩ := fits.unclaimed untaken
      have holders := fits.holders
      rw [show (service.requestView taskId).generating = .prepared from prepared] at holders
      have holders : _ = 0 := holders
      exact {
        sound with
        fits := by
          refine sound.fits_of taskId { service.requestView taskId with
            generating := .registered
            inFlight := (service.requestView taskId).inFlight + 1 } ?_ ⟨?_, fits.grammar,
              fits.silent, fits.spoken, fun _ => ?_, fun some_ => absurd untaken some_,
              fits.untaken⟩ fun other here => ?_
          · ext1
            all_goals first
              | rfl
              | exact Function.update_self ..
              | exact List.count_append.trans (by rw [List.count_singleton_self]; rfl)
          · dsimp only
            change _ = 1
            omega
          · dsimp only
            rw [spoken, called, waiting, streamed]
            rfl
          · ext1
            all_goals first
              | rfl
              | exact Function.update_of_ne here ..
              | simp [requestView, Ne.symm here]
        queued := sound.still_queued before
        swept := by
          intro swept
          exact absurd (unswept.symm.trans swept) nofun }
  · cases stepped

theorem Sound.push {task : Task} {accepted : Bool}
    (stepped : service.push task accepted = some next) : next.Sound := by
  unfold TtsService.push at stepped
  split at stepped
  · rename_i both
    obtain ⟨registered, live⟩ := both
    have before : service.generating task.taskId ≠ .returned true := by
      rw [registered]
      nofun
    have untaken := sound.unclaimed before
    have fresh : ∀ other ∈ service.taskQueue, other.done = false →
        other.taskId ≠ task.taskId := by
      intro other member going same
      exact before (same ▸ (sound.queued other member going).1)
    split at stepped <;> cases stepped
    · have fits := sound.fits task.taskId
      have holders := fits.holders
      rw [show (service.requestView task.taskId).generating = .registered from registered]
        at holders
      exact {
        sound with
        fits := by
          refine sound.fits_of task.taskId
            { service.requestView task.taskId with generating := .returned true } ?_
            { fits with holders, taken := fun _ => rfl } fun other here => ?_
          · ext1
            all_goals first
              | rfl
              | exact Function.update_self ..
          · ext1
            all_goals first
              | rfl
              | exact Function.update_of_ne here ..
        queued := by
          intro other member going
          rcases List.mem_append.mp member with old | added
          · obtain ⟨accepted, untaken⟩ := sound.queued other old going
            exact ⟨(Function.update_of_ne (fresh other old going) ..).trans accepted, untaken⟩
          · rw [List.mem_singleton.mp added]
            exact ⟨Function.update_self .., untaken⟩
        distinct := by
          rw [List.filter_append, List.map_append]
          refine List.nodup_append.mpr ⟨sound.distinct, ?_, ?_⟩
          · exact (List.filter_sublist.map _).nodup (List.pairwise_singleton ..)
          · rintro first member second added rfl
            obtain ⟨old, kept, rfl⟩ := List.mem_map.mp member
            obtain ⟨kept, going⟩ := List.mem_filter.mp kept
            obtain ⟨new, same, names⟩ := List.mem_map.mp added
            rw [List.mem_singleton.mp (List.mem_filter.mp same).1] at names
            exact fresh old kept (of_decide_eq_true going) names.symm }
    · refine sound.generating before ?_
      rw [registered]
      rfl
  · cases stepped

theorem Sound.rollBack (there : taskId ∈ service.inFlight)
    (stepped : service.rollBack taskId = some next) : next.Sound := by
  unfold TtsService.rollBack at stepped
  split at stepped
  · rename_i refused
    cases stepped
    have before : service.generating taskId ≠ .returned true := by
      rw [refused]
      nofun
    have fits := sound.fits taskId
    have counted : 0 < (service.requestView taskId).inFlight := List.count_pos_iff.mpr there
    have holders := fits.holders
    rw [show (service.requestView taskId).generating = .refused from refused] at holders
    have holders : _ = 1 := holders
    exact {
      sound with
      fits := by
        refine sound.fits_of taskId { service.requestView taskId with
          generating := .threw
          inFlight := (service.requestView taskId).inFlight - 1 } ?_ ⟨?_, fits.grammar,
            fits.silent, fits.spoken, fun some_ => ?_,
            fun some_ => absurd (sound.unclaimed before) some_, fits.untaken⟩ fun other here => ?_
        · ext1
          all_goals first
            | rfl
            | exact Function.update_self ..
            | exact List.count_erase_self
        · dsimp only
          change _ = 0
          omega
        · dsimp only at some_
          omega
        · ext1
          all_goals first
            | rfl
            | exact Function.update_of_ne here ..
            | exact List.count_erase_of_ne here
      queued := sound.still_queued before
      swept := by
        intro swept
        rw [sound.swept swept] at there
        cases there }
  · cases stepped

theorem Sound.cancel : (service.cancel taskId).Sound := by
  have counted : ∀ other, (service.cancel taskId).requestView other =
      if other = taskId ∧ taskId ∈ service.inFlight then
        { service.requestView other with
          inFlight := (service.requestView other).inFlight - 1
          taking := (service.requestView other).taking + 1 }
      else service.requestView other := by
    intro other
    by_cases here : other = taskId
    · subst here
      by_cases there : other ∈ service.inFlight
      · rw [if_pos ⟨rfl, there⟩]
        ext1
        all_goals first
          | rfl
          | exact List.count_erase_self
          | simp [requestView, TtsService.cancel, there]
      · rw [if_neg fun both => there both.2]
        ext1
        all_goals first
          | rfl
          | exact congrArg (List.count other) (List.erase_of_not_mem there)
          | simp [requestView, TtsService.cancel, there]
    · rw [if_neg fun both => here both.1]
      ext1
      all_goals first
        | rfl
        | exact List.count_erase_of_ne here
        | simp [requestView, TtsService.cancel, Ne.symm here]
  exact {
    sound with
    fits := by
      intro other
      have fits := sound.fits other
      rw [counted]
      split
      · rename_i both
        have there : 0 < (service.requestView other).inFlight :=
          List.count_pos_iff.mpr (both.1 ▸ both.2)
        have holders := fits.holders
        have few := Bool.toNat_le (service.requestView other).generating.active
        exact { fits with
          holders := by
            dsimp only
            omega
          flow := by
            intro some_
            dsimp only at some_
            omega }
      · exact fits
    swept := by
      intro swept
      change service.inFlight.erase taskId = []
      rw [sound.swept swept]
      rfl }

end

theorem told_tell {other : Nat} {event : TtsEvent} : (service.tell taskId event).told other =
    service.told other ++ if other = taskId then [event] else [] := by
  by_cases here : other = taskId
  · simp [told, tell, here]
  · simp [told, tell, here, Ne.symm here]

theorem Sound.called_of_worker (sound : service.Sound)
    (quiet : ∀ worker < service.workers, chunksOf ((service.loops worker).called taskId) = []) :
    chunksOf (service.requestView taskId).called = [] := by
  have workers := sound.workers taskId
  dsimp only [requestView]
  cases taken : service.worker taskId with
  | none => rfl
  | some worker => exact quiet worker (workers worker taken)

theorem Sound.cancelNext {index : Nat} {room : Bool} (sound : service.Sound)
    (waits : ¬ service.Overtakes index) (stepped : service.cancelNext index room = some next) :
    next.Sound := by
  unfold TtsService.cancelNext at stepped
  unfold Overtakes at waits
  cases found : service.cancelling[index]? with
  | none =>
    rw [found] at stepped
    cases stepped
  | some cancelling =>
    rw [found] at stepped waits
    dsimp only at stepped waits
    obtain ⟨inside, here⟩ := List.getElem?_eq_some_iff.mp found
    have split_ : service.cancelling =
        service.cancelling.take index ++ cancelling :: service.cancelling.drop (index + 1) := by
      rw [← here, List.getElem_cons_drop, List.take_append_drop]
    split at stepped
    · cases stepped
      have same : ∀ taskId, (service.cancelling.set index
          { cancelling with queue := cancelling.queue + 1 }).countP (fun cancelling =>
            cancelling.takes ∧ cancelling.taskId = taskId) =
          service.cancelling.countP fun cancelling =>
            cancelling.takes ∧ cancelling.taskId = taskId := by
        intro taskId
        rw [List.set_eq_take_append_cons_drop, if_pos inside]
        conv_rhs => rw [split_]
        simp [List.countP_cons]
      exact {
        sound with
        fits := by
          intro other
          have now : TtsService.requestView { service with
              cancelQueues := if room then Function.update service.cancelQueues cancelling.queue
                  (service.cancelQueues cancelling.queue ++ [cancelling.taskId])
                else service.cancelQueues
              cancelling := service.cancelling.set index
                { cancelling with queue := cancelling.queue + 1 } } other =
              service.requestView other := by
            ext1
            all_goals first
              | rfl
              | exact same other
          rw [now]
          exact sound.fits other }
    · rename_i last
      have left : ∀ taskId, (service.cancelling.eraseIdx index).countP (fun cancelling =>
            cancelling.takes ∧ cancelling.taskId = taskId) +
            (if cancelling.takes = true ∧ cancelling.taskId = taskId then 1 else 0) =
          service.cancelling.countP fun cancelling =>
            cancelling.takes ∧ cancelling.taskId = taskId := by
        intro taskId
        rw [List.eraseIdx_eq_take_drop_succ]
        conv_rhs => rw [split_]
        simp [List.countP_cons]
        omega
      cases takes : cancelling.takes with
      | false =>
        rw [takes, if_neg Bool.false_ne_true] at stepped
        cases stepped
        exact {
          sound with
          fits := by
            intro other
            have now : TtsService.requestView { service with
                cancelling := service.cancelling.eraseIdx index } other =
                service.requestView other := by
              ext1
              all_goals first
                | rfl
                | skip
              have counted := left other
              rw [takes, if_neg fun both => Bool.noConfusion both.1] at counted
              exact counted
            rw [now]
            exact sound.fits other }
      | true =>
        rw [takes, if_pos rfl] at stepped
        cases stepped
        have silent : ∀ worker < service.workers,
            chunksOf ((service.loops worker).called cancelling.taskId) = [] := by
          intro worker inside
          by_contra some_
          refine waits ⟨Nat.le_of_not_lt last, takes, worker, inside, fun none_ => ?_⟩
          rw [none_] at some_
          exact some_ rfl
        have fits := sound.fits cancelling.taskId
        have own := left cancelling.taskId
        rw [if_pos ⟨takes, rfl⟩] at own
        have taking : (service.requestView cancelling.taskId).taking = _ := own.symm
        exact {
          sound with
          fits := by
            refine sound.fits_of cancelling.taskId { service.requestView cancelling.taskId with
              taking := (service.cancelling.eraseIdx index).countP fun other =>
                other.takes ∧ other.taskId = cancelling.taskId
              told := (service.requestView cancelling.taskId).told ++ [.finish .cancelled] } ?_
              (fits.ended (sound.called_of_worker silent) (by omega)) fun other mine => ?_
            · ext1
              all_goals first
                | rfl
                | exact told_tell.trans (by rw [if_pos rfl]; rfl)
            · have counted := left other
              rw [if_neg fun both => mine both.2.symm] at counted
              ext1
              all_goals first
                | rfl
                | exact counted
                | exact told_tell.trans (by rw [if_neg mine, List.append_nil]; rfl) }

end TtsService
end InferenceServer.Tts
