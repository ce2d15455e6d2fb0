import InferenceServer.Jobs.ClaimHandshake

/-! Exactly one side owns a job that is cancelled while it is claimed. -/
namespace InferenceServer.Jobs.Handshake

open Machine

variable {identity : WorkerIdentity} {party : Party} {job next : Handshake}

/-- What the cells tell of where the parties are. -/
structure Cells (job : Handshake) : Prop where
  published : job.canceller = .published ∨ job.canceller = .unassigned ∨
    job.canceller = .assigned → job.cancelEvent = true
  identity : job.identity.isSome ↔ job.claimer = .assigned ∨ job.claimer = .accepting ∨
    job.claimer = .withdrawing ∨ job.claimer = .returned true
  started : job.startEvent = true ↔ job.claimer = .returned true
  sawEvent : job.monitor = .sawEvent ∨ job.monitor = .sawUnassigned → job.cancelEvent = true

theorem Cells.moves (cells : Cells job) (moves : Moves identity job party next) : Cells next := by
  obtain ⟨published, held, started, sawEvent⟩ := cells
  cases moves <;> constructor <;> grind [cleanup, cleanupForced]

/-- The worker has not claimed the job and never will. -/
def Excluded (job : Handshake) : Prop :=
  job.cancelEvent = true ∧ job.claimer ≠ .accepting ∧ job.claimer ≠ .returned true

theorem Excluded.moves (excluded : job.Excluded) (moves : Moves identity job party next) :
    next.Excluded := by
  obtain ⟨set, unaccepted, unclaimed⟩ := excluded
  cases moves with
  | accept here clear =>
    rw [set] at clear
    cases clear
  | claim here => exact absurd here unaccepted
  | _ => grind [Excluded, cleanup, cleanupForced]

/-- A worker that has not published itself before the event was set is too late. -/
theorem excluded_of_unassigned (cells : Cells job) (set : job.cancelEvent = true)
    (free : job.identity = none) : job.Excluded := by
  have unpublished := mt cells.identity.mpr (by rw [free]; exact Bool.false_ne_true)
  exact ⟨set, fun accepting => unpublished (.inr (.inl accepting)),
    fun claimed => unpublished (.inr (.inr (.inr claimed)))⟩

/-- Whoever ends the job has excluded the worker. -/
structure Owned (job : Handshake) : Prop where
  unassigned : job.canceller = .unassigned ∨ job.canceller = .finishedImmediately → job.Excluded
  sawUnassigned : job.monitor = .sawUnassigned → job.Excluded
  requested : job.task = .cancelRequested ∨ job.task = .done → job.Excluded

theorem Owned.moves (owned : Owned job) (cells : Cells job)
    (moves : Moves identity job party next) : Owned next := by
  have kept : job.Excluded → next.Excluded := fun excluded => excluded.moves moves
  obtain ⟨unassigned, sawUnassigned, requested⟩ := owned
  cases moves with
  | findUnassigned here queued free =>
    have excluded := kept (excluded_of_unassigned cells (cells.published (.inl here)) free)
    exact ⟨fun _ => excluded, fun _ => excluded, fun _ => excluded⟩
  | finish here =>
    have excluded := kept (unassigned (.inl here))
    exact ⟨fun _ => excluded, fun _ => excluded, fun _ => excluded⟩
  | readIdentity here =>
    refine ⟨fun there => kept (unassigned there), fun saw => ?_,
      fun there => kept (requested there)⟩
    have free : job.identity = none := by
      by_contra taken
      simp only [if_neg taken] at saw
      cases saw
    exact kept (excluded_of_unassigned cells (cells.sawEvent (.inl here)) free)
  | terminate here =>
    have excluded := kept (sawUnassigned here)
    exact ⟨fun _ => excluded, fun _ => excluded, fun _ => excluded⟩
  | reject | check | assign | withdraw | accept | unassign | claim =>
    exact ⟨fun there => kept (unassigned there), fun there => kept (sawUnassigned there),
      fun there => kept (requested there)⟩
  | _ => constructor <;> grind [cleanup]

/-- The task and the monitor act only on a cancellation that has been decided. -/
structure Decided (job : Handshake) : Prop where
  live : job.status.isTerminal = true → job.status = .cancelled
  cancelling : job.status = .cancelling → job.canceller = .initiated
  cancelled : job.status = .cancelled → job.canceller = .finishedImmediately ∨
    job.canceller = .initiated
  finished : job.canceller = .finishedImmediately → job.status = .cancelled
  unrefused : job.canceller ≠ .refused
  monitored : job.monitor = .sawCancelling ∨ job.monitor = .sawEvent ∨
    job.monitor = .sawUnassigned → job.canceller = .initiated
  requested : job.task = .cancelRequested ∨ job.task = .done →
    job.canceller = .finishedImmediately ∨ job.canceller = .initiated

/-- While `cancel_job` looks around, nobody acts on it. -/
theorem Decided.undecided (decided : Decided job) (waiting : job.canceller ≠ .initiated)
    (live : job.canceller ≠ .finishedImmediately) :
    job.status ≠ .cancelling ∧ job.status ≠ .cancelled ∧
      ¬ (job.monitor = .sawCancelling ∨ job.monitor = .sawEvent ∨ job.monitor = .sawUnassigned) ∧
      ¬ (job.task = .cancelRequested ∨ job.task = .done) := by
  refine ⟨fun cancelling => waiting (decided.cancelling cancelling), fun cancelled => ?_,
    fun monitored => waiting (decided.monitored monitored), fun requested => ?_⟩
  · exact (decided.cancelled cancelled).elim live waiting
  · exact (decided.requested requested).elim live waiting

/-- A look of `cancel_job` at the event or the assignment decides nothing. -/
theorem Decided.look (decided : Decided job) (waiting : job.canceller ≠ .initiated)
    (live : job.canceller ≠ .finishedImmediately) (canceller : next.canceller ≠ .refused)
    (unended : next.canceller ≠ .finishedImmediately) (status : next.status = job.status)
    (monitor : next.monitor = job.monitor) (task : next.task = job.task) : Decided next := by
  obtain ⟨uncancelling, uncancelled, unmonitored, unrequested⟩ := decided.undecided waiting live
  constructor
  · rw [status]
    exact decided.live
  · rw [status]
    exact fun cancelling => absurd cancelling uncancelling
  · rw [status]
    exact fun cancelled => absurd cancelled uncancelled
  · exact fun finished => absurd finished unended
  · exact canceller
  · rw [monitor]
    exact fun monitored => absurd monitored unmonitored
  · rw [task]
    exact fun requested => absurd requested unrequested

/-- `cancel_job` has initiated the cancellation. -/
theorem Decided.initiate (cancelling : next.status = .cancelling)
    (canceller : next.canceller = .initiated) : Decided next := by
  constructor
  · rw [cancelling]
    nofun
  · exact fun _ => canceller
  · exact fun _ => .inr canceller
  · rw [canceller]
    nofun
  · rw [canceller]
    nofun
  · exact fun _ => canceller
  · exact fun _ => .inr canceller

theorem Decided.moves (decided : Decided job) (moves : Moves identity job party next) :
    Decided next := by
  cases moves with
  | refuse here terminal =>
    have cancelled := decided.cancelled (decided.live terminal)
    simp [here] at cancelled
  | publish here | findUnassigned here | findAssigned here =>
    exact decided.look (by simp [here]) (by simp [here]) nofun nofun rfl rfl rfl
  | stop here | initiate here => exact Decided.initiate (by simp) rfl
  | finish here =>
    have unmonitored := (decided.undecided (by simp [here]) (by simp [here])).2.2.1
    exact ⟨fun _ => rfl, nofun, fun _ => .inl rfl, fun _ => rfl, nofun,
      fun monitored => absurd (by simpa using monitored) unmonitored, fun _ => .inl rfl⟩
  | reject | check | assign | withdraw | accept | unassign | claim | sleep =>
    exact ⟨decided.live, decided.cancelling, decided.cancelled, decided.finished,
      decided.unrefused, decided.monitored, decided.requested⟩
  | seeStart =>
    -- A status that the start has turned to `IN_PROGRESS` is no status of the other facts.
    refine ⟨fun terminal => ?_, fun cancelling => ?_, fun cancelled => ?_, fun finished => ?_,
      decided.unrefused, nofun, decided.requested⟩
    · dsimp only at terminal ⊢
      split at terminal
      · cases terminal
      · rw [decided.live terminal, if_neg (by nofun)]
    · dsimp only at cancelling ⊢
      split at cancelling
      · cases cancelling
      · exact decided.cancelling cancelling
    · dsimp only at cancelled ⊢
      split at cancelled
      · cases cancelled
      · exact decided.cancelled cancelled
    · dsimp only
      rw [decided.finished finished, if_neg (by nofun)]
  | seeCancelling here waiting cancelling =>
    exact ⟨decided.live, decided.cancelling, decided.cancelled, decided.finished,
      decided.unrefused, fun _ => decided.cancelling cancelling, decided.requested⟩
  | readEvent here =>
    exact ⟨decided.live, decided.cancelling, decided.cancelled, decided.finished,
      decided.unrefused, fun _ => decided.monitored (.inl here), decided.requested⟩
  | readIdentity here =>
    exact ⟨decided.live, decided.cancelling, decided.cancelled, decided.finished,
      decided.unrefused, fun _ => decided.monitored (.inr (.inl here)), decided.requested⟩
  | terminate here =>
    have initiated := decided.monitored (.inr (.inr here))
    exact ⟨by simpa using decided.live, by simpa using decided.cancelling,
      by simpa using decided.cancelled, by simpa using decided.finished,
      by simpa using decided.unrefused, nofun, fun _ => .inr (by simpa using initiated)⟩
  | begin here =>
    exact ⟨decided.live, decided.cancelling, decided.cancelled, decided.finished,
      decided.unrefused, nofun, nofun⟩
  | drop here =>
    exact ⟨decided.live, decided.cancelling, decided.cancelled, decided.finished,
      decided.unrefused, decided.monitored, fun _ => decided.requested (.inl here)⟩
  | handle here =>
    have whose := decided.requested (.inl here)
    refine ⟨fun terminal => ?_, fun cancelling => ?_, fun _ => whose, fun finished => ?_,
      decided.unrefused, nofun, fun _ => whose⟩
    · dsimp only
      split
      · exact decided.live ‹_›
      · rfl
    · dsimp only at cancelling ⊢
      split at cancelling
      · exact decided.cancelling cancelling
      · cases cancelling
    · dsimp only
      rw [decided.finished finished]
      rfl

/-- What a cancellation that has been initiated has found. -/
structure Initiated (job : Handshake) : Prop where
  met : job.canceller = .assigned ∨ job.canceller = .initiated →
    job.claimer ≠ .notCalled ∧ job.claimer ≠ .checked
  inProgress : job.status = .inProgress → job.startEvent = true
  initiated : job.canceller = .initiated →
    job.cancelEvent = true ∧ (job.status = .cancelling ∨ job.status = .cancelled)

/-- A canceller that meets a worker meets it after its first look at the event. -/
theorem Initiated.meets (state : Initiated job) (cells : Cells job) (decided : Decided job)
    (here : job.canceller = .published) (taken : job.status ≠ .queued ∨ job.identity.isSome) :
    job.claimer ≠ .notCalled ∧ job.claimer ≠ .checked := by
  rcases taken with other | published
  · obtain ⟨uncancelling, uncancelled, _⟩ := decided.undecided (by simp [here]) (by simp [here])
    have active : job.status = .inProgress := by
      cases status : job.status with
      | inProgress => rfl
      | queued => exact absurd status other
      | cancelling => exact absurd status uncancelling
      | _ => exact absurd (decided.live (by simp [status, JobStatus.isTerminal])) uncancelled
    have returned := cells.started.mp (state.inProgress active)
    exact ⟨by rw [returned]; rintro ⟨⟩, by rw [returned]; rintro ⟨⟩⟩
  · have met := cells.identity.mp published
    constructor
    · intro early
      simp [early] at met
    · intro early
      simp [early] at met

/-- `cancel_job` initiates the cancellation of a job whose event it has set, or whose claimer has
been called. -/
theorem Initiated.initiate (claimer : next.claimer = job.claimer)
    (met : job.claimer ≠ .notCalled ∧ job.claimer ≠ .checked)
    (set : next.cancelEvent = true) (cancelling : next.status = .cancelling) : Initiated next := by
  constructor
  · rw [claimer]
    exact fun _ => met
  · rw [cancelling]
    nofun
  · exact fun _ => ⟨set, .inl cancelling⟩

theorem Initiated.moves (state : Initiated job) (cells : Cells job) (decided : Decided job)
    (moves : Moves identity job party next) : Initiated next := by
  cases moves with
  | refuse here | publish here | findUnassigned here =>
    exact ⟨nofun, state.inProgress, nofun⟩
  | findAssigned here taken =>
    exact ⟨fun _ => state.meets cells decided here taken, state.inProgress, nofun⟩
  | stop here active =>
    obtain ⟨uncancelling, -, -, unrequested⟩ := decided.undecided (by simp [here]) (by simp [here])
    have returned := cells.started.mp (state.inProgress (active.resolve_right uncancelling))
    refine @Initiated.initiate job _ (by simp) ⟨by rw [returned]; nofun, by rw [returned]; nofun⟩ ?_
      (by simp)
    exact cancelEvent_cleanup fun done => unrequested (.inr done)
  | finish => exact ⟨nofun, nofun, nofun⟩
  | initiate here =>
    refine @Initiated.initiate job _ (by simp) (state.met (.inl here)) ?_ (by simp)
    exact set_cleanup (cells.published (.inr (.inr here)))
  | check here => exact ⟨fun met => absurd here (state.met met).1, state.inProgress,
      state.initiated⟩
  | reject | assign | withdraw | accept | unassign =>
    exact ⟨fun _ => ⟨nofun, nofun⟩, state.inProgress, state.initiated⟩
  | claim => exact ⟨fun _ => ⟨nofun, nofun⟩, fun _ => rfl, state.initiated⟩
  | seeStart here started =>
    refine ⟨state.met, fun _ => started, fun initiated => ⟨(state.initiated initiated).1, ?_⟩⟩
    rcases (state.initiated initiated).2 with cancelling | cancelled
    · exact .inl (by rw [cancelling]; rfl)
    · exact .inr (by rw [cancelled]; rfl)
  | seeCancelling | sleep | readEvent | readIdentity | begin | drop =>
    exact ⟨state.met, state.inProgress, state.initiated⟩
  | terminate =>
    refine ⟨by simpa using state.met, by simpa using state.inProgress, fun initiated => ?_⟩
    have initiated := state.initiated (by simpa using initiated)
    exact ⟨set_cleanupForced initiated.1, by simpa using initiated.2⟩
  | handle =>
    refine ⟨state.met, fun active => ?_, fun _ => ⟨rfl, .inr ?_⟩⟩
    · dsimp only at active ⊢
      split at active
      · exact state.inProgress active
      · cases active
    · dsimp only
      split
      · exact decided.live ‹_›
      · rfl

/-- How the task of the job ends. -/
structure Ending (job : Handshake) : Prop where
  terminal : job.status = .cancelled → job.task = .cancelRequested ∨ job.task = .done
  ended : job.task = .done → job.status = .cancelled
  created : job.task = .created → job.monitor = .notStarted
  started : job.monitor = .notStarted → job.task ≠ .running
  unstarted : job.monitor = .notStarted → job.task = .cancelRequested → job.status = .cancelled
  done : job.monitor = .done → job.startEvent = true ∨ job.task = .cancelRequested ∨
    job.task = .done
  monitored : job.task = .cancelRequested → job.status = .cancelled ∨ job.monitor = .done

theorem Ending.moves (ending : Ending job) (decided : Decided job)
    (moves : Moves identity job party next) : Ending next := by
  obtain ⟨terminal, ended, created, started, unstarted, done, monitored⟩ := ending
  cases moves with
  | reject | check | assign | withdraw | accept | unassign =>
    exact ⟨terminal, ended, created, started, unstarted, done, monitored⟩
  | claim => exact ⟨terminal, ended, created, started, unstarted, fun _ => .inl rfl, monitored⟩
  | finish here | terminate here =>
    constructor <;> grind [cleanupForced, cancelTask, JobStatus.isTerminal, Decided]
  | _ => constructor <;> grind [cleanup, JobStatus.isTerminal, Decided]

/-- What holds in every state of a run. -/
structure Sound (job : Handshake) : Prop where
  cells : Cells job
  owned : Owned job
  decided : Decided job
  initiated : Initiated job
  ending : Ending job

theorem Sound.step (sound : Sound job) (stepped : job.step identity party = some next) :
    Sound next := by
  have moves := moves_of_step stepped
  exact ⟨sound.cells.moves moves, sound.owned.moves sound.cells moves, sound.decided.moves moves,
    sound.initiated.moves sound.cells sound.decided moves, sound.ending.moves sound.decided moves⟩

theorem sound_of_reached
    (reached : Reaches (Handshake.step identity) (fun _ _ => True) {} job) : Sound job := by
  refine reached.invariant Sound ?_ fun _ _ _ sound _ stepped => sound.step stepped
  constructor <;> constructor <;> simp [JobStatus.isTerminal]

/-- The worker has the job, from its claim on. -/
def Claimed (job : Handshake) : Prop := job.claimer = .returned true

/-- The worker has published itself, seen the event and withdrawn. -/
def Rejected (job : Handshake) : Prop :=
  job.canceller = .initiated ∧ job.claimer = .returned false

theorem Rejected.moves (rejected : job.Rejected) (moves : Moves identity job party next) :
    next.Rejected := by
  obtain ⟨initiated, returned⟩ := rejected
  cases moves <;> grind [Rejected, cleanupForced]

/-- A job that was cancelled stays so. -/
theorem cancelled_of_moves (decided : Decided job) (cancelled : job.status = .cancelled)
    (moves : Moves identity job party next) : next.status = .cancelled := by
  have whose := decided.cancelled cancelled
  cases moves with
  | stop here _ | initiate here => rw [here] at whose; simp at whose
  | finish => rfl
  | seeStart => rw [cancelled]; rfl
  | terminate => grind [cleanupForced]
  | handle => rw [cancelled]; rfl
  | _ => exact cancelled

/-- How many steps are left until the monitor has ended a rejected job. -/
def remaining (job : Handshake) : Nat :=
  if job.status = .cancelled then 0
  else match job.task with
    | .cancelRequested | .done => 1
    | .running => match job.monitor with
      | .sawUnassigned | .done => 2
      | .sawEvent => 3
      | .sawCancelling => 4
      | .polling | .notStarted => 5
    | .created => 6

theorem remaining_le (job : Handshake) : job.remaining ≤ 6 := by
  unfold remaining
  repeat' split
  all_goals omega

section

variable (rejected : job.Rejected)
include rejected

theorem Rejected.remaining_lt (sound : Sound job) (live : job.status ≠ .cancelled)
    (moves : Moves identity job party next) : next.remaining < job.remaining := by
  obtain ⟨initiated, returned⟩ := rejected
  obtain ⟨set, cancelling⟩ := sound.initiated.initiated initiated
  have cancelling := cancelling.resolve_right live
  have waiting : job.startEvent = false := by
    refine Bool.eq_false_iff.mpr fun started => ?_
    have claimed := sound.cells.started.mp started
    rw [returned] at claimed
    cases claimed
  have free : job.identity = none := by
    have unpublished := mt sound.cells.identity.mp (by simp [returned])
    simpa using unpublished
  obtain ⟨_, ended, created, started, unstarted, done, monitored⟩ := sound.ending
  cases moves <;> grind [remaining, Rejected, cleanupForced, cancelTask, JobStatus.isTerminal]

theorem Rejected.enabled (sound : Sound job) (live : job.status ≠ .cancelled) :
    ∃ party next, job.step identity party = some next := by
  have ending := sound.ending
  cases task : job.task with
  | created => exact ⟨.task, _, by rw [step, processJob, task]⟩
  | cancelRequested =>
    refine ⟨.task, ?_⟩
    simp only [step, processJob, task]
    split <;> exact ⟨_, rfl⟩
  | done => exact absurd (ending.ended task) live
  | running =>
    refine ⟨.monitor, ?_⟩
    cases monitor : job.monitor with
    | notStarted => exact absurd task (ending.started monitor)
    | polling =>
      simp only [step, markJobInProgress, monitor]
      split
      · exact ⟨_, rfl⟩
      · split <;> exact ⟨_, rfl⟩
    | sawCancelling | sawEvent | sawUnassigned =>
      exact ⟨_, by rw [step, markJobInProgress, monitor]⟩
    | done =>
      rcases ending.done monitor with started | requested | over_
      · have claimed := sound.cells.started.mp started
        rw [rejected.2] at claimed
        cases claimed
      · rw [task] at requested
        cases requested
      · rw [task] at over_
        cases over_

/-- A rejected job is over after as many steps as are left for it, whoever takes them. -/
theorem Rejected.ends {parties : List Party} {later : Handshake} (sound : Sound job)
    (executed : runWithin (step identity) (fun _ _ => True) job parties = some later)
    (enough : job.remaining ≤ parties.length) : later.status = .cancelled := by
  induction parties generalizing job with
  | nil =>
    cases executed
    by_contra live
    obtain ⟨party, next, stepped⟩ := @Rejected.enabled ("", 0) _ rejected sound live
    have fewer := (rejected.remaining_lt sound live (moves_of_step stepped))
    simp only [List.length_nil] at enough
    omega
  | cons party rest ih =>
    simp only [runWithin, if_true] at executed
    split at executed
    · cases executed
    · rename_i next stepped
      have moves := moves_of_step stepped
      refine ih (rejected.moves moves) (sound.step stepped) executed ?_
      simp only [List.length_cons] at enough
      by_cases live : job.status = .cancelled
      · rw [remaining, if_pos (cancelled_of_moves sound.decided live moves)]
        omega
      · have fewer := rejected.remaining_lt sound live moves
        omega

end

/-- In every run: a job that is cancelled at once is never claimed; a job that is claimed is not
cancelled, and is `CANCELLING` with its event set once `cancel_job` has returned; a job that a
worker rejects is over after at most six steps, whoever takes them; and where no party has a step
left, a job is `CANCELLING` only with a worker. -/
theorem cancelled_or_claimed
    (reached : Reaches (step identity) (fun _ _ => True) {} job) :
    (job.canceller = .finishedImmediately → job.status = .cancelled ∧
      ∀ later, Reaches (step identity) (fun _ _ => True) job later → ¬ later.Claimed) ∧
    (job.Claimed → job.status ≠ .cancelled ∧ job.canceller ≠ .refused ∧
      (job.canceller = .initiated → job.status = .cancelling ∧ job.cancelEvent = true)) ∧
    (job.Rejected → (job.status ≠ .cancelled → ∃ party next, job.step identity party = some next) ∧
      job.remaining ≤ 6 ∧ ∀ parties later,
        runWithin (step identity) (fun _ _ => True) job parties = some later →
          job.remaining ≤ parties.length → later.status = .cancelled) ∧
    (job.Quiescent identity → job.status = .cancelling → job.Claimed) := by
  have sound := sound_of_reached reached
  refine ⟨fun finished => ⟨sound.decided.finished finished, fun later run claimed => ?_⟩,
    fun claimed => ?_, fun rejected => ⟨fun live => ?_, job.remaining_le,
      fun parties later executed enough => ?_⟩,
    fun quiescent cancelling => ?_⟩
  · have excluded : later.Excluded := by
      refine run.invariant Excluded (sound.owned.unassigned (.inr finished)) ?_
      exact fun _ _ _ excluded _ stepped => excluded.moves (moves_of_step stepped)
    exact excluded.2.2 claimed
  · have excluded : ¬ job.Excluded := fun excluded => excluded.2.2 claimed
    have live : job.status ≠ .cancelled :=
      fun cancelled => excluded (sound.owned.requested (sound.ending.terminal cancelled))
    refine ⟨live, sound.decided.unrefused, fun initiated => ?_⟩
    obtain ⟨set, cancelling⟩ := sound.initiated.initiated initiated
    exact ⟨cancelling.resolve_right live, set⟩
  · exact rejected.enabled sound live
  · exact rejected.ends sound executed enough
  · have initiated := sound.decided.cancelling cancelling
    have live : job.status ≠ .cancelled := by rw [cancelling]; nofun
    have stuck := quiescent .claimer
    have returned : ∃ claimed, job.claimer = .returned claimed := by
      cases claimer : job.claimer with
      | returned claimed => exact ⟨claimed, rfl⟩
      | _ => simp [step, claimJob, claimer] at stuck
    obtain ⟨claimed, returned⟩ := returned
    cases claimed with
    | true => exact returned
    | false =>
      obtain ⟨party, next, stepped⟩ := @Rejected.enabled identity _ ⟨initiated, returned⟩ sound live
      rw [quiescent party] at stepped
      cases stepped

/-- A cancellation that meets a worker between its two looks at the event. -/
def bothBackOff : List Party :=
  [.task, .claimer, .claimer, .canceller, .canceller, .canceller, .monitor, .claimer, .claimer]

theorem bothBackOff_runs : (runWithin (step ("worker", 12)) (fun _ _ => True) {}
    bothBackOff).isSome = true := by
  decide +kernel

def rejectedJob : Handshake :=
  (runWithin (step ("worker", 12)) (fun _ _ => True) {} bothBackOff).get bothBackOff_runs

theorem rejectedJob_runs : (runWithin (step ("worker", 12)) (fun _ _ => True) rejectedJob
    [.monitor, .monitor, .monitor, .task]).isSome = true := by
  decide +kernel

/-- The monitor ends the job that was rejected. -/
theorem cancelled_or_claimed_bothBackOff : ((runWithin (step ("worker", 12)) (fun _ _ => True)
    rejectedJob [.monitor, .monitor, .monitor, .task]).get rejectedJob_runs).status =
      .cancelled := by
  have rejected : rejectedJob.Rejected := by
    constructor <;> decide +kernel
  exact ((cancelled_or_claimed (reaches_get bothBackOff_runs)).2.2.1 rejected).2.2 _ _
    (Option.some_get rejectedJob_runs).symm (by decide +kernel)

end InferenceServer.Jobs.Handshake
