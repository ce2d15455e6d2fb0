import InferenceServer.Machine.Run
import InferenceServer.Machine.Table

/-! The status of every migration that was sent out. Three threads write it: a caller whose send
fails, the drain of the acknowledgments and the sweep for timeouts. An acknowledgment that names
`UNKNOWN` is read like any other and takes a migration out of their reach for good. -/
namespace InferenceServer.RemoteKv

open Machine

inductive MigrationStatus
  | unknown
  | inProgress
  | successful
  | failed
  deriving DecidableEq

/-- The migration is over; `UNKNOWN` is no outcome. -/
def MigrationStatus.Terminal (status : MigrationStatus) : Prop :=
  status = .successful ∨ status = .failed

instance (status : MigrationStatus) : Decidable status.Terminal :=
  inferInstanceAs (Decidable (_ ∨ _))

theorem terminal_iff {status : MigrationStatus} :
    status.Terminal ↔ ¬ (status = .inProgress ∨ status = .unknown) := by
  cases status <;> decide

/-- The status that an acknowledgment names. -/
def fromWire : String → Option MigrationStatus
  | "UNKNOWN" => some .unknown
  | "IN_PROGRESS" => some .inProgress
  | "SUCCESSFUL" => some .successful
  | "FAILED" => some .failed
  | _ => none

structure MigrationState where
  status : MigrationStatus
  submittedAt : Int
  deriving DecidableEq

/-- The records, with the requests that a caller is sending at the moment. -/
structure RemoteKvManager where
  timeout : Int
  sweepInterval : Int
  migrations : Table UInt64 MigrationState := ∅
  sending : List UInt64 := []
  lastSweep : Int := 0

namespace RemoteKvManager

/-- What a caller, the drain of the acknowledgments and the sweep do, each under the lock. -/
inductive Label
  | migrate (id : UInt64) (now : Int)
  | sent (id : UInt64) (sent : Bool)
  | ack (id : UInt64) (status : String)
  | sweep (now : Int)

def getMigrationStatus (manager : RemoteKvManager) (id : UInt64) : MigrationStatus :=
  ((manager.migrations.lookup id).map (·.status)).getD .unknown

/-- A status for a migration that is still in progress; no other is changed. -/
def settle (manager : RemoteKvManager) (id : UInt64) (status : MigrationStatus) :
    RemoteKvManager :=
  { manager with migrations := manager.migrations.modify id fun state =>
      if state.status = .inProgress then { state with status } else state }

def sweepLocked (manager : RemoteKvManager) (now : Int) : RemoteKvManager :=
  { manager with migrations := manager.migrations.mapValues fun state =>
      if state.status = .inProgress ∧ now - state.submittedAt ≥ manager.timeout then
        { state with status := .failed }
      else state }

def step (manager : RemoteKvManager) : Label → Option RemoteKvManager
  | .migrate id now =>
    -- the older record is kept when the id is not new, and nothing is sent
    if (manager.migrations.lookup id).isSome then some manager
    else some { manager with
      migrations := manager.migrations.insert id { status := .inProgress, submittedAt := now }
      sending := id :: manager.sending }
  | .sent id sent =>
    if id ∈ manager.sending then
      let manager := { manager with sending := manager.sending.erase id }
      some (if sent then manager else manager.settle id .failed)
    else none
  | .ack id wire =>
    match fromWire wire with
    | none => some manager
    | some status => some (manager.settle id status)
  | .sweep now =>
    if now - manager.lastSweep ≥ manager.sweepInterval then
      some { manager.sweepLocked now with lastSweep := now }
    else none

/-- No acknowledgment takes a migration in progress out of reach. -/
def NamesOutcome (manager : RemoteKvManager) : Label → Prop
  | .ack id wire => manager.getMigrationStatus id = .inProgress → fromWire wire ≠ some .unknown
  | _ => True

instance (manager : RemoteKvManager) : ∀ label, Decidable (manager.NamesOutcome label)
  | .ack _ _ => inferInstanceAs (Decidable (_ → _))
  | .migrate _ _ | .sent _ _ | .sweep _ => inferInstanceAs (Decidable True)

variable {manager after : RemoteKvManager} {id : UInt64} {state : MigrationState} {label : Label}

theorem getMigrationStatus_of_lookup (known : manager.migrations.lookup id = some state) :
    manager.getMigrationStatus id = state.status := by
  rw [getMigrationStatus, known]
  rfl

/-- How a record may differ a step later. -/
structure Follows (label : Label) (id : UInt64) (state later : MigrationState) : Prop where
  submittedAt : later.submittedAt = state.submittedAt
  status : later.status = state.status ∨ state.status = .inProgress ∧ later.status.Terminal
  successful : state.status ≠ .successful → later.status = .successful →
    ∃ wire, label = .ack id wire ∧ fromWire wire = some .successful

theorem Follows.refl (label : Label) (id : UInt64) (state : MigrationState) :
    Follows label id state state :=
  ⟨rfl, .inl rfl, fun not is => absurd is not⟩

/-- A migration that has failed for a caller or the sweep. -/
theorem Follows.failed (running : state.status = .inProgress) :
    Follows label id state { state with status := .failed } :=
  ⟨rfl, .inr ⟨running, .inr rfl⟩, nofun⟩

theorem lookup_settle (manager : RemoteKvManager) (id other : UInt64) (status : MigrationStatus) :
    (manager.settle id status).migrations.lookup other =
      (manager.migrations.lookup other).map fun state =>
        if other = id ∧ state.status = .inProgress then { state with status } else state := by
  rw [settle, Table.lookup_modify]
  by_cases same : other = id
  · subst same
    simp
  · simp [same, Option.map_id']

/-- A known migration stays known, and its status follows the one it had. -/
theorem step_follows (named : manager.NamesOutcome label)
    (stepped : manager.step label = some after) (known : manager.migrations.lookup id = some state) :
    ∃ later, after.migrations.lookup id = some later ∧ Follows label id state later := by
  have stays : ∃ later, manager.migrations.lookup id = some later ∧ Follows label id state later :=
    ⟨state, known, .refl label id state⟩
  cases label with
  | migrate other now =>
    rw [step] at stepped
    split at stepped
    · cases stepped
      exact stays
    · rename_i new
      cases stepped
      have different : id ≠ other := by
        rintro rfl
        exact new (by rw [known]; rfl)
      exact ⟨state, (AList.lookup_insert_ne different).trans known, .refl _ id state⟩
  | sent other sent =>
    rw [step] at stepped
    split at stepped
    · cases stepped
      split
      · exact stays
      · rw [lookup_settle, known]
        refine ⟨_, rfl, ?_⟩
        dsimp only
        split
        · rename_i running
          exact .failed running.2
        · exact .refl _ id state
    · cases stepped
  | ack other wire =>
    rw [step] at stepped
    split at stepped
    · cases stepped
      exact stays
    · rename_i status read
      cases stepped
      rw [lookup_settle, known]
      refine ⟨_, rfl, ?_⟩
      dsimp only
      split
      · rename_i running
        obtain ⟨rfl, running⟩ := running
        have outcome := named ((getMigrationStatus_of_lookup known).trans running)
        refine ⟨rfl, ?_, fun _ successful => ⟨wire, rfl, read.trans (congrArg some successful)⟩⟩
        cases status with
        | unknown => exact absurd read outcome
        | inProgress => exact .inl running.symm
        | successful => exact .inr ⟨running, .inl rfl⟩
        | failed => exact .inr ⟨running, .inr rfl⟩
      · exact .refl _ id state
  | sweep now =>
    rw [step] at stepped
    split at stepped
    · cases stepped
      rw [sweepLocked, Table.lookup_mapValues, known]
      refine ⟨_, rfl, ?_⟩
      dsimp only
      split
      · rename_i old
        exact .failed old.1
      · exact .refl _ id state
    · cases stepped

/-- A migration is new in a step only as one in progress, from the call that sends it. -/
theorem step_new (stepped : manager.step label = some after)
    (unknown : manager.migrations.lookup id = none)
    (known : after.migrations.lookup id = some state) :
    ∃ now, label = .migrate id now ∧ state = { status := .inProgress, submittedAt := now } := by
  cases label with
  | migrate other now =>
    rw [step] at stepped
    split at stepped
    · cases stepped
      rw [unknown] at known
      cases known
    · cases stepped
      by_cases same : id = other
      · subst same
        rw [AList.lookup_insert] at known
        exact ⟨now, rfl, (Option.some.inj known).symm⟩
      · rw [AList.lookup_insert_ne same, unknown] at known
        cases known
  | sent other sent =>
    rw [step] at stepped
    split at stepped
    · cases stepped
      split at known
      · rw [unknown] at known
        cases known
      · rw [lookup_settle, unknown] at known
        cases known
    · cases stepped
  | ack other wire =>
    rw [step] at stepped
    split at stepped
    · cases stepped
      rw [unknown] at known
      cases known
    · cases stepped
      rw [lookup_settle, unknown] at known
      cases known
  | sweep now =>
    rw [step] at stepped
    split at stepped
    · cases stepped
      rw [sweepLocked, Table.lookup_mapValues, unknown] at known
      cases known
    · cases stepped

/-- Every known migration is in progress or over. -/
def Settling (manager : RemoteKvManager) : Prop :=
  ∀ id state, manager.migrations.lookup id = some state → state.status ≠ .unknown

theorem Settling.step (settling : manager.Settling) (named : manager.NamesOutcome label)
    (stepped : manager.step label = some after) : after.Settling := by
  intro id state known
  cases before : manager.migrations.lookup id with
  | none =>
    obtain ⟨now, _, rfl⟩ := step_new stepped before known
    exact nofun
  | some old =>
    obtain ⟨later, found, follows⟩ := step_follows named stepped before
    obtain rfl := Option.some.inj (found.symm.trans known)
    rcases follows.status with same | ⟨_, isOver | isOver⟩
    · rw [same]
      exact settling id old before
    all_goals
      rw [isOver]
      exact nofun

/-- Right after a sweep no migration that is older than the timeout is in progress. -/
theorem sweep_settles {now : Int} (settling : manager.Settling)
    (stepped : manager.step (.sweep now) = some after)
    (known : after.migrations.lookup id = some state)
    (old : now - state.submittedAt ≥ manager.timeout) : state.status.Terminal := by
  rw [step] at stepped
  split at stepped
  · cases stepped
    rw [sweepLocked, Table.lookup_mapValues] at known
    obtain ⟨before, found, rfl⟩ := Option.map_eq_some_iff.mp known
    split at old
    · rename_i due
      rw [if_pos due]
      exact .inr rfl
    · rename_i recent
      rw [if_neg recent]
      have isOver : before.status ≠ .inProgress := fun running => recent ⟨running, old⟩
      have named := settling id before found
      cases status : before.status with
      | unknown => exact absurd status named
      | inProgress => exact absurd status isOver
      | successful => exact .inl rfl
      | failed => exact .inr rfl
  · cases stepped

end RemoteKvManager

end InferenceServer.RemoteKv
