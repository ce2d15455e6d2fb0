import InferenceServer.Ipc.RingRuns

/-! A side of the ring that one process has to itself: nobody else of that side is ever behind its
wait, and the index that it has loaded stays the current one. -/
namespace InferenceServer.Ipc.VideoShm

variable {Field : Type*} {shm next : VideoShm Field} {label : Label Field}

def Label.worker : Label Field → Nat
  | .write worker _ | .writer worker | .abandonWrite worker | .crashWriter worker
  | .recoverWriter worker | .read worker | .reader worker | .abandonRead worker
  | .crashReader worker | .recoverReader worker => worker

/-- A step of the writer side. -/
def Label.ofWriter : Label Field → Bool
  | .write _ _ | .writer _ | .abandonWrite _ | .crashWriter _ | .recoverWriter _ => true
  | .read _ | .reader _ | .abandonRead _ | .crashReader _ | .recoverReader _ => false

/-- A step of the calls themselves: nobody crashes. -/
def Label.live : Label Field → Bool
  | .write _ _ | .writer _ | .abandonWrite _ | .read _ | .reader _ | .abandonRead _ => true
  | .crashWriter _ | .recoverWriter _ | .crashReader _ | .recoverReader _ => false

/-- A step of the writer side moves its own worker, and leaves the readers alone. -/
theorem moves_writer (stepped : shm.step label = some next) (writer : label.ofWriter = true) :
    next.readers = shm.readers ∧ next.readerIndex = shm.readerIndex ∧
      ∃ place, next.writers = Function.update shm.writers label.worker place ∧
        (∀ widx message, place = .waiting widx message → widx = next.writerIndex ∨ next = shm) ∧
        (label.live = true → (shm.writers label.worker).recovers = false →
          place.recovers = false) := by
  cases label with
  | write worker message =>
    simp only [step] at stepped
    split at stepped
    · split at stepped <;> cases stepped
      exact ⟨rfl, rfl, _, rfl, fun _ _ here => by cases here; exact .inl rfl, fun _ _ => rfl⟩
    · cases stepped
  | writer worker =>
    simp only [step, stepWriter] at stepped
    split at stepped
    · split at stepped <;> cases stepped
      · exact ⟨rfl, rfl, _, (Function.update_eq_self worker _).symm, fun _ _ _ => .inr rfl,
          fun _ steady => steady⟩
      · exact ⟨rfl, rfl, _, rfl, by rintro _ _ ⟨⟩, fun _ _ => rfl⟩
    · split at stepped <;> cases stepped <;> exact ⟨rfl, rfl, _, rfl, by rintro _ _ ⟨⟩, fun _ _ => rfl⟩
    · cases stepped
      exact ⟨rfl, rfl, _, rfl, by rintro _ _ ⟨⟩, fun _ _ => rfl⟩
    · rename_i place
      cases stepped
      refine ⟨rfl, rfl, _, rfl, fun _ _ here => ?_, fun _ steady => ?_⟩
      · split at here <;> cases here
      · rw [Label.worker, place] at steady
        cases steady
    · rename_i place
      cases stepped
      refine ⟨rfl, rfl, _, rfl, fun _ _ here => ?_, fun _ steady => ?_⟩
      · split at here <;> cases here
      · rw [Label.worker, place] at steady
        cases steady
    · cases stepped
      exact ⟨rfl, rfl, _, rfl, by rintro _ _ ⟨⟩, fun _ _ => rfl⟩
    · cases stepped
    · cases stepped
  | abandonWrite worker =>
    simp only [step, abandonWrite] at stepped
    split at stepped <;> cases stepped <;> exact ⟨rfl, rfl, _, rfl, by rintro _ _ ⟨⟩, fun _ _ => rfl⟩
  | crashWriter worker =>
    cases stepped
    exact ⟨rfl, rfl, _, rfl, by rintro _ _ ⟨⟩, by rintro ⟨⟩⟩
  | recoverWriter worker =>
    simp only [step] at stepped
    split at stepped <;> cases stepped
    exact ⟨rfl, rfl, _, rfl, by rintro _ _ ⟨⟩, by rintro ⟨⟩⟩
  | read | reader | abandonRead | crashReader | recoverReader => cases writer

theorem moves_reader (stepped : shm.step label = some next) (reader : label.ofWriter = false) :
    next.writers = shm.writers ∧ next.writerIndex = shm.writerIndex ∧
      ∃ place, next.readers = Function.update shm.readers label.worker place ∧
        (∀ ridx, place = .waiting ridx → ridx = next.readerIndex ∨ next = shm) ∧
        (label.live = true → (shm.readers label.worker).recovers = false →
          place.recovers = false) := by
  cases label with
  | read worker =>
    simp only [step] at stepped
    split at stepped <;> cases stepped
    exact ⟨rfl, rfl, _, rfl, fun _ here => by cases here; exact .inl rfl, fun _ _ => rfl⟩
  | reader worker =>
    simp only [step, stepReader] at stepped
    split at stepped
    · split at stepped <;> cases stepped
      · exact ⟨rfl, rfl, _, rfl, by rintro _ ⟨⟩, fun _ _ => rfl⟩
      · exact ⟨rfl, rfl, _, (Function.update_eq_self worker _).symm, fun _ _ => .inr rfl,
          fun _ steady => steady⟩
    · split at stepped <;> cases stepped <;> exact ⟨rfl, rfl, _, rfl, by rintro _ ⟨⟩, fun _ _ => rfl⟩
    · cases stepped
      exact ⟨rfl, rfl, _, rfl, by rintro _ ⟨⟩, fun _ _ => rfl⟩
    · rename_i place
      cases stepped
      refine ⟨rfl, rfl, _, rfl, fun _ here => ?_, fun _ steady => ?_⟩
      · split at here <;> cases here
      · rw [Label.worker, place] at steady
        cases steady
    · rename_i place
      cases stepped
      refine ⟨rfl, rfl, _, rfl, fun _ here => ?_, fun _ steady => ?_⟩
      · split at here <;> cases here
      · rw [Label.worker, place] at steady
        cases steady
    · cases stepped
      exact ⟨rfl, rfl, _, rfl, by rintro _ ⟨⟩, fun _ _ => rfl⟩
    · cases stepped
    · cases stepped
  | abandonRead worker =>
    simp only [step, abandonRead] at stepped
    split at stepped <;> cases stepped <;> exact ⟨rfl, rfl, _, rfl, by rintro _ ⟨⟩, fun _ _ => rfl⟩
  | crashReader worker =>
    cases stepped
    exact ⟨rfl, rfl, _, rfl, by rintro _ ⟨⟩, by rintro ⟨⟩⟩
  | recoverReader worker =>
    simp only [step] at stepped
    split at stepped <;> cases stepped
    exact ⟨rfl, rfl, _, rfl, by rintro _ ⟨⟩, by rintro ⟨⟩⟩
  | write | writer | abandonWrite | crashWriter | recoverWriter => cases reader

/-- Everyone from a number on has not been heard of. -/
def Few (count : Nat) (shm : VideoShm Field) : Prop :=
  ∀ other, count ≤ other → shm.writers other = .idle ∧ shm.readers other = .idle

theorem Few.step {count : Nat} (few : Few count shm) (among : label.worker < count)
    (stepped : shm.step label = some next) : Few count next := by
  intro other outside
  have different : other ≠ label.worker := by omega
  cases side : label.ofWriter with
  | true =>
    obtain ⟨readers, _, place, writers, _⟩ := moves_writer stepped side
    rw [readers, writers, Function.update_of_ne different]
    exact few other outside
  | false =>
    obtain ⟨writers, _, place, readers, _⟩ := moves_reader stepped side
    rw [writers, readers, Function.update_of_ne different]
    exact few other outside

/-- The first writer is the only one, and waits with the current index. -/
structure SingleWriter (shm : VideoShm Field) : Prop where
  others : ∀ other, other ≠ 0 → shm.writers other = .idle
  current : ∀ widx message, shm.writers 0 = .waiting widx message → widx = shm.writerIndex

theorem SingleWriter.alone (single : SingleWriter shm) : shm.WriterAlone 0 := by
  intro other different
  rw [single.others other different]
  rfl

theorem SingleWriter.step (single : SingleWriter shm)
    (first : label.ofWriter = true → label.worker = 0) (stepped : shm.step label = some next) :
    SingleWriter next := by
  cases side : label.ofWriter with
  | true =>
    obtain ⟨_, _, place, writers, waits, _⟩ := moves_writer stepped side
    rw [first side] at writers
    refine ⟨fun other different => ?_, fun widx message here => ?_⟩
    · rw [writers, Function.update_of_ne different]
      exact single.others other different
    · rw [writers, Function.update_self] at here
      rcases waits widx message here with current | rfl
      · exact current
      · refine single.current widx message ?_
        rw [writers, Function.update_self, here]
  | false =>
    obtain ⟨writers, index, _⟩ := moves_reader stepped side
    constructor
    · rw [writers]
      exact single.others
    · rw [writers, index]
      exact single.current

structure SingleReader (shm : VideoShm Field) : Prop where
  others : ∀ other, other ≠ 0 → shm.readers other = .idle
  current : ∀ ridx, shm.readers 0 = .waiting ridx → ridx = shm.readerIndex

theorem SingleReader.alone (single : SingleReader shm) : shm.ReaderAlone 0 := by
  intro other different
  rw [single.others other different]
  rfl

theorem SingleReader.step (single : SingleReader shm)
    (first : label.ofWriter = false → label.worker = 0) (stepped : shm.step label = some next) :
    SingleReader next := by
  cases side : label.ofWriter with
  | false =>
    obtain ⟨_, _, place, readers, waits, _⟩ := moves_reader stepped side
    rw [first side] at readers
    refine ⟨fun other different => ?_, fun ridx here => ?_⟩
    · rw [readers, Function.update_of_ne different]
      exact single.others other different
    · rw [readers, Function.update_self] at here
      rcases waits ridx here with current | rfl
      · exact current
      · refine single.current ridx ?_
        rw [readers, Function.update_self, here]
  | true =>
    obtain ⟨readers, index, _⟩ := moves_writer stepped side
    constructor
    · rw [readers]
      exact single.others
    · rw [readers, index]
      exact single.current

/-- Alone on its side nobody's wait ends too late. -/
theorem SingleWriter.exclusive (single : SingleWriter shm) (writer : label.ofWriter = true)
    (first : label.worker = 0) : shm.Exclusive label := by
  cases label <;> cases first
  case writer =>
    intro widx waits _
    cases place : shm.writers 0 <;> rw [place] at waits <;> cases waits
    exact ⟨single.current _ _ place, single.alone⟩
  case crashWriter => exact single.alone
  case reader | crashReader => cases writer
  all_goals trivial

theorem SingleReader.exclusive (single : SingleReader shm) (reader : label.ofWriter = false)
    (first : label.worker = 0) : shm.Exclusive label := by
  cases label <;> cases first
  case reader =>
    intro ridx waits _
    cases place : shm.readers 0 <;> rw [place] at waits <;> cases waits
    exact ⟨single.current _ place, single.alone⟩
  case crashReader => exact single.alone
  case writer | crashWriter => cases reader
  all_goals trivial

theorem SingleWriter.opened (slots fields : Nat) (zero : Field) :
    SingleWriter (opened slots fields zero) :=
  ⟨fun _ _ => rfl, nofun⟩

theorem SingleReader.opened (slots fields : Nat) (zero : Field) :
    SingleReader (opened slots fields zero) :=
  ⟨fun _ _ => rfl, nofun⟩

end InferenceServer.Ipc.VideoShm
