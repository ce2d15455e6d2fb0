import InferenceServer.Machine.Codec

/-! Reading a span of bytes from a position. The bytes are reached only place by place, and an
access outside the span is a failure of its own, so that a reader can be shown never to make
one. A reader that stays inside and does not look at where the span ends, once it has what it
wants, refuses every proper prefix of what it reads. -/
namespace InferenceServer.Machine

/-- Why a reader gives no value. -/
inductive ReadFailure
  | malformed
  | outside
  deriving DecidableEq

abbrev SpanReader (α : Type) := ReaderT (List UInt8) (StateT Nat (Except ReadFailure)) α

variable {α β : Type} (taken : List UInt8)

namespace SpanReader

/-- The byte at the position, which moves on. -/
def next : SpanReader UInt8 := fun span pos =>
  match span[pos]? with
  | none => .error .outside
  | some byte => .ok (byte, pos + 1)

def refuse : SpanReader α := fun _ _ => .error .malformed

/-- Refuses where fewer bytes remain. -/
def require (count : Nat) : SpanReader Unit := fun span pos =>
  if pos + count > span.length then .error .malformed else .ok ((), pos)

/-- As many values as are asked for. -/
def many (reader : SpanReader α) : Nat → SpanReader (List α)
  | 0 => pure []
  | count + 1 => do
    let first ← reader
    let others ← many reader count
    return first :: others

/-- As many bytes as are asked for, if they remain. -/
def bytes (count : Nat) : SpanReader (List UInt8) := do
  require count
  many next count

theorem bind_ok {reader : SpanReader α} {next : α → SpanReader β} {span : List UInt8}
    {pos after : Nat} {result : β} (ran : (reader >>= next) span pos = .ok (result, after)) :
    ∃ value middle, reader span pos = .ok (value, middle) ∧
      next value span middle = .ok (result, after) := by
  change (reader span pos >>= fun step => next step.1 span step.2) = _ at ran
  cases first : reader span pos with
  | error failure =>
    rw [first] at ran
    cases ran
  | ok step =>
    rw [first] at ran
    exact ⟨step.1, step.2, rfl, ran⟩

theorem ok_bind {reader : SpanReader α} {span : List UInt8} {pos middle : Nat} {value : α}
    (ran : reader span pos = .ok (value, middle)) (next : α → SpanReader β) :
    (reader >>= next) span pos = next value span middle := by
  change (reader span pos >>= fun step => next step.1 span step.2) = _
  rw [ran]
  rfl

/-- Bytes that remain are read one after the other. -/
theorem many_next {span : List UInt8} : ∀ {count pos : Nat}, pos + count ≤ span.length →
    many next count span pos = .ok ((span.drop pos).take count, pos + count) := by
  intro count
  induction count with
  | zero =>
    intro pos _
    simp only [List.take_zero, Nat.add_zero]
    rfl
  | succ count ih =>
    intro pos remain
    have inside : pos < span.length := by omega
    have first : next span pos = .ok (span[pos], pos + 1) := by
      simp only [next, List.getElem?_eq_getElem inside]
    have others := @ih (pos + 1) (by omega)
    rw [many, ok_bind first, ok_bind others, List.drop_eq_getElem_cons inside, List.take_succ_cons]
    simp only [Nat.add_assoc, Nat.add_comm 1]
    rfl

theorem bytes_eq (count : Nat) (span : List UInt8) (pos : Nat) :
    bytes count span pos =
      if pos + count > span.length then .error .malformed
      else .ok ((span.drop pos).take count, pos + count) := by
  by_cases short : pos + count > span.length
  · rw [if_pos short]
    change (require count span pos >>= fun step => many next count span step.2) = _
    simp only [require, if_pos short]
    rfl
  · have granted : require count span pos = .ok ((), pos) := by simp only [require, if_neg short]
    rw [if_neg short, bytes, ok_bind granted, many_next (by omega)]

end SpanReader

open SpanReader

/-- A reader of at least so many bytes that stays inside the span, and that what comes after
them does not concern. -/
structure Consumes (least : Nat) (reader : SpanReader α) : Prop where
  inside : ∀ {span pos}, pos ≤ span.length → reader span pos ≠ .error .outside
  moves : ∀ {span pos value after}, pos ≤ span.length → reader span pos = .ok (value, after) →
    pos + least ≤ after ∧ after ≤ span.length
  extend : ∀ {span pos value after}, pos ≤ span.length → reader span pos = .ok (value, after) →
    ∀ more, reader (span ++ more) pos = .ok (value, after)

namespace Consumes

theorem done (value : α) : Consumes 0 (pure value) where
  inside _ := nofun
  moves inside ran := by
    cases ran
    exact ⟨Nat.le_refl _, inside⟩
  extend _ ran _ := ran

theorem refuse (least : Nat) : Consumes least (refuse : SpanReader α) where
  inside _ := nofun
  moves _ := nofun
  extend _ := nofun

theorem bind {least others : Nat} {reader : SpanReader α} {next : α → SpanReader β}
    (first : Consumes least reader) (second : ∀ value, Consumes others (next value)) :
    Consumes (least + others) (reader >>= next) where
  inside {span pos} inside outside := by
    change (reader span pos >>= fun step => next step.1 span step.2) = _ at outside
    cases ran : reader span pos with
    | error failure =>
      rw [ran] at outside
      cases outside
      exact first.inside inside ran
    | ok step =>
      rw [ran] at outside
      exact (second step.1).inside (first.moves inside ran).2 outside
  moves inside ran := by
    obtain ⟨value, middle, firstRan, secondRan⟩ := bind_ok ran
    obtain ⟨moved, within⟩ := first.moves inside firstRan
    obtain ⟨further, ends⟩ := (second value).moves within secondRan
    exact ⟨by omega, ends⟩
  extend inside ran more := by
    obtain ⟨value, middle, firstRan, secondRan⟩ := bind_ok ran
    rw [ok_bind (first.extend inside firstRan more)]
    exact (second value).extend (first.moves inside firstRan).2 secondRan more

theorem bytes (count : Nat) : Consumes count (bytes count) where
  inside {span pos} _ outside := by
    rw [bytes_eq] at outside
    split at outside <;> cases outside
  moves _ ran := by
    rw [bytes_eq] at ran
    split at ran
    · cases ran
    · cases ran
      exact ⟨Nat.le_refl _, by omega⟩
  extend _ ran more := by
    rw [bytes_eq] at ran ⊢
    split at ran
    · cases ran
    · rename_i enough
      cases ran
      rw [if_neg (by rw [List.length_append]; omega), List.drop_append_of_le_length (by omega),
        List.take_append_of_le_length (by rw [List.length_drop]; omega)]

theorem many {least : Nat} {reader : SpanReader α} (one : Consumes least reader) (count : Nat) :
    Consumes (count * least) (many reader count) := by
  induction count with
  | zero =>
    rw [Nat.zero_mul]
    exact .done []
  | succ count ih =>
    rw [Nat.succ_mul, Nat.add_comm]
    exact one.bind fun first => ih.bind fun others => .done (first :: others)

theorem weaken {least fewer : Nat} {reader : SpanReader α} (consumes : Consumes least reader)
    (le : fewer ≤ least) : Consumes fewer reader where
  inside := consumes.inside
  moves inside ran := by
    have moved := consumes.moves inside ran
    exact ⟨by omega, moved.2⟩
  extend := consumes.extend

/-- What a reader accepts had at least so many bytes ahead. -/
theorem le_remaining {least : Nat} {reader : SpanReader α} (consumes : Consumes least reader)
    {span : List UInt8} {pos after : Nat} {value : α} (inside : pos ≤ span.length)
    (ran : reader span pos = .ok (value, after)) : least ≤ span.length - pos := by
  have moved := consumes.moves inside ran
  omega

end Consumes

/-- The reader takes exactly these bytes, wherever they lie and whatever follows them. -/
def Decodes (reader : SpanReader α) (written : List UInt8) (value : α) : Prop :=
  ∀ front rest, reader (front ++ (written ++ rest)) front.length =
    .ok (value, front.length + written.length)

namespace Decodes

theorem done (value : α) : Decodes (pure value) [] value := fun _ _ => rfl

variable {reader : SpanReader α} {written : List UInt8} {value : α}

theorem bind {next : α → SpanReader β} {later : List UInt8} {result : β}
    (first : Decodes reader written value) (second : Decodes (next value) later result) :
    Decodes (reader >>= next) (written ++ later) result := by
  intro front rest
  have ran := second (front ++ written) rest
  rw [List.append_assoc, ok_bind (first front _), List.length_append, ← Nat.add_assoc,
    ← List.length_append, ← ran, List.append_assoc]

/-- The first of the parts of a record. -/
theorem part {next : α → SpanReader β} {parts : List (List UInt8)} {result : β}
    (first : Decodes reader written value) (others : Decodes (next value) parts.flatten result) :
    Decodes (reader >>= next) (written :: parts).flatten result :=
  first.bind others

/-- The last part of a record, from which its value is made. -/
theorem last (read : Decodes reader written value) (make : α → β) :
    Decodes (reader >>= fun value => pure (make value)) written (make value) := by
  have composed : Decodes (reader >>= fun value => pure (make value)) (written ++ []) (make value) :=
    read.bind (.done _)
  rwa [List.append_nil] at composed

theorem bytes (written : List UInt8) : Decodes (bytes written.length) written written := by
  intro front rest
  rw [bytes_eq, if_neg (by simp only [List.length_append]; omega), List.drop_left,
    List.take_left]

/-- What is made of so many bytes. -/
theorem made {count : Nat} (length : written.length = count) (make : List UInt8 → α) :
    Decodes (SpanReader.bytes count >>= fun taken => pure (make taken)) written (make written) := by
  subst length
  exact (bytes written).last make

theorem many {reader : SpanReader α} {write : α → List UInt8} {items : List α}
    (each : ∀ item ∈ items, Decodes reader (write item) item) :
    Decodes (many reader items.length) (items.flatMap write) items := by
  induction items with
  | nil => exact .done []
  | cons first others ih =>
    rw [List.flatMap_cons]
    refine (each first List.mem_cons_self).bind ?_
    exact (ih fun item member => each item (List.mem_cons_of_mem _ member)).last (first :: ·)

/-- A reader that takes these bytes takes no proper prefix of them for something else. -/
theorem refuses {least : Nat} {before : List UInt8} (decodes : Decodes reader written value)
    (consumes : Consumes least reader) (isPrefix : before <+: written) (proper : before ≠ written) :
    reader before 0 = .error .malformed := by
  obtain ⟨more, rfl⟩ := isPrefix
  cases ran : reader before 0 with
  | error failure =>
    cases failure with
    | malformed => rfl
    | outside => exact absurd ran (consumes.inside (Nat.zero_le _))
  | ok step =>
    have ends := (consumes.moves (Nat.zero_le _) ran).2
    have whole := decodes [] []
    rw [List.nil_append, List.append_nil, List.length_nil,
      consumes.extend (Nat.zero_le _) ran more] at whole
    have stopped : step.2 = 0 + (before ++ more).length :=
      congrArg Prod.snd (Except.ok.inj whole)
    rw [List.length_append] at stopped
    have nothing : more = [] := List.length_eq_zero_iff.mp (by omega)
    exact absurd (by rw [nothing, List.append_nil]) proper

end Decodes

/-- Whatever the reader accepts, the bytes that it took are related to the value it gave. -/
def Accepts (reader : SpanReader α) (Related : List UInt8 → α → Prop) : Prop :=
  ∀ span pos value after, pos ≤ span.length → reader span pos = .ok (value, after) →
    after ≤ span.length ∧ ∃ taken, span.drop pos = taken ++ span.drop after ∧ Related taken value

namespace Accepts

theorem done {value : α} {Related : List UInt8 → α → Prop} (related : Related [] value) :
    Accepts (pure value) Related := by
  intro span pos value after inside ran
  cases ran
  exact ⟨inside, [], rfl, related⟩

theorem refuse {Related : List UInt8 → α → Prop} : Accepts (refuse : SpanReader α) Related := nofun

theorem bind {reader : SpanReader α} {next : α → SpanReader β} {First : List UInt8 → α → Prop}
    {Related : List UInt8 → β → Prop} (first : Accepts reader First)
    (second : ∀ taken value, First taken value →
      Accepts (next value) fun later result => Related (taken ++ later) result) :
    Accepts (reader >>= next) Related := by
  intro span pos result after inside ran
  obtain ⟨value, middle, firstRan, secondRan⟩ := bind_ok ran
  obtain ⟨within, taken, split, held⟩ := first _ _ _ _ inside firstRan
  obtain ⟨ends, later, others, related⟩ := second taken value held _ _ _ _ within secondRan
  exact ⟨ends, taken ++ later, by rw [split, others, List.append_assoc], related⟩

theorem bytes (count : Nat) :
    Accepts (bytes count) fun taken value => taken = value ∧ value.length = count := by
  intro span pos value after _ ran
  rw [bytes_eq] at ran
  split at ran
  · cases ran
  · rename_i enough
    cases ran
    have drop : span.drop (pos + count) = (span.drop pos).drop count := by rw [List.drop_drop]
    exact ⟨by omega, (span.drop pos).take count, by rw [drop, List.take_append_drop], rfl,
      by rw [List.length_take, List.length_drop]; omega⟩

theorem many {reader : SpanReader α} {write : α → List UInt8}
    (one : Accepts reader fun taken value => taken = write value) (count : Nat) :
    Accepts (many reader count) fun taken values =>
      taken = values.flatMap write ∧ values.length = count := by
  induction count with
  | zero => exact .done ⟨rfl, rfl⟩
  | succ count ih =>
    refine one.bind fun taken value written => ih.bind fun later values others => .done ?_
    rw [written, others.1, List.append_nil, List.flatMap_cons, List.length_cons, others.2]
    exact ⟨rfl, rfl⟩

end Accepts

/-- The number that bytes stand for, the least significant first. -/
def fromLittleEndian : Nat :=
  taken.foldr (fun low high => 256 * high + low.toNat) 0

theorem littleEndian_fromLittleEndian :
    littleEndian taken.length (fromLittleEndian taken) = taken := by
  induction taken with
  | nil => rfl
  | cons low high ih =>
    have byte : low.toNat < 256 := low.toNat_lt
    have whole : fromLittleEndian (low :: high) = 256 * fromLittleEndian high + low.toNat := rfl
    have quotient : (256 * fromLittleEndian high + low.toNat) / 256 = fromLittleEndian high := by
      omega
    have remainder : UInt8.ofNat (256 * fromLittleEndian high + low.toNat) = low := by
      apply UInt8.toNat_inj.mp
      rw [UInt8.toNat_ofNat']
      omega
    rw [whole, List.length_cons, littleEndian, quotient, remainder, ih]

theorem fromLittleEndian_lt : fromLittleEndian taken < 256 ^ taken.length := by
  induction taken with
  | nil => decide
  | cons low high ih =>
    have byte : low.toNat < 256 := low.toNat_lt
    have whole : fromLittleEndian (low :: high) = 256 * fromLittleEndian high + low.toNat := rfl
    rw [whole, List.length_cons, Nat.pow_succ]
    omega

end InferenceServer.Machine
