import Mathlib.Algebra.GroupWithZero.Nat
import Mathlib.Data.Nat.Basic
import Mathlib.Data.List.Basic

/-! Binary formats. A reader takes bytes off the front of a stream, and a format is right
when its reader takes exactly what its writer put there, whatever follows. Formats of
records are put together from formats of their fields by the rules below. -/
namespace InferenceServer.Machine

/-- Takes a value off the front of a stream; nothing when the stream ends before. -/
abbrev Reader (α : Type) := StateT (List UInt8) Option α

variable {α β : Type}

/-- The reader takes exactly these bytes, whatever follows them. -/
def Reads (reader : Reader α) (bytes : List UInt8) (value : α) : Prop :=
  ∀ rest, reader.run (bytes ++ rest) = some (value, rest)

namespace Reads

theorem done (value : α) : Reads (pure value) [] value := fun _ => rfl

variable {reader : Reader α} {bytes : List UInt8} {value : α}

theorem bind {next : α → Reader β} {later : List UInt8} {result : β}
    (first : Reads reader bytes value) (second : Reads (next value) later result) :
    Reads (reader >>= next) (bytes ++ later) result := by
  intro rest
  rw [List.append_assoc, StateT.run_bind, first]
  exact second rest

/-- The first of the parts of a record. -/
theorem part {next : α → Reader β} {parts : List (List UInt8)} {result : β}
    (first : Reads reader bytes value) (others : Reads (next value) parts.flatten result) :
    Reads (reader >>= next) (bytes :: parts).flatten result :=
  first.bind others

/-- The last part of a record, from which its value is made. -/
theorem last (read : Reads reader bytes value) (made : α → β) :
    Reads (reader >>= fun value => pure (made value)) bytes (made value) := by
  have composed : Reads (reader >>= fun value => pure (made value)) (bytes ++ []) (made value) :=
    read.bind (.done (made value))
  rwa [List.append_nil] at composed

/-- A flag read as unset ends an optional field. -/
theorem unset {flag : Reader Bool} {present : Reader (Option α)} (read : Reads flag bytes false) :
    Reads (flag >>= fun isSet => if isSet = true then present else pure none) bytes none := by
  intro rest
  rw [StateT.run_bind, read]
  rfl

theorem map (read : Reads reader bytes value) (change : α → β) :
    Reads (change <$> reader) bytes (change value) := by
  intro rest
  rw [StateT.run_map, read]
  rfl

end Reads

/-- A writer with a reader for what it writes. -/
structure Codec (α : Type) where
  write : α → List UInt8
  read : Reader α
  reads : ∀ value, Reads read (write value) value

def readByte : Reader UInt8
  | [] => none
  | byte :: rest => some (byte, rest)

/-- The lowest bytes of a number, the least significant first. -/
def littleEndian : Nat → Nat → List UInt8
  | 0, _ => []
  | size + 1, number => UInt8.ofNat number :: littleEndian size (number / 256)

def readLittleEndian : Nat → Reader Nat
  | 0 => pure 0
  | size + 1 => do
    let low ← readByte
    let high ← readLittleEndian size
    return low.toNat + 256 * high

theorem reads_littleEndian (size : Nat) : ∀ number < 256 ^ size,
    Reads (readLittleEndian size) (littleEndian size number) number := by
  induction size with
  | zero =>
    intro number bound
    obtain rfl : number = 0 := by simpa using bound
    exact .done 0
  | succ size ih =>
    intro number bound
    have high : number / 256 < 256 ^ size := by
      rw [Nat.pow_succ] at bound
      exact Nat.div_lt_of_lt_mul (by omega)
    have low : Reads readByte [UInt8.ofNat number] (UInt8.ofNat number) := fun _ => rfl
    have whole : (UInt8.ofNat number).toNat + 256 * (number / 256) = number := by
      rw [UInt8.toNat_ofNat']
      omega
    have composed : Reads (readLittleEndian (size + 1)) (littleEndian (size + 1) number) _ :=
      low.bind ((ih _ high).last fun high => (UInt8.ofNat number).toNat + 256 * high)
    rwa [whole] at composed

@[simp] theorem length_littleEndian (size number : Nat) :
    (littleEndian size number).length = size := by
  induction size generalizing number with
  | zero => rfl
  | succ size ih => simp [littleEndian, ih]

/-- The number that bytes stand for, the least significant first. -/
theorem foldr_littleEndian (size : Nat) : ∀ number < 256 ^ size,
    (littleEndian size number).foldr (fun low high => 256 * high + low.toNat) 0 = number := by
  induction size with
  | zero =>
    intro number bound
    obtain rfl : number = 0 := by simpa using bound
    rfl
  | succ size ih =>
    intro number bound
    rw [Nat.pow_succ] at bound
    rw [littleEndian, List.foldr_cons, ih _ (Nat.div_lt_of_lt_mul (by omega)), UInt8.toNat_ofNat']
    omega

/-- A type of fixed width, kept as the bytes of a number. -/
class Scalar (α : Type) where
  size : Nat
  toNat : α → Nat
  ofNat : Nat → α
  toNat_lt : ∀ value, toNat value < 256 ^ size
  ofNat_toNat : ∀ value, ofNat (toNat value) = value

instance : Scalar UInt8 where
  size := 1
  toNat := UInt8.toNat
  ofNat := UInt8.ofNat
  toNat_lt := UInt8.toNat_lt
  ofNat_toNat _ := UInt8.ofNat_toNat

instance : Scalar UInt32 where
  size := 4
  toNat := UInt32.toNat
  ofNat := UInt32.ofNat
  toNat_lt := UInt32.toNat_lt
  ofNat_toNat _ := UInt32.ofNat_toNat

instance : Scalar UInt64 where
  size := 8
  toNat := UInt64.toNat
  ofNat := UInt64.ofNat
  toNat_lt := UInt64.toNat_lt
  ofNat_toNat _ := UInt64.ofNat_toNat

instance : Scalar Int32 where
  size := 4
  toNat value := value.toUInt32.toNat
  ofNat number := (UInt32.ofNat number).toInt32
  toNat_lt value := value.toUInt32.toNat_lt
  ofNat_toNat value := by simp

instance : Scalar Bool where
  size := 1
  toNat := Bool.toNat
  ofNat number := number ≠ 0
  toNat_lt value := by cases value <;> decide
  ofNat_toNat value := by cases value <;> rfl

/-- The bits of a floating-point number of 32 bits, copied and never computed with. -/
abbrev Float32Bits := UInt32

/-- The bytes of a scalar as they lie in memory. -/
def Codec.scalar [Scalar α] : Codec α where
  write value := littleEndian (Scalar.size α) (Scalar.toNat value)
  read := Scalar.ofNat <$> readLittleEndian (Scalar.size α)
  reads value := by
    have read := (reads_littleEndian _ _ (Scalar.toNat_lt value)).map (Scalar.ofNat (α := α))
    rwa [Scalar.ofNat_toNat] at read

/-- A sequence that a 64-bit number can count. -/
structure Vec (α : Type) where
  items : List α
  counted : items.length < UInt64.size
  deriving DecidableEq

theorem Vec.counted_nil : ([] : List α).length < UInt64.size := Nat.two_pow_pos 64

def Vec.empty : Vec α := ⟨[], Vec.counted_nil⟩

instance : Inhabited (Vec α) := ⟨Vec.empty⟩

namespace Codec

/-- As many values as are asked for. -/
def readMany (codec : Codec α) : (count : Nat) → Reader {items : List α // items.length = count}
  | 0 => pure ⟨[], rfl⟩
  | count + 1 => do
    let first ← codec.read
    let others ← codec.readMany count
    return ⟨first :: others.val, by simp [others.property]⟩

theorem readMany_reads (codec : Codec α) (items : List α) : ∀ count (length : items.length = count),
    Reads (codec.readMany count) (items.flatMap codec.write) ⟨items, length⟩ := by
  induction items with
  | nil =>
    rintro _ rfl
    exact .done _
  | cons first others ih =>
    rintro _ rfl
    exact (codec.reads first).bind ((ih others.length rfl).last _)

/-- A 64-bit count and then the items. -/
def counted (codec : Codec α) : Codec (Vec α) where
  write vec := [scalar.write (UInt64.ofNat vec.items.length),
    vec.items.flatMap codec.write].flatten
  read := do
    let size : UInt64 ← scalar.read
    let items ← codec.readMany size.toNat
    return ⟨items.val, by rw [items.property]; exact size.toNat_lt⟩
  reads vec := by
    have size : vec.items.length = (UInt64.ofNat vec.items.length).toNat :=
      (UInt64.toNat_ofNat_of_lt' vec.counted).symm
    exact .part (scalar.reads _) (.part (codec.readMany_reads vec.items _ size) (.done vec))

def empty : Codec Unit where
  write _ := []
  read := pure ()
  reads value := .done value

/-- One value after the other. -/
def pair (first : Codec α) (second : Codec β) : Codec (α × β) where
  write values := first.write values.1 ++ second.write values.2
  read := do
    let left ← first.read
    let right ← second.read
    return (left, right)
  reads values := (first.reads values.1).bind ((second.reads values.2).last (values.1, ·))

/-- A record by its fields. -/
def record (fields : Codec α) (make : α → β) (view : β → α)
    (whole : ∀ value, make (view value) = value) : Codec β where
  write value := fields.write (view value)
  read := make <$> fields.read
  reads value := by
    have read := (fields.reads (view value)).map make
    rwa [whole] at read

end Codec

end InferenceServer.Machine
