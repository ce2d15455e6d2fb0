import InferenceServer.Machine.RingWindow
import InferenceServer.Machine.Run
import Mathlib.Data.Nat.Log

/-! A queue for one producer and one consumer without a lock. Each load and each store of an index
is a step, and so is each access to a slot; the two sides take their steps in any order. -/
namespace InferenceServer.Queues
open Machine

/-- A slot is empty before its first value and after a value has been moved out of it. -/
structure LockFreeSPSCQueue (Item : Type) where
  capacity : UInt64
  mask : UInt64
  buffer : List (Option Item)
  head : UInt64 := 0
  tail : UInt64 := 0

/-- `std::bit_ceil`, which is undefined where the power of two does not fit. -/
def bitCeil (number : UInt64) : Option UInt64 :=
  if number.toNat ≤ 2 ^ 63 then some (UInt64.ofNat (2 ^ Nat.clog 2 number.toNat)) else none

/-- Where the producer is: about to load its own index, to load the other's, to write a slot, and
to store its index. -/
inductive SpscProducer (Item : Type)
  | idle
  | push (value : Item)
  | pushLoaded (value : Item) (head : UInt64)
  | pushing (value : Item) (head : UInt64)
  | pushed (value : Item) (head : UInt64)
  | pushMany (items : List Item)
  | pushManyLoaded (items : List Item) (head : UInt64)
  | pushingMany (items : List Item) (head : UInt64) (toPush index : Nat)

inductive SpscConsumer (Item : Type)
  | idle
  | pop
  | popLoaded (tail : UInt64)
  | popping (tail : UInt64)
  | popped (tail : UInt64) (value : Option Item)
  | popMany (maxItems : Nat)
  | popManyLoaded (maxItems : Nat) (tail : UInt64)
  | poppingMany (tail : UInt64) (toPop : Nat) (taken : List (Option Item))

/-- The queue with its two sides. Of the calls that are over, what a push was given and how many it
has returned, and how many a pop has returned and what it has handed out. -/
structure SpscState (Item : Type) where
  queue : LockFreeSPSCQueue Item
  producer : SpscProducer Item := .idle
  consumer : SpscConsumer Item := .idle
  pushes : List (List Item × Nat) := []
  pops : List (Nat × List (Option Item)) := []

inductive SpscLabel (Item : Type)
  | push (value : Item)
  | pushMany (items : List Item)
  | producer
  | pop
  | popMany (maxItems : Nat)
  | consumer

variable {Item : Type}

namespace LockFreeSPSCQueue

def construct (capacity : UInt64) : Option (LockFreeSPSCQueue Item) :=
  (bitCeil (capacity + 1)).map fun size =>
    { capacity := size, mask := size - 1, buffer := List.replicate size.toNat none }

variable (queue : LockFreeSPSCQueue Item)

def size : UInt64 := (queue.head - queue.tail) &&& queue.mask

def write (index : UInt64) (value : Option Item) : LockFreeSPSCQueue Item :=
  { queue with buffer := queue.buffer.set index.toNat value }

def read (index : UInt64) : Option Item :=
  (queue.buffer[index.toNat]?).join

end LockFreeSPSCQueue

namespace SpscState

variable (state : SpscState Item)

/-- A step of the call that the producer is in. -/
def produce : Option (SpscState Item) :=
  let queue := state.queue
  match state.producer with
  | .idle => none
  | .push value => some { state with producer := .pushLoaded value queue.head }
  | .pushLoaded value head =>
    if (head + 1) &&& queue.mask = queue.tail then
      some { state with producer := .idle, pushes := state.pushes ++ [([value], 0)] }
    else some { state with producer := .pushing value head }
  | .pushing value head =>
    some { state with queue := queue.write head (some value), producer := .pushed value head }
  | .pushed value head => some {
      state with
      queue := { queue with head := (head + 1) &&& queue.mask }
      producer := .idle
      pushes := state.pushes ++ [([value], 1)] }
  | .pushMany items => some { state with producer := .pushManyLoaded items queue.head }
  | .pushManyLoaded items head =>
    let available := (queue.tail - head - 1) &&& queue.mask
    let toPush := min items.length available.toNat
    if toPush = 0 then
      some { state with producer := .idle, pushes := state.pushes ++ [(items, 0)] }
    else some { state with producer := .pushingMany items head toPush 0 }
  | .pushingMany items head toPush index =>
    if index < toPush then some {
      state with
      queue := queue.write ((head + UInt64.ofNat index) &&& queue.mask) items[index]?
      producer := .pushingMany items head toPush (index + 1) }
    else some {
      state with
      queue := { queue with head := (head + UInt64.ofNat toPush) &&& queue.mask }
      producer := .idle
      pushes := state.pushes ++ [(items, toPush)] }

/-- A step of the call that the consumer is in. -/
def consume : Option (SpscState Item) :=
  let queue := state.queue
  match state.consumer with
  | .idle => none
  | .pop => some { state with consumer := .popLoaded queue.tail }
  | .popLoaded tail =>
    if tail = queue.head then
      some { state with consumer := .idle, pops := state.pops ++ [(0, [])] }
    else some { state with consumer := .popping tail }
  | .popping tail => some {
      state with queue := queue.write tail none, consumer := .popped tail (queue.read tail) }
  | .popped tail value => some {
      state with
      queue := { queue with tail := (tail + 1) &&& queue.mask }
      consumer := .idle
      pops := state.pops ++ [(1, [value])] }
  | .popMany maxItems => some { state with consumer := .popManyLoaded maxItems queue.tail }
  | .popManyLoaded maxItems tail =>
    let occupied := (queue.head - tail) &&& queue.mask
    let toPop := min maxItems occupied.toNat
    if toPop = 0 then
      some { state with consumer := .idle, pops := state.pops ++ [(0, [])] }
    else some { state with consumer := .poppingMany tail toPop [] }
  | .poppingMany tail toPop taken =>
    if taken.length < toPop then
      let index := (tail + UInt64.ofNat taken.length) &&& queue.mask
      some {
        state with
        queue := queue.write index none
        consumer := .poppingMany tail toPop (taken ++ [queue.read index]) }
    else some {
      state with
      queue := { queue with tail := (tail + UInt64.ofNat toPop) &&& queue.mask }
      consumer := .idle
      pops := state.pops ++ [(toPop, taken)] }

/-- A side takes a call when it is not in one. -/
def step : SpscLabel Item → Option (SpscState Item)
  | .push value => match state.producer with
    | .idle => some { state with producer := .push value }
    | _ => none
  | .pushMany items => match state.producer with
    | .idle => some { state with producer := .pushMany items }
    | _ => none
  | .producer => state.produce
  | .pop => match state.consumer with
    | .idle => some { state with consumer := .pop }
    | _ => none
  | .popMany maxItems => match state.consumer with
    | .idle => some { state with consumer := .popMany maxItems }
    | _ => none
  | .consumer => state.consume

/-- What the finished calls of the producer have returned as taken. -/
def accepted : List Item :=
  state.pushes.flatMap fun call => call.1.take call.2

/-- What the finished calls of the consumer have handed out. -/
def popped : List (Option Item) := state.pops.flatMap Prod.snd

end SpscState

section Indices

variable {size first past : Nat} {mask head tail : UInt64}

/-- A mask of low bits takes the remainder. -/
theorem toNat_and_mask {bits : Nat} (masks : mask.toNat + 1 = 2 ^ bits) (index : UInt64) :
    (index &&& mask).toNat = index.toNat % 2 ^ bits := by
  rw [UInt64.toNat_and, show mask.toNat = 2 ^ bits - 1 by omega, Nat.and_two_pow_sub_one_eq_mod]

/-- A round of the ring fits into the indices without a rest. -/
structure Masks (mask : UInt64) (size : Nat) : Prop where
  remainder : ∀ index : UInt64, (index &&& mask).toNat = index.toNat % size
  positive : 0 < size
  rounds : size ∣ 2 ^ 64

theorem masks_of_bits {bits : Nat} (few : bits ≤ 63) (masks : mask.toNat + 1 = 2 ^ bits) :
    Masks mask (2 ^ bits) where
  remainder := toNat_and_mask masks
  positive := Nat.two_pow_pos bits
  rounds := Nat.pow_dvd_pow 2 (few.trans (by decide))

variable (masks : Masks mask size)
include masks

theorem index_add (at_ : head.toNat = past % size) (ahead : Nat) :
    ((head + UInt64.ofNat ahead) &&& mask).toNat = (past + ahead) % size := by
  rw [masks.remainder, UInt64.toNat_add, UInt64.toNat_ofNat', Nat.mod_mod_of_dvd _ masks.rounds,
    Nat.add_mod, Nat.mod_mod_of_dvd _ masks.rounds, at_, Nat.mod_mod, ← Nat.add_mod]

variable (headAt : head.toNat = past % size) (tailAt : tail.toNat = first % size)
  (ordered : first ≤ past) (fits : past < first + size)
include headAt tailAt ordered fits

theorem occupied_eq : ((head - tail) &&& mask).toNat = past - first := by
  obtain ⟨rounds, whole⟩ := masks.rounds
  have headRounds := Nat.div_add_mod past size
  have tailRounds := Nat.div_add_mod first size
  have small := tail.toNat_lt
  rw [masks.remainder, UInt64.toNat_sub, Nat.mod_mod_of_dvd _ masks.rounds, headAt, tailAt]
  rw [tailAt] at small
  have shifted : 2 ^ 64 - first % size + past % size + size * (past / size) =
      past - first + size * (rounds + first / size) := by
    rw [Nat.mul_add, ← whole]
    omega
  rw [← Nat.add_mul_mod_self_left _ size (past / size), shifted, Nat.add_mul_mod_self_left,
    Nat.mod_eq_of_lt (by omega)]

theorem available_eq : ((tail - head - 1) &&& mask).toNat = size - 1 - (past - first) := by
  obtain ⟨rounds, whole⟩ := masks.rounds
  have headRounds := Nat.div_add_mod past size
  have tailRounds := Nat.div_add_mod first size
  have small := head.toNat_lt
  rw [masks.remainder, UInt64.toNat_sub, Nat.mod_mod_of_dvd _ masks.rounds, UInt64.toNat_sub,
    Nat.add_mod, Nat.mod_mod_of_dvd _ masks.rounds, ← Nat.add_mod, headAt, tailAt]
  rw [headAt] at small
  have shifted : 2 ^ 64 - (1 : UInt64).toNat + (2 ^ 64 - past % size + first % size) +
      size * (first / size + 1) =
        size - 1 - (past - first) + size * (rounds + rounds + past / size) := by
    rw [Nat.mul_add, Nat.mul_add, Nat.mul_add, ← whole, UInt64.toNat_one]
    omega
  rw [← Nat.add_mul_mod_self_left _ size (first / size + 1), shifted, Nat.add_mul_mod_self_left,
    Nat.mod_eq_of_lt (by omega)]

theorem full_iff : (head + 1) &&& mask = tail ↔ past + 1 = first + size := by
  have next : ((head + 1) &&& mask).toNat = (past + 1) % size := index_add masks headAt 1
  rw [← UInt64.toNat_inj, next, tailAt]
  constructor
  · intro same
    have whole := same.trans (Nat.add_mod_right first size).symm
    exact eq_of_mod_eq whole (by omega) (by omega)
  · intro full
    rw [full, Nat.add_mod_right]

omit masks in
theorem empty_iff : tail = head ↔ first = past := by
  rw [← UInt64.toNat_inj, headAt, tailAt]
  constructor
  · intro same
    exact eq_of_mod_eq same (by omega) (by omega)
  · rintro rfl
    rfl

end Indices

end InferenceServer.Queues
