import InferenceServer.Queues.SpscQueue

/-! What a consumer gets of what a producer has put in. The slots from the next value to be read up
to the last one written hold the stream of values; each side has moved its end of the stream on by
no more than the other side has let it. -/
namespace InferenceServer.Queues
open Machine

variable {Item : Type}

namespace SpscProducer

/-- What the call stores, how many of it, and how many of these are written. -/
def items : SpscProducer Item → List Item
  | pushing value _ | pushed value _ => [value]
  | pushingMany items _ _ _ => items
  | _ => []

def granted : SpscProducer Item → Nat
  | pushing _ _ | pushed _ _ => 1
  | pushingMany _ _ toPush _ => toPush
  | _ => 0

def written : SpscProducer Item → Nat
  | pushed _ _ => 1
  | pushingMany _ _ _ index => index
  | _ => 0

def head? : SpscProducer Item → Option UInt64
  | pushLoaded _ head | pushing _ head | pushed _ head | pushManyLoaded _ head
  | pushingMany _ head _ _ => some head
  | _ => none

/-- What a call is about to ask room for. -/
def asks : SpscProducer Item → Option (List Item)
  | pushLoaded value _ => some [value]
  | pushManyLoaded items _ => some items
  | _ => none

end SpscProducer

namespace SpscConsumer

def granted : SpscConsumer Item → Nat
  | popping _ | popped _ _ => 1
  | poppingMany _ toPop _ => toPop
  | _ => 0

def taken : SpscConsumer Item → List (Option Item)
  | popped _ value => [value]
  | poppingMany _ _ taken => taken
  | _ => []

def tail? : SpscConsumer Item → Option UInt64
  | popLoaded tail | popping tail | popped tail _ | popManyLoaded _ tail
  | poppingMany tail _ _ => some tail
  | _ => none

/-- How many values a call is about to ask for. -/
def asks : SpscConsumer Item → Option Nat
  | popLoaded _ => some 1
  | popManyLoaded maxItems _ => some maxItems
  | _ => none

end SpscConsumer

namespace SpscState

/-- All values that have been written, the last ones perhaps not yet for the consumer to see. -/
def stream (state : SpscState Item) : List Item :=
  state.accepted ++ state.producer.items.take state.producer.written

/-- All values that have been read, the last ones perhaps not yet handed out. -/
def taken (state : SpscState Item) : List (Option Item) := state.popped ++ state.consumer.taken

/-- The queue holds the stream. -/
structure Holds (size : Nat) (state : SpscState Item) : Prop where
  masks : Masks state.queue.mask size
  length : state.queue.buffer.length = size
  head : state.queue.head.toNat = state.accepted.length % size
  tail : state.queue.tail.toNat = state.popped.length % size
  seenHead : ∀ head ∈ state.producer.head?, head = state.queue.head
  seenTail : ∀ tail ∈ state.consumer.tail?, tail = state.queue.tail
  written : state.producer.written ≤ state.producer.granted
  offered : state.producer.granted ≤ state.producer.items.length
  room : state.accepted.length + state.producer.granted < state.popped.length + size
  within_ : state.consumer.taken.length ≤ state.consumer.granted
  filled : state.popped.length + state.consumer.granted ≤ state.accepted.length
  values : state.taken = (state.stream.take state.taken.length).map some
  slots : ∀ number, state.taken.length ≤ number → number < state.stream.length →
    state.queue.buffer[number % size]? = some state.stream[number]?
  returned : ∀ call ∈ state.pushes, call.2 ≤ call.1.length
  handedOut : ∀ call ∈ state.pops, call.1 = call.2.length

variable {size : Nat} {state : SpscState Item}
variable {after : SpscState Item} {capacity : UInt64}

theorem accepted_finish (state : SpscState Item) (queue : LockFreeSPSCQueue Item)
    (producer : SpscProducer Item) (items : List Item) (count : Nat) :
    accepted { state with queue, producer, pushes := state.pushes ++ [(items, count)] } =
      state.accepted ++ items.take count := by
  simp [accepted]

theorem popped_finish (state : SpscState Item) (queue : LockFreeSPSCQueue Item)
    (consumer : SpscConsumer Item) (count : Nat) (values : List (Option Item)) :
    popped { state with queue, consumer, pops := state.pops ++ [(count, values)] } =
      state.popped ++ values := by
  simp [popped]

theorem Holds.stream_length (holds : Holds size state) :
    state.stream.length = state.accepted.length + state.producer.written := by
  rw [stream, List.length_append, List.length_take, Nat.min_eq_left]
  exact holds.written.trans holds.offered

theorem Holds.taken_length (state : SpscState Item) :
    state.taken.length = state.popped.length + state.consumer.taken.length :=
  List.length_append

theorem Holds.ordered (holds : Holds size state) : state.popped.length ≤ state.accepted.length ∧
      state.accepted.length < state.popped.length + size := by
  have filled := holds.filled
  have room := holds.room
  omega

section Producing

section

variable (holds : Holds size state)
include holds

/-- The producer has written nothing, and is where it may write so many. -/
theorem Holds.begin (nothing : state.producer.written = 0) {producer : SpscProducer Item}
    (fresh : producer.written = 0) (seen : ∀ head ∈ producer.head?, head = state.queue.head)
    (offered : producer.granted ≤ producer.items.length)
    (room : state.accepted.length + producer.granted < state.popped.length + size) :
    Holds size { state with producer } := by
  have same : stream { state with producer } = state.stream := by
    rw [stream, stream, fresh, nothing, List.take_zero, List.take_zero]
    rfl
  exact { holds with
    seenHead := seen
    written := fresh.trans_le (Nat.zero_le _)
    offered := offered
    room := room
    values := by rw [same]; exact holds.values
    slots := by rw [same]; exact holds.slots }

/-- One more value is written, into a slot that the consumer has left. -/
theorem Holds.write {index : UInt64} {producer : SpscProducer Item}
    (more : state.producer.written < state.producer.granted)
    (place : index.toNat = (state.accepted.length + state.producer.written) % size)
    (items : producer.items = state.producer.items)
    (granted : producer.granted = state.producer.granted)
    (written : producer.written = state.producer.written + 1)
    (seen : producer.head? = state.producer.head?) :
    Holds size { state with
      queue := state.queue.write index state.producer.items[state.producer.written]?
      producer } := by
  have long := Nat.lt_of_lt_of_le more holds.offered
  have grown : stream { state with
      queue := state.queue.write index state.producer.items[state.producer.written]?
      producer } = state.stream ++ [state.producer.items[state.producer.written]] := by
    rw [stream, stream, items, written, List.take_succ_eq_append_getElem long, List.append_assoc]
    rfl
  have last := holds.stream_length
  have room := holds.room
  have filled := holds.filled
  have taken := Holds.taken_length state
  have within_ := holds.within_
  exact { holds with
    length := List.length_set.trans holds.length
    seenHead := by rw [seen]; exact holds.seenHead
    written := by rw [written, granted]; exact more
    offered := by rw [items, granted]; exact holds.offered
    room := by rw [granted]; exact holds.room
    values := by
      rw [grown]
      refine holds.values.trans (congrArg _ ?_)
      exact (List.take_append_of_le_length (by omega)).symm
    slots := by
      rw [grown]
      intro number low high
      rw [List.length_append, List.length_singleton] at high
      change (state.queue.buffer.set index.toNat _)[number % size]? = _
      rw [place, ← last]
      by_cases here : number = state.stream.length
      · subst here
        rw [List.getElem?_set_self (by rw [holds.length]; exact Nat.mod_lt _ holds.masks.positive),
          List.getElem?_concat_length, List.getElem?_eq_getElem long]
      · have low : state.taken.length ≤ number := low
        have apart : state.stream.length % size ≠ number % size := by
          intro same
          have equal := eq_of_mod_eq same (by omega) (by omega)
          omega
        rw [List.getElem?_set_ne apart, List.getElem?_append_left (by omega)]
        exact holds.slots number low (by omega) }

/-- The index is stored, and what is written is for the consumer to see. -/
theorem Holds.publish {head : UInt64} (all : state.producer.written = state.producer.granted)
    (place : head.toNat = (state.accepted.length + state.producer.granted) % size) :
    Holds size { state with
      queue := { state.queue with head }
      producer := .idle
      pushes := state.pushes ++ [(state.producer.items, state.producer.granted)] } := by
  have accepted : accepted { state with
      queue := { state.queue with head }
      producer := .idle
      pushes := state.pushes ++ [(state.producer.items, state.producer.granted)] } =
        state.stream := by
    rw [accepted_finish, stream, all]
  have same : stream { state with
      queue := { state.queue with head }
      producer := .idle
      pushes := state.pushes ++ [(state.producer.items, state.producer.granted)] } =
        state.stream := by
    rw [stream, accepted]
    exact List.append_nil _
  have length := holds.stream_length
  have room := holds.room
  exact { holds with
    head := by rw [accepted, length, all]; exact place
    seenHead := nofun
    written := Nat.le_refl 0
    offered := Nat.le_refl 0
    room := by
      rw [accepted, length, all]
      exact room
    filled := by
      rw [accepted, length]
      exact holds.filled.trans (Nat.le_add_right _ _)
    values := by rw [same]; exact holds.values
    slots := by rw [same]; exact holds.slots
    returned := by
      intro call member
      rcases List.mem_append.mp member with earlier | last
      · exact holds.returned call earlier
      · obtain rfl := List.mem_singleton.mp last
        exact holds.offered }

/-- A call that is granted nothing is over. -/
theorem Holds.refuse (nothing : state.producer.written = 0) (items : List Item) :
    Holds size { state with producer := .idle, pushes := state.pushes ++ [(items, 0)] } := by
  have still : Holds size { state with producer := .idle } :=
    holds.begin nothing rfl nofun (Nat.le_refl 0) holds.ordered.2
  have accepted : accepted { state with producer := .idle, pushes := state.pushes ++ [(items, 0)] } =
      state.accepted := by
    refine (accepted_finish state state.queue .idle items 0).trans ?_
    rw [List.take_zero, List.append_nil]
  have same : stream { state with producer := .idle, pushes := state.pushes ++ [(items, 0)] } =
      stream { state with producer := .idle } := by
    rw [stream, stream, accepted]
    rfl
  exact { still with
    head := by rw [accepted]; exact still.head
    room := by rw [accepted]; exact still.room
    filled := by rw [accepted]; exact still.filled
    values := by rw [same]; exact still.values
    slots := by rw [same]; exact still.slots
    returned := by
      intro call member
      rcases List.mem_append.mp member with earlier | last
      · exact holds.returned call earlier
      · obtain rfl := List.mem_singleton.mp last
        exact Nat.zero_le _ }

end

end Producing

section Consuming

section

variable (holds : Holds size state)
include holds

/-- The consumer has read nothing, and is where it may read so many. -/
theorem Holds.start (nothing : state.consumer.taken = []) {consumer : SpscConsumer Item}
    (fresh : consumer.taken = []) (seen : ∀ tail ∈ consumer.tail?, tail = state.queue.tail)
    (filled : state.popped.length + consumer.granted ≤ state.accepted.length) :
    Holds size { state with consumer } := by
  have same : taken { state with consumer } = state.taken := by
    rw [taken, taken, fresh, nothing]
    rfl
  exact { holds with
    seenTail := seen
    within_ := by rw [fresh]; exact Nat.zero_le _
    filled := filled
    values := by rw [same]; exact holds.values
    slots := by rw [same]; exact holds.slots }

/-- One more value is read, and its slot is left to the producer. -/
theorem Holds.take {index : UInt64} {consumer : SpscConsumer Item}
    (more : state.consumer.taken.length < state.consumer.granted)
    (place : index.toNat = (state.popped.length + state.consumer.taken.length) % size)
    (granted : consumer.granted = state.consumer.granted)
    (taken : consumer.taken = state.consumer.taken ++ [state.queue.read index])
    (seen : consumer.tail? = state.consumer.tail?) :
    Holds size { state with queue := state.queue.write index none, consumer } := by
  have last := holds.stream_length
  have room := holds.room
  have filled := holds.filled
  have written := holds.written
  have count := Holds.taken_length state
  have inside : state.taken.length < state.stream.length := by omega
  have found : state.queue.read index = some state.stream[state.taken.length] := by
    rw [LockFreeSPSCQueue.read, place, ← count, holds.slots _ (Nat.le_refl _) inside,
      List.getElem?_eq_getElem inside]
    rfl
  have grown : SpscState.taken { state with queue := state.queue.write index none, consumer } =
      state.taken ++ [some state.stream[state.taken.length]] := by
    change state.popped ++ consumer.taken = _
    rw [taken, found, ← List.append_assoc]
    rfl
  exact { holds with
    length := List.length_set.trans holds.length
    seenTail := by rw [seen]; exact holds.seenTail
    within_ := by
      rw [taken, granted, List.length_append]
      exact more
    filled := by rw [granted]; exact holds.filled
    values := by
      rw [grown, List.length_append, List.length_singleton]
      refine Eq.trans ?_ (congrArg (List.map some) (List.take_succ_eq_append_getElem inside)).symm
      rw [List.map_append, ← holds.values]
      rfl
    slots := by
      rw [grown]
      intro number low high
      rw [List.length_append, List.length_singleton] at low
      have high : number < state.stream.length := high
      have apart : index.toNat ≠ number % size := by
        rw [place, ← count]
        intro same
        have equal := eq_of_mod_eq same (by omega) (by omega)
        omega
      refine (List.getElem?_set_ne apart).trans ?_
      exact holds.slots number (by omega) high }

/-- The index is stored, and the slots that were read are for the producer to see. -/
theorem Holds.release {tail : UInt64} (all : state.consumer.taken.length = state.consumer.granted)
    (place : tail.toNat = (state.popped.length + state.consumer.granted) % size) :
    Holds size { state with
      queue := { state.queue with tail }
      consumer := .idle
      pops := state.pops ++ [(state.consumer.granted, state.consumer.taken)] } := by
  have popped : popped { state with
      queue := { state.queue with tail }
      consumer := .idle
      pops := state.pops ++ [(state.consumer.granted, state.consumer.taken)] } =
        state.taken := popped_finish ..
  have same : SpscState.taken { state with
      queue := { state.queue with tail }
      consumer := .idle
      pops := state.pops ++ [(state.consumer.granted, state.consumer.taken)] } =
        state.taken := by
    rw [SpscState.taken, popped]
    exact List.append_nil _
  have count := Holds.taken_length state
  exact { holds with
    tail := by rw [popped, count, all]; exact place
    seenTail := nofun
    room := by
      rw [popped, count]
      have room := holds.room
      exact Nat.lt_of_lt_of_le room (by omega)
    within_ := Nat.le_refl 0
    filled := by
      rw [popped, count, all]
      exact holds.filled
    values := by rw [same]; exact holds.values
    slots := by rw [same]; exact holds.slots
    handedOut := by
      intro call member
      rcases List.mem_append.mp member with earlier | last
      · exact holds.handedOut call earlier
      · obtain rfl := List.mem_singleton.mp last
        exact all.symm }

/-- A call that gets nothing is over. -/
theorem Holds.miss (nothing : state.consumer.taken = []) :
    Holds size { state with consumer := .idle, pops := state.pops ++ [(0, [])] } := by
  have still : Holds size { state with consumer := .idle } :=
    holds.start nothing rfl nofun holds.ordered.1
  have popped : popped { state with consumer := .idle, pops := state.pops ++ [(0, [])] } =
      state.popped := (popped_finish state state.queue .idle 0 []).trans (List.append_nil _)
  have same : SpscState.taken { state with consumer := .idle, pops := state.pops ++ [(0, [])] } =
      SpscState.taken { state with consumer := .idle } := by
    rw [SpscState.taken, SpscState.taken, popped]
    rfl
  exact { still with
    tail := by rw [popped]; exact still.tail
    room := by rw [popped]; exact still.room
    filled := by rw [popped]; exact still.filled
    values := by rw [same]; exact still.values
    slots := by rw [same]; exact still.slots
    handedOut := by
      intro call member
      rcases List.mem_append.mp member with earlier | last
      · exact holds.handedOut call earlier
      · obtain rfl := List.mem_singleton.mp last
        rfl }

end

end Consuming

section

variable (holds : Holds size state)
include holds

/-- What the producer makes of room for so many. -/
theorem Holds.produce (stepped : state.produce = some after) : Holds size after := by
  obtain ⟨ordered, fits⟩ := holds.ordered
  have masks := holds.masks
  have headAt := holds.head
  obtain ⟨queue, producer, consumer, pushes, pops⟩ := state
  unfold SpscState.produce at stepped
  cases producer with
  | idle => cases stepped
  | push value =>
    cases stepped
    exact holds.begin rfl rfl (fun _ same => (Option.some.inj same).symm) (Nat.le_refl 0) fits
  | pushLoaded value head =>
    have seen : head = queue.head := holds.seenHead head rfl
    subst seen
    dsimp only at stepped
    split at stepped
    · cases stepped
      exact holds.refuse rfl [value]
    · rename_i free
      cases stepped
      rw [full_iff masks headAt holds.tail ordered fits] at free
      refine holds.begin rfl rfl (fun _ same => (Option.some.inj same).symm) (Nat.le_refl 1) ?_
      dsimp only [SpscProducer.granted]
      omega
  | pushing value head =>
    cases stepped
    have seen : head = queue.head := holds.seenHead head rfl
    subst seen
    refine holds.write Nat.zero_lt_one ?_ rfl rfl rfl rfl
    exact headAt
  | pushed value head =>
    cases stepped
    have seen : head = queue.head := holds.seenHead head rfl
    subst seen
    exact holds.publish rfl (index_add masks headAt 1)
  | pushMany items =>
    cases stepped
    exact holds.begin rfl rfl (fun _ same => (Option.some.inj same).symm) (Nat.zero_le _) fits
  | pushManyLoaded items head =>
    have seen : head = queue.head := holds.seenHead head rfl
    subst seen
    dsimp only at stepped
    rw [available_eq masks headAt holds.tail ordered fits] at stepped
    split at stepped
    · cases stepped
      exact holds.refuse rfl items
    · cases stepped
      refine holds.begin rfl rfl (fun _ same => (Option.some.inj same).symm)
        (Nat.min_le_left _ _) ?_
      dsimp only [SpscProducer.granted]
      have positive := masks.positive
      omega
  | pushingMany items head toPush index =>
    have seen : head = queue.head := holds.seenHead head rfl
    subst seen
    dsimp only at stepped
    split at stepped
    · rename_i more
      cases stepped
      exact holds.write more
        (index_add masks headAt index) rfl rfl rfl rfl
    · rename_i done
      cases stepped
      have all : index = toPush := Nat.le_antisymm holds.written (Nat.not_lt.mp done)
      exact holds.publish all (index_add masks headAt toPush)

theorem Holds.consume (stepped : state.consume = some after) : Holds size after := by
  obtain ⟨ordered, fits⟩ := holds.ordered
  have masks := holds.masks
  have tailAt := holds.tail
  obtain ⟨queue, producer, consumer, pushes, pops⟩ := state
  unfold SpscState.consume at stepped
  cases consumer with
  | idle => cases stepped
  | pop =>
    cases stepped
    exact holds.start rfl rfl (fun _ same => (Option.some.inj same).symm) ordered
  | popLoaded tail =>
    have seen : tail = queue.tail := holds.seenTail tail rfl
    subst seen
    dsimp only at stepped
    split at stepped
    · cases stepped
      exact holds.miss rfl
    · rename_i some_
      cases stepped
      rw [empty_iff holds.head tailAt ordered fits] at some_
      refine holds.start rfl rfl (fun _ same => (Option.some.inj same).symm) ?_
      dsimp only [SpscConsumer.granted]
      omega
  | popping tail =>
    cases stepped
    have seen : tail = queue.tail := holds.seenTail tail rfl
    subst seen
    refine holds.take Nat.zero_lt_one ?_ rfl rfl rfl
    exact tailAt
  | popped tail value =>
    cases stepped
    have seen : tail = queue.tail := holds.seenTail tail rfl
    subst seen
    exact holds.release rfl (index_add masks tailAt 1)
  | popMany maxItems =>
    cases stepped
    exact holds.start rfl rfl (fun _ same => (Option.some.inj same).symm) ordered
  | popManyLoaded maxItems tail =>
    have seen : tail = queue.tail := holds.seenTail tail rfl
    subst seen
    dsimp only at stepped
    rw [occupied_eq masks holds.head tailAt ordered fits] at stepped
    split at stepped
    · cases stepped
      exact holds.miss rfl
    · cases stepped
      refine holds.start rfl rfl (fun _ same => (Option.some.inj same).symm) ?_
      dsimp only [SpscConsumer.granted]
      omega
  | poppingMany tail toPop taken =>
    have seen : tail = queue.tail := holds.seenTail tail rfl
    subst seen
    dsimp only at stepped
    split at stepped
    · rename_i more
      cases stepped
      exact holds.take more
        (index_add masks tailAt taken.length) rfl rfl rfl
    · rename_i done
      cases stepped
      have all : taken.length = toPop := Nat.le_antisymm holds.within_ (Nat.not_lt.mp done)
      exact holds.release all (index_add masks tailAt toPop)

theorem Holds.step {label : SpscLabel Item} (stepped : state.step label = some after) :
    Holds size after := by
  have ordered := holds.ordered
  cases label with
  | producer => exact holds.produce stepped
  | consumer => exact holds.consume stepped
  | push value | pushMany items =>
    rw [SpscState.step] at stepped
    split at stepped
    · rename_i idle
      cases stepped
      exact holds.begin (by rw [idle]; rfl) rfl nofun (Nat.zero_le _) ordered.2
    · cases stepped
  | pop | popMany maxItems =>
    rw [SpscState.step] at stepped
    split at stepped
    · rename_i idle
      cases stepped
      exact holds.start (by rw [idle]; rfl) rfl nofun ordered.1
    · cases stepped

end

/-- What the queue is for: what is handed out is what was accepted, in order; values that are
accepted stay in their slots until they are read, and are counted; and a call gets what it asks
for as far as there is room for so many values, or as there are values. -/
structure Delivers (capacity : UInt64) (state : SpscState Item) : Prop where
  inOrder : state.popped = (state.accepted.take state.popped.length).map some
  intact : ∀ number, state.taken.length ≤ number → number < state.accepted.length →
    state.queue.buffer[number % state.queue.buffer.length]? = some state.accepted[number]?
  counted : state.queue.size.toNat = state.accepted.length - state.popped.length
  room : ∀ items ∈ state.producer.asks, ∃ after, state.step .producer = some after ∧
    min items.length (capacity.toNat - (state.accepted.length - state.popped.length)) ≤
      after.producer.granted
  supply : ∀ maxItems ∈ state.consumer.asks, ∃ after, state.step .consumer = some after ∧
    after.consumer.granted = min maxItems (state.accepted.length - state.popped.length)
  returned : ∀ call ∈ state.pushes, call.2 ≤ call.1.length
  handedOut : ∀ call ∈ state.pops, call.1 = call.2.length

section

variable (holds : Holds size state)
include holds

theorem Holds.room_for (enough : capacity.toNat < size) {items : List Item}
    (asks : items ∈ state.producer.asks) : ∃ after, state.step .producer = some after ∧
      min items.length (capacity.toNat - (state.accepted.length - state.popped.length)) ≤
        after.producer.granted := by
  obtain ⟨ordered, fits⟩ := holds.ordered
  have full := full_iff holds.masks holds.head holds.tail ordered fits
  have available := available_eq holds.masks holds.head holds.tail ordered fits
  generalize state.accepted.length = past at *
  generalize state.popped.length = first at *
  obtain ⟨queue, producer, consumer, pushes, pops⟩ := state
  unfold SpscState.step SpscState.produce
  cases producer with
  | pushLoaded value head =>
    cases asks
    have seen : head = queue.head := holds.seenHead head rfl
    subst seen
    dsimp only at full ⊢
    split
    · rename_i none_
      refine ⟨_, rfl, ?_⟩
      rw [full] at none_
      dsimp only [SpscProducer.granted]
      omega
    · exact ⟨_, rfl, Nat.min_le_left _ _⟩
  | pushManyLoaded items head =>
    cases asks
    have seen : head = queue.head := holds.seenHead head rfl
    subst seen
    dsimp only at available ⊢
    rw [available]
    split
    · refine ⟨_, rfl, ?_⟩
      dsimp only [SpscProducer.granted]
      omega
    · refine ⟨_, rfl, ?_⟩
      dsimp only [SpscProducer.granted]
      omega
  | idle | push | pushing | pushed | pushMany | pushingMany => cases asks

theorem Holds.supply_of {maxItems : Nat} (asks : maxItems ∈ state.consumer.asks) :
    ∃ after, state.step .consumer = some after ∧
      after.consumer.granted = min maxItems (state.accepted.length - state.popped.length) := by
  obtain ⟨ordered, fits⟩ := holds.ordered
  have empty := empty_iff holds.head holds.tail ordered fits
  have occupied := occupied_eq holds.masks holds.head holds.tail ordered fits
  generalize state.accepted.length = past at *
  generalize state.popped.length = first at *
  obtain ⟨queue, producer, consumer, pushes, pops⟩ := state
  unfold SpscState.step SpscState.consume
  cases consumer with
  | popLoaded tail =>
    cases asks
    have seen : tail = queue.tail := holds.seenTail tail rfl
    subst seen
    dsimp only at empty ⊢
    split
    · rename_i none_
      refine ⟨_, rfl, ?_⟩
      rw [empty] at none_
      dsimp only [SpscConsumer.granted]
      omega
    · rename_i some_
      refine ⟨_, rfl, ?_⟩
      rw [empty] at some_
      dsimp only [SpscConsumer.granted]
      omega
  | popManyLoaded maxItems tail =>
    cases asks
    have seen : tail = queue.tail := holds.seenTail tail rfl
    subst seen
    dsimp only at occupied ⊢
    rw [occupied]
    split
    · rename_i none_
      exact ⟨_, rfl, none_.symm⟩
    · exact ⟨_, rfl, rfl⟩
  | idle | pop | popping | popped | popMany | poppingMany => cases asks

theorem Holds.delivers (enough : capacity.toNat < size) : Delivers capacity state := by
  obtain ⟨ordered, fits⟩ := holds.ordered
  have start : state.stream.take state.popped.length =
      state.accepted.take state.popped.length := List.take_append_of_le_length ordered
  refine ⟨?_, fun number low high => ?_, ?_, fun items asks => holds.room_for enough asks,
    fun maxItems asks => holds.supply_of asks, holds.returned, holds.handedOut⟩
  · have parts := congrArg (List.take state.popped.length) holds.values
    rw [taken, List.take_left, ← List.map_take, List.take_take, List.length_append,
      Nat.min_eq_left (Nat.le_add_right _ _), start] at parts
    exact parts
  · have long : number < state.stream.length := by
      rw [holds.stream_length]
      exact Nat.lt_of_lt_of_le high (Nat.le_add_right _ _)
    rw [holds.length, holds.slots number low long, stream, List.getElem?_append_left high]
  · exact occupied_eq holds.masks holds.head holds.tail ordered fits

end

end SpscState

namespace LockFreeSPSCQueue

/-- A new queue is empty, and has a slot more than it is to have room for. -/
theorem construct_holds {capacity : UInt64} (fits : capacity.toNat + 1 ≤ 2 ^ 63) :
    ∃ queue : LockFreeSPSCQueue Item, construct capacity = some queue ∧
      ∃ size, capacity.toNat < size ∧ SpscState.Holds size { queue } := by
  have next : (capacity + 1).toNat = capacity.toNat + 1 := by
    rw [UInt64.toNat_add, UInt64.toNat_one]
    exact Nat.mod_eq_of_lt (by omega)
  have few : Nat.clog 2 (capacity.toNat + 1) ≤ 63 := Nat.clog_le_of_le_pow fits
  have wide := Nat.pow_le_pow_right Nat.zero_lt_two few
  have covers := Nat.le_pow_clog Nat.one_lt_two (capacity.toNat + 1)
  have positive := Nat.two_pow_pos (Nat.clog 2 (capacity.toNat + 1))
  have ceil : bitCeil (capacity + 1) =
      some (UInt64.ofNat (2 ^ Nat.clog 2 (capacity.toNat + 1))) := by
    rw [bitCeil, next, if_pos fits]
  have size : (UInt64.ofNat (2 ^ Nat.clog 2 (capacity.toNat + 1))).toNat =
      2 ^ Nat.clog 2 (capacity.toNat + 1) := by
    rw [UInt64.toNat_ofNat']
    exact Nat.mod_eq_of_lt (by omega)
  refine ⟨_, by rw [construct, ceil]; rfl, 2 ^ Nat.clog 2 (capacity.toNat + 1), covers, ?_⟩
  exact {
    masks := by
      apply masks_of_bits few
      rw [UInt64.toNat_sub_of_le _ _ (by rw [UInt64.le_iff_toNat_le, size]; exact positive), size]
      exact Nat.sub_add_cancel positive
    length := by rw [List.length_replicate, size]
    head := (Nat.zero_mod _).symm
    tail := (Nat.zero_mod _).symm
    seenHead := nofun
    seenTail := nofun
    written := Nat.le_refl 0
    offered := Nat.le_refl 0
    room := by
      change 0 + 0 < 0 + _
      omega
    within_ := Nat.le_refl 0
    filled := Nat.le_refl 0
    values := rfl
    slots := fun _ _ none_ => nomatch none_
    returned := nofun
    handedOut := nofun }

/-- A capacity of all ones wraps around, and the one slot that is left is the one that is never
used. -/
theorem not_delivers_max (value : Item) :
    ¬ ∃ queue : LockFreeSPSCQueue Item, construct 0xFFFFFFFFFFFFFFFF = some queue ∧
      ∀ state, Reaches SpscState.step (fun _ _ => True) { queue } state →
        SpscState.Delivers 0xFFFFFFFFFFFFFFFF state := by
  rintro ⟨queue, built, delivers⟩
  cases built
  let start : SpscState Item :=
    { queue := { capacity := 1, mask := 0, buffer := [none] } }
  have called : Reaches SpscState.step (fun _ _ => True) start
      { start with producer := .pushLoaded value 0 } :=
    .tail (.tail .refl trivial (by rfl : start.step (.push value) = _)) trivial
      (by rfl : SpscState.step { start with producer := .push value } .producer = _)
  obtain ⟨after, stepped, granted⟩ := (delivers _ called).room [value] rfl
  have refused : SpscState.step { start with producer := .pushLoaded value 0 } .producer =
      some { start with producer := .idle, pushes := [([value], 0)] } :=
    if_pos (show (0 : UInt64) + 1 &&& 0 = 0 by decide)
  obtain rfl := Option.some.inj (stepped.symm.trans refused)
  have none_ : ¬ min 1 ((0xFFFFFFFFFFFFFFFF : UInt64).toNat - (0 - 0)) ≤ 0 := by decide
  exact none_ granted

end LockFreeSPSCQueue

/-- The queue is what it is for with every capacity for which there is a power of two above it. -/
theorem spsc_delivers_iff [Inhabited Item] (capacity : UInt64) :
    (∃ queue : LockFreeSPSCQueue Item, LockFreeSPSCQueue.construct capacity = some queue ∧
      ∀ state, Reaches SpscState.step (fun _ _ => True) { queue } state →
        SpscState.Delivers capacity state) ↔ capacity.toNat + 1 ≤ 2 ^ 63 := by
  constructor
  · rintro ⟨queue, built, delivers⟩
    by_contra wide
    by_cases all : capacity = 0xFFFFFFFFFFFFFFFF
    · subst all
      exact LockFreeSPSCQueue.not_delivers_max default ⟨queue, built, delivers⟩
    · have next : (capacity + 1).toNat = capacity.toNat + 1 := by
        have small := capacity.toNat_lt
        have apart : capacity.toNat ≠ 2 ^ 64 - 1 := fun same => all (UInt64.toNat_inj.mp same)
        rw [UInt64.toNat_add, UInt64.toNat_one]
        exact Nat.mod_eq_of_lt (by omega)
      rw [LockFreeSPSCQueue.construct, bitCeil, next, if_neg wide] at built
      cases built
  · intro fits
    obtain ⟨queue, built, size, enough, holds⟩ :=
      @LockFreeSPSCQueue.construct_holds Item capacity fits
    refine ⟨queue, built, fun state reached => ?_⟩
    have still := reached.invariant (SpscState.Holds size) holds
      fun _ _ _ holds _ stepped => holds.step stepped
    exact still.delivers enough

/-- The largest capacity of all leaves no room for even one value. -/
theorem spsc_max_capacity :
    ¬ ∃ queue : LockFreeSPSCQueue Nat,
      LockFreeSPSCQueue.construct 0xFFFFFFFFFFFFFFFF = some queue ∧
      ∀ state, Reaches SpscState.step (fun _ _ => True) { queue } state →
        SpscState.Delivers 0xFFFFFFFFFFFFFFFF state :=
  LockFreeSPSCQueue.not_delivers_max 0

end InferenceServer.Queues
