import InferenceServer.Machine.Handlers
import InferenceServer.Machine.Table
import InferenceServer.PrefixCache.SessionIsolation

/-! The prefix index as a map whose calls are atomic one by one. A registration looks under
its key and inserts when there is nothing; a removal takes the session out and erases the
key when nothing is left. Each may lose what another call registers in between. -/
namespace InferenceServer.PrefixCache
open Machine

variable {Session : Type*} [DecidableEq Session]

/-- The map and the calls so far, in the order of their first steps. -/
structure ConcurrentIndex (Session : Type*) where
  prefixIndex : Table UInt64 (List (PrefixIndexEntry Session)) := ∅
  calls : List (Operation Session) := []

/-- A call between its two steps. -/
inductive Pending (Session : Type*)
  | inserting (sessionId : Session) (keyHash : UInt64) (entry : PrefixIndexEntry Session)
  | erasing (sessionId : Session) (keyHash : UInt64)
  deriving DecidableEq

def Pending.sessionId : Pending Session → Session
  | inserting sessionId _ _ | erasing sessionId _ => sessionId

def Pending.keyHash : Pending Session → UInt64
  | inserting _ keyHash _ | erasing _ keyHash => keyHash

/-- The key whose entries the call looks at. -/
def Operation.keyHash : Operation Session → Option UInt64
  | .registerPrefixHash _ blockInfos => blockInfos.head?.map (·.hash)
  | .remove _ keyHash | .clearThinkTokens _ keyHash => if keyHash = 0 then none else some keyHash

namespace ConcurrentIndex

variable (index : ConcurrentIndex Session)

/-- Applies a function under a key that is there. -/
def modify (keyHash : UInt64)
    (change : List (PrefixIndexEntry Session) → List (PrefixIndexEntry Session)) :
    ConcurrentIndex Session :=
  match index.prefixIndex.lookup keyHash with
  | none => index
  | some entries => { index with prefixIndex := index.prefixIndex.insert keyHash (change entries) }

def call (operation : Operation Session) : ConcurrentIndex Session × Option (Pending Session) :=
  let index := { index with calls := index.calls ++ [operation] }
  match operation with
  | .registerPrefixHash _ [] => (index, none)
  | .registerPrefixHash sessionId (front :: remaining) =>
    match index.prefixIndex.lookup front.hash with
    | none => (index, some (.inserting sessionId front.hash
        { sessionIds := [sessionId]
          remainingBlocks := remaining
          keyBlockThinkTokens := front.accumulatedThinkTokens }))
    | some _ => (index.modify front.hash fun entries =>
        joinEntry sessionId remaining front.accumulatedThinkTokens
          (withoutSession sessionId entries), none)
  | .remove sessionId keyHash =>
    if keyHash = 0 then (index, none)
    else (index.modify keyHash (withoutSession sessionId),
      if (index.prefixIndex.lookup keyHash).map (withoutSession sessionId) = some [] then
        some (.erasing sessionId keyHash)
      else none)
  | .clearThinkTokens sessionId keyHash =>
    if keyHash = 0 then (index, none)
    else (index.modify keyHash fun entries => entries.map (clearEntry sessionId), none)

def resume (pending : Pending Session) : ConcurrentIndex Session :=
  match pending with
  | .inserting _ keyHash entry =>
    { index with prefixIndex := index.prefixIndex.insert keyHash [entry] }
  | .erasing _ keyHash => { index with prefixIndex := index.prefixIndex.erase keyHash }

/-- A key that the map lacks has no entries. -/
def entries : PrefixIndex Session :=
  fun keyHash => (index.prefixIndex.lookup keyHash).getD []

end ConcurrentIndex

/-- The calls of several threads. -/
def indexHandlers : Handlers (ConcurrentIndex Session) (Operation Session) (Pending Session) Unit where
  call := ConcurrentIndex.call
  resume index pending _ := (index.resume pending, none)

abbrev Indexing (Session : Type*) := Running (ConcurrentIndex Session) (Pending Session)

/-- The last call of a session on a key. -/
def lastOn (sessionId : Session) (keyHash : UInt64) (calls : List (Operation Session)) :
    Option (Operation Session) :=
  (calls.filter fun call => call.sessionId = sessionId ∧ call.keyHash = some keyHash).getLast?

/-- The session is in one of the entries. -/
def Contains (entries : List (PrefixIndexEntry Session)) (sessionId : Session) : Prop :=
  ∃ entry ∈ entries, sessionId ∈ entry.sessionIds

/-- When all calls are over, the index is as the calls would leave it one after the other, in
an order in which each session's calls keep theirs, and has every session whose last call
on a key was a registration. -/
structure NothingLost (indexing : Indexing Session) : Prop where
  sequential : ∃ order, order.Perm indexing.shared.calls ∧
    (∀ sessionId, order.filter (·.sessionId = sessionId) =
      indexing.shared.calls.filter (·.sessionId = sessionId)) ∧
    indexing.shared.entries = run order
  contains : ∀ sessionId keyHash blockInfos,
    lastOn sessionId keyHash indexing.shared.calls =
      some (.registerPrefixHash sessionId blockInfos) →
    Contains (indexing.shared.entries keyHash) sessionId

namespace Indexing

/-- The calls of a session come one after the other. -/
def OneThread (indexing : Indexing Session) : Turn (Operation Session) (Pending Session) Unit → Prop
  | .call operation => ∀ pending ∈ indexing.frames, pending.sessionId ≠ operation.sessionId
  | .resume _ _ => True

/-- No registration looks under a key between the two steps of another call on it. -/
def Undisturbed (indexing : Indexing Session) :
    Turn (Operation Session) (Pending Session) Unit → Prop
  | .call (.registerPrefixHash _ blockInfos) =>
    ∀ pending ∈ indexing.frames, some pending.keyHash ≠ blockInfos.head?.map (·.hash)
  | _ => True

end Indexing

/-- A key of the map beside what the calls, one after the other, leave under it, and the
calls that wait on it: they are to erase it while it has no entries, or one is to insert what
the map lacks. -/
inductive KeyState (keyHash : UInt64) : Option (List (PrefixIndexEntry Session)) →
    List (PrefixIndexEntry Session) → List (Pending Session) → Prop
  | settled {found : Option (List (PrefixIndexEntry Session))} {waiting : List (Pending Session)}
      (erasing : ∀ pending ∈ waiting, pending = .erasing pending.sessionId keyHash)
      (empty : waiting ≠ [] → found.getD [] = []) : KeyState keyHash found (found.getD []) waiting
  | inserting {sessionId : Session} {entry : PrefixIndexEntry Session}
      (own : entry.sessionIds = [sessionId]) :
      KeyState keyHash none [entry] [.inserting sessionId keyHash entry]

namespace KeyState

omit [DecidableEq Session]

variable {keyHash : UInt64} {found : Option (List (PrefixIndexEntry Session))}
variable {expected entries : List (PrefixIndexEntry Session)} {waiting : List (Pending Session)}

/-- Nobody waits on the key. -/
theorem idle (state : KeyState keyHash found expected []) : expected = found.getD [] := by
  cases state
  rfl

theorem present (state : KeyState keyHash (some entries) expected waiting) :
    expected = entries ∧ (waiting ≠ [] → entries = []) ∧
      ∀ pending ∈ waiting, pending = .erasing pending.sessionId keyHash := by
  cases state with
  | settled erasing empty => exact ⟨rfl, empty, erasing⟩

/-- A change that leaves the entries of other sessions and the empty list alone. -/
theorem change (state : KeyState keyHash found expected waiting)
    {rewrite : List (PrefixIndexEntry Session) → List (PrefixIndexEntry Session)}
    (nothing : rewrite [] = [])
    (others : ∀ sessionId entry, .inserting sessionId keyHash entry ∈ waiting →
      entry.sessionIds = [sessionId] → rewrite [entry] = [entry]) :
    KeyState keyHash (found.map rewrite) (rewrite expected) waiting := by
  cases state with
  | settled erasing empty =>
    cases found with
    | none =>
      rw [Option.getD_none, nothing]
      exact .settled erasing fun _ => rfl
    | some entries =>
      refine .settled erasing fun waits => ?_
      have none := empty waits
      simp only [Option.getD_some, Option.map_some] at none ⊢
      rw [none, nothing]
  | inserting own =>
    rw [others _ _ (List.mem_singleton_self _) own]
    exact .inserting own

theorem erases {sessionId : Session} (state : KeyState keyHash (some []) expected waiting) :
    KeyState keyHash (some []) expected (.erasing sessionId keyHash :: waiting) := by
  obtain ⟨rfl, -, erasing⟩ := state.present
  refine .settled (fun pending member => ?_) fun _ => rfl
  rcases List.mem_cons.mp member with rfl | old
  · rfl
  · exact erasing pending old

end KeyState

/-- A waiting call takes its second step. -/
theorem KeyState.resumed {index : ConcurrentIndex Session} {pending : Pending Session}
    {expected : List (PrefixIndexEntry Session)} {waiting : List (Pending Session)}
    (state : KeyState pending.keyHash (index.prefixIndex.lookup pending.keyHash) expected waiting)
    (member : pending ∈ waiting) :
    KeyState pending.keyHash ((index.resume pending).prefixIndex.lookup pending.keyHash) expected
      (waiting.erase pending) := by
  generalize index.prefixIndex.lookup pending.keyHash = found at state
  cases pending with
  | inserting sessionId keyHash entry =>
    cases state with
    | settled erasing empty => cases erasing _ member
    | inserting own =>
      cases List.mem_singleton.mp member
      simp only [ConcurrentIndex.resume, Pending.keyHash, AList.lookup_insert,
        List.erase_cons_head]
      exact .settled (fun _ waits => absurd waits List.not_mem_nil) fun waits => absurd rfl waits
  | erasing sessionId keyHash =>
    cases state with
    | settled erasing empty =>
      rw [empty (List.ne_nil_of_mem member)]
      simp only [ConcurrentIndex.resume, Pending.keyHash, AList.lookup_erase]
      exact .settled (fun other waits => erasing other (List.mem_of_mem_erase waits)) fun _ => rfl
    | inserting own => cases List.mem_singleton.mp member

/-- The calls that wait on a key. -/
def waitingOn (keyHash : UInt64) (frames : List (Pending Session)) : List (Pending Session) :=
  frames.filter (·.keyHash = keyHash)

section

omit [DecidableEq Session]

variable (keyHash : UInt64) (pending : Pending Session) (frames : List (Pending Session))

theorem waitingOn_cons_self (same : pending.keyHash = keyHash) :
    waitingOn keyHash (pending :: frames) = pending :: waitingOn keyHash frames :=
  List.filter_cons_of_pos (by simpa using same)

theorem waitingOn_cons_other (different : pending.keyHash ≠ keyHash) :
    waitingOn keyHash (pending :: frames) = waitingOn keyHash frames :=
  List.filter_cons_of_neg (by simpa using different)

end

/-- Every key is as the calls leave it one after the other, but for the calls that wait. -/
def Linear (indexing : Indexing Session) : Prop :=
  ∀ keyHash, KeyState keyHash (indexing.shared.prefixIndex.lookup keyHash)
    (run indexing.shared.calls keyHash) (waitingOn keyHash indexing.frames)

section Modify

omit [DecidableEq Session]

variable (index : ConcurrentIndex Session) (keyHash : UInt64)
variable (rewrite : List (PrefixIndexEntry Session) → List (PrefixIndexEntry Session))

@[simp] theorem ConcurrentIndex.modify_calls : (index.modify keyHash rewrite).calls = index.calls := by
  unfold ConcurrentIndex.modify
  split <;> rfl

theorem ConcurrentIndex.lookup_modify (other : UInt64) :
    (index.modify keyHash rewrite).prefixIndex.lookup other =
      if other = keyHash then (index.prefixIndex.lookup keyHash).map rewrite
      else index.prefixIndex.lookup other := by
  unfold ConcurrentIndex.modify
  cases found : index.prefixIndex.lookup keyHash with
  | none =>
    by_cases same : other = keyHash
    · subst same
      simp [found]
    · simp [same]
  | some entries =>
    by_cases same : other = keyHash
    · subst same
      simp
    · simp [same, AList.lookup_insert_ne same]

end Modify

namespace Linear

variable {indexing : Indexing Session}

section

variable (linear : Linear indexing)
include linear

/-- A call changes the entries of one key. -/
theorem rewrites (operation : Operation Session) (keyHash : UInt64)
    (rewrite : List (PrefixIndexEntry Session) → List (PrefixIndexEntry Session))
    (sequential : (run indexing.shared.calls).apply operation =
      Function.update (run indexing.shared.calls) keyHash
        (rewrite (run indexing.shared.calls keyHash))) (nothing : rewrite [] = [])
    (others : ∀ sessionId entry, .inserting sessionId keyHash entry ∈ indexing.frames →
      entry.sessionIds = [sessionId] → rewrite [entry] = [entry]) :
    Linear { shared := ConcurrentIndex.modify
               { indexing.shared with calls := indexing.shared.calls ++ [operation] } keyHash rewrite
             frames := indexing.frames } := by
  intro key
  simp only [ConcurrentIndex.modify_calls, ConcurrentIndex.lookup_modify, run_concat, sequential]
  by_cases same : key = keyHash
  · subst same
    rw [if_pos rfl, Function.update_self]
    exact (linear key).change nothing fun sessionId entry member =>
      others sessionId entry (List.mem_filter.mp member).1
  · rw [if_neg same, Function.update_of_ne same]
    exact linear key

theorem registers {sessionId : Session} {blockInfos : List BlockHashInfo}
    (undisturbed : indexing.Undisturbed (.call (.registerPrefixHash sessionId blockInfos))) :
    Linear { shared := (indexing.shared.call (.registerPrefixHash sessionId blockInfos)).1
             frames := (indexing.shared.call (.registerPrefixHash sessionId blockInfos)).2.toList ++
               indexing.frames } := by
  cases blockInfos with
  | nil =>
    intro key
    simp only [ConcurrentIndex.call, run_concat]
    exact linear key
  | cons front remaining =>
    have idle : waitingOn front.hash indexing.frames = [] := by
      refine List.filter_eq_nil_iff.mpr fun pending member same => undisturbed pending member ?_
      simpa using same
    have expected := (idle ▸ linear front.hash).idle
    simp only [ConcurrentIndex.call]
    cases found : indexing.shared.prefixIndex.lookup front.hash with
    | none =>
      intro key
      simp only [run_concat, PrefixIndex.apply, PrefixIndex.registerPrefixHash]
      by_cases same : key = front.hash
      · subst same
        rw [found, Option.getD_none] at expected
        rw [Function.update_self, found, expected, Option.toList_some, List.singleton_append,
          waitingOn_cons_self front.hash (.inserting ..) _ rfl, idle]
        exact .inserting rfl
      · rw [Function.update_of_ne same, Option.toList_some, List.singleton_append,
          waitingOn_cons_other key (.inserting ..) _ (Ne.symm same)]
        exact linear key
    | some entries =>
      intro key
      simp only [ConcurrentIndex.modify_calls, ConcurrentIndex.lookup_modify, run_concat,
        PrefixIndex.apply, PrefixIndex.registerPrefixHash, Option.toList_none, List.nil_append]
      by_cases same : key = front.hash
      · subst same
        rw [found, Option.getD_some] at expected
        rw [Function.update_self, if_pos rfl, found, expected, idle]
        exact .settled (fun _ member => absurd member List.not_mem_nil) fun waits => absurd rfl waits
      · rw [Function.update_of_ne same, if_neg same]
        exact linear key

/-- A removal that has left an empty key is to erase it. -/
theorem awaits {sessionId : Session} {keyHash : UInt64}
    (empty : indexing.shared.prefixIndex.lookup keyHash = some []) :
    Linear { shared := indexing.shared
             frames := .erasing sessionId keyHash :: indexing.frames } := by
  intro key
  by_cases same : key = keyHash
  · subst same
    have state := linear key
    rw [empty] at state
    rw [empty, waitingOn_cons_self key (.erasing ..) _ rfl]
    exact state.erases
  · rw [waitingOn_cons_other key (.erasing ..) _ (Ne.symm same)]
    exact linear key

end

/-- Another call takes nothing from what a waiting registration inserts. -/
theorem withoutSession_other {sessionId other : Session} {entry : PrefixIndexEntry Session}
    (own : entry.sessionIds = [other]) (different : other ≠ sessionId) :
    withoutSession sessionId [entry] = [entry] := by
  obtain ⟨sessionIds, remainingBlocks, keyBlockThinkTokens⟩ := entry
  subst own
  simp [withoutSession, different]

theorem clearEntry_other {sessionId other : Session} {entry : PrefixIndexEntry Session}
    (own : entry.sessionIds = [other]) (different : other ≠ sessionId) :
    [entry].map (clearEntry sessionId) = [entry] := by
  simp [clearEntry, own, Ne.symm different]

theorem called (linear : Linear indexing) {operation : Operation Session}
    (oneThread : indexing.OneThread (.call operation))
    (undisturbed : indexing.Undisturbed (.call operation)) :
    Linear { shared := (indexing.shared.call operation).1
             frames := (indexing.shared.call operation).2.toList ++ indexing.frames } := by
  cases operation with
  | registerPrefixHash sessionId blockInfos => exact linear.registers undisturbed
  | remove sessionId keyHash =>
    simp only [ConcurrentIndex.call]
    split
    · rename_i zero
      intro key
      simp only [run_concat, PrefixIndex.apply, PrefixIndex.remove, if_pos zero]
      exact linear key
    · rename_i nonzero
      have removed := linear.rewrites (.remove sessionId keyHash) keyHash (withoutSession sessionId)
        (by simp only [PrefixIndex.apply, PrefixIndex.remove, if_neg nonzero]) rfl
        fun other entry member own => withoutSession_other own (oneThread _ member)
      split
      · rename_i empty
        refine removed.awaits ?_
        rw [ConcurrentIndex.lookup_modify, if_pos rfl]
        exact empty
      · exact removed
  | clearThinkTokens sessionId keyHash =>
    simp only [ConcurrentIndex.call]
    split
    · rename_i zero
      intro key
      simp only [run_concat, PrefixIndex.apply, PrefixIndex.clearThinkTokens, if_pos zero]
      exact linear key
    · rename_i nonzero
      refine linear.rewrites (.clearThinkTokens sessionId keyHash) keyHash
        (List.map (clearEntry sessionId)) ?_ rfl fun other entry member own =>
          clearEntry_other own (oneThread _ member)
      simp only [PrefixIndex.apply, PrefixIndex.clearThinkTokens, if_neg nonzero]

theorem resumed (linear : Linear indexing) {pending : Pending Session}
    (waits : pending ∈ indexing.frames) :
    Linear { shared := indexing.shared.resume pending
             frames := indexing.frames.erase pending } := by
  intro key
  have state := linear key
  have left : waitingOn key (indexing.frames.erase pending) =
      (waitingOn key indexing.frames).erase pending := List.erase_filter.symm
  have calls : (indexing.shared.resume pending).calls = indexing.shared.calls := by
    cases pending <;> rfl
  rw [left, calls]
  by_cases same : key = pending.keyHash
  · have member : pending ∈ waitingOn key indexing.frames :=
      List.mem_filter.mpr ⟨waits, by simp [same]⟩
    subst same
    exact state.resumed member
  · have absent : pending ∉ waitingOn key indexing.frames := by
      simp [waitingOn, List.mem_filter, Ne.symm same]
    rw [List.erase_of_not_mem absent]
    cases pending with
    | inserting sessionId keyHash entry =>
      have other : key ≠ keyHash := same
      simpa only [ConcurrentIndex.resume, AList.lookup_insert_ne other] using state
    | erasing sessionId keyHash =>
      have other : key ≠ keyHash := same
      simpa only [ConcurrentIndex.resume, AList.lookup_erase_ne other] using state

end Linear

section Contains

variable {sessionId other : Session} {entries : List (PrefixIndexEntry Session)}

theorem contains_iff (keyHash : UInt64) :
    Contains entries sessionId ↔ held keyHash sessionId entries ≠ [] := by
  constructor
  · rintro ⟨entry, member, named⟩
    exact List.ne_nil_of_mem (mem_held.mpr ⟨entry, member, named, rfl⟩)
  · intro nonempty
    obtain ⟨blocks, member⟩ := List.exists_mem_of_ne_nil _ nonempty
    obtain ⟨entry, there, named, -⟩ := mem_held.mp member
    exact ⟨entry, there, named⟩

theorem Contains.withoutSession (contained : Contains entries sessionId)
    (different : sessionId ≠ other) : Contains (withoutSession other entries) sessionId := by
  rw [contains_iff 0] at contained ⊢
  rwa [held_withoutSession_other different]

theorem contains_joinEntry_self (sessionId : Session) (remaining : List RemainingBlockInfo)
    (keyThinkCount : Nat) (entries : List (PrefixIndexEntry Session)) :
    Contains (joinEntry sessionId remaining keyThinkCount
      (PrefixCache.withoutSession sessionId entries)) sessionId := by
  rw [contains_iff 0, held_joinEntry_self (held_withoutSession_self 0 sessionId entries)]
  exact List.cons_ne_nil _ _

theorem Contains.joinEntry (contained : Contains entries sessionId) (different : sessionId ≠ other)
    (remaining : List RemainingBlockInfo) (keyThinkCount : Nat) :
    Contains (joinEntry other remaining keyThinkCount entries) sessionId := by
  rw [contains_iff 0] at contained ⊢
  rwa [held_joinEntry_other different]

theorem Contains.clear (contained : Contains entries sessionId) :
    Contains (entries.map (clearEntry other)) sessionId := by
  obtain ⟨entry, member, named⟩ := contained
  exact ⟨clearEntry other entry, List.mem_map_of_mem member, by rwa [clearEntry_sessionIds]⟩

/-- A call on another key, or of another session, takes the session from no entry. -/
theorem Contains.apply {index : PrefixIndex Session} {keyHash : UInt64}
    (contained : Contains (index keyHash) sessionId) {operation : Operation Session}
    (apart : ¬(operation.sessionId = sessionId ∧ operation.keyHash = some keyHash)) :
    Contains (index.apply operation keyHash) sessionId := by
  cases operation with
  | registerPrefixHash own blockInfos =>
    cases blockInfos with
    | nil => exact contained
    | cons front remaining =>
      simp only [PrefixIndex.apply, PrefixIndex.registerPrefixHash]
      by_cases same : keyHash = front.hash
      · subst same
        have different : sessionId ≠ own := fun equal => apart ⟨equal.symm, rfl⟩
        rw [Function.update_self]
        exact (contained.withoutSession different).joinEntry different _ _
      · rwa [Function.update_of_ne same]
  | remove own key =>
    simp only [PrefixIndex.apply, PrefixIndex.remove]
    split
    · exact contained
    · rename_i nonzero
      by_cases same : keyHash = key
      · subst same
        rw [Function.update_self]
        refine contained.withoutSession fun equal => apart ⟨equal.symm, ?_⟩
        simp [Operation.keyHash, nonzero]
      · rwa [Function.update_of_ne same]
  | clearThinkTokens own key =>
    simp only [PrefixIndex.apply, PrefixIndex.clearThinkTokens]
    split
    · exact contained
    · by_cases same : keyHash = key
      · subst same
        rw [Function.update_self]
        exact contained.clear
      · rwa [Function.update_of_ne same]

/-- A session whose last call on a key was a registration is under the key. -/
theorem contains_run {keyHash : UInt64} {blockInfos : List BlockHashInfo}
    {calls : List (Operation Session)}
    (last : lastOn sessionId keyHash calls = some (.registerPrefixHash sessionId blockInfos)) :
    Contains (run calls keyHash) sessionId := by
  induction calls using List.reverseRecOn with
  | nil => cases last
  | append_singleton calls operation ih =>
    rw [run_concat]
    by_cases own : operation.sessionId = sessionId ∧ operation.keyHash = some keyHash
    · have same : operation = .registerPrefixHash sessionId blockInfos := by
        simpa [lastOn, List.filter_append, own] using last
      subst same
      cases blockInfos with
      | nil => cases own.2
      | cons front remaining =>
        obtain rfl := Option.some.inj own.2
        simp only [PrefixIndex.apply, PrefixIndex.registerPrefixHash, Function.update_self]
        exact contains_joinEntry_self sessionId _ _ _
    · refine (ih ?_).apply own
      have skipped : [operation].filter (fun call =>
          call.sessionId = sessionId ∧ call.keyHash = some keyHash) = [] :=
        List.filter_eq_nil_iff.mpr fun call member => by
          rw [List.mem_singleton.mp member]
          simpa using own
      rwa [lastOn, List.filter_append, skipped, List.append_nil] at last

end Contains

theorem Linear.nothingLost {indexing : Indexing Session} (linear : Linear indexing)
    (finished : indexing.frames = []) : NothingLost indexing := by
  have same : indexing.shared.entries = run indexing.shared.calls := by
    funext keyHash
    have state := linear keyHash
    rw [finished] at state
    exact state.idle.symm
  constructor
  · exact ⟨indexing.shared.calls, List.Perm.refl _, fun _ => rfl, same⟩
  · intro sessionId keyHash blockInfos last
    rw [same]
    exact contains_run last

/-- When no registration looks under a key between the two steps of another call on it,
nothing is lost. -/
theorem nothing_lost {indexing : Indexing Session}
    (reached : Reaches indexHandlers.step
      (fun before turn => Indexing.OneThread before turn ∧ Indexing.Undisturbed before turn)
      { shared := {} } indexing)
    (finished : indexing.frames = []) : NothingLost indexing := by
  refine Linear.nothingLost (indexHandlers.invariant Linear ?_ ?_ ?_ reached) finished
  · exact fun keyHash => .settled (fun _ member => absurd member List.not_mem_nil)
      fun waits => absurd rfl waits
  · exact fun before operation linear allowed => linear.called allowed.1 allowed.2
  · exact fun before pending _ linear _ waits => linear.resumed waits

section Runs

instance (indexing : Indexing String) (turn : Turn (Operation String) (Pending String) Unit) :
    Decidable (indexing.OneThread turn) := by
  unfold Indexing.OneThread
  split <;> infer_instance

instance (indexing : Indexing String) (turn : Turn (Operation String) (Pending String) Unit) :
    Decidable (indexing.Undisturbed turn) := by
  unfold Indexing.Undisturbed
  split <;> infer_instance

/-- Two sessions register one after the other, and the first is removed. -/
def oneByOne : List (Turn (Operation String) (Pending String) Unit) :=
  [.call (.registerPrefixHash "a" [⟨7, 0⟩]), .resume (.inserting "a" 7 ⟨["a"], [], 0⟩) (),
    .call (.registerPrefixHash "b" [⟨7, 0⟩]), .call (.remove "a" 7)]

theorem oneByOne_runs : (runWithin indexHandlers.step
    (fun before turn => Indexing.OneThread before turn ∧ Indexing.Undisturbed before turn)
    { shared := {} } oneByOne).isSome = true := by
  decide +kernel

theorem nothing_lost_oneByOne : NothingLost ((runWithin indexHandlers.step
    (fun before turn => Indexing.OneThread before turn ∧ Indexing.Undisturbed before turn)
    { shared := {} } oneByOne).get oneByOne_runs) :=
  nothing_lost (reaches_get oneByOne_runs) (by decide +kernel)

/-- The second registers when the first is taken out and the key is to be erased. -/
def registeredBetween : List (Turn (Operation String) (Pending String) Unit) :=
  [.call (.registerPrefixHash "a" [⟨7, 0⟩]), .resume (.inserting "a" 7 ⟨["a"], [], 0⟩) (),
    .call (.remove "a" 7), .call (.registerPrefixHash "b" [⟨7, 0⟩]), .resume (.erasing "a" 7) ()]

theorem registeredBetween_runs : (runWithin indexHandlers.step
    (fun before turn => Indexing.OneThread before turn) { shared := {} }
    registeredBetween).isSome = true := by
  decide +kernel

def erasedIndex : Indexing String :=
  (runWithin indexHandlers.step (fun before turn => Indexing.OneThread before turn)
    { shared := {} } registeredBetween).get registeredBetween_runs

/-- Then its registration is lost. -/
theorem registration_lost : ¬∀ indexing : Indexing String,
    Reaches indexHandlers.step (fun before turn => Indexing.OneThread before turn)
      { shared := {} } indexing → indexing.frames = [] → NothingLost indexing := by
  intro claim
  have lost := claim erasedIndex (reaches_get registeredBetween_runs) (by decide +kernel)
  have last : lastOn "b" 7 erasedIndex.shared.calls = some (.registerPrefixHash "b" [⟨7, 0⟩]) := rfl
  have empty : erasedIndex.shared.entries 7 = [] := by decide +kernel
  obtain ⟨entry, member, -⟩ := lost.contains "b" 7 [⟨7, 0⟩] last
  rw [empty] at member
  cases member

end Runs

end InferenceServer.PrefixCache
