import InferenceServer.Sessions.SlotStarts

/-! Which blocks of a session are resident. They are counted beside its registered hashes; the
invariant ties both to the rows of its slot, and to what the last request on the slot has in common
with the session. -/
namespace InferenceServer.Sessions
open Machine PrefixCache Pipeline

/-- Resident blocks that are registered are held by the slot. The last request on a slot has its
blocks registered, and takes no fewer of them to be there than are resident. -/
structure Backed (state : SlotRows) : Prop where
  sound : Sound True state.manager
  apart : ∀ sessionId other session twin, state.manager.sessions.lookup sessionId = some session →
    state.manager.sessions.lookup other = some twin → session.slotId = twin.slotId →
    sessionId = other
  valid : ∀ sessionId session, state.manager.sessions.lookup sessionId = some session →
    session.slotId ≠ invalidSlotId
  resident : ∀ sessionId session hashes,
    state.manager.sessions.lookup sessionId = some session →
    state.manager.prefixIndex.Registered sessionId hashes →
    hashes.take session.committedBlocks <+: blockHashes (state.rows session.slotId)
  named : ∀ slotId turn, state.turns.lookup slotId = some turn → turn.slotId = slotId
  owner : ∀ slotId turn sessionId session, state.turns.lookup slotId = some turn →
    state.manager.sessions.lookup sessionId = some session → session.slotId = slotId →
    sessionId = turn.sessionId
  fewer : ∀ slotId turn session, state.turns.lookup slotId = some turn →
    state.manager.sessions.lookup turn.sessionId = some session →
    session.slotId = slotId ∧ session.committedBlocks ≤ turn.credited
  registered : ∀ slotId turn hashes, state.turns.lookup slotId = some turn →
    state.manager.prefixIndex.Registered turn.sessionId hashes →
    blockHashes turn.blocks <+: hashes
  waiting : ∀ sessionId, state.manager.allocations.lookup sessionId ≠ none →
    (∀ slotId turn, state.turns.lookup slotId = some turn → turn.sessionId ≠ sessionId) ∧
    (∀ hashes, ¬state.manager.prefixIndex.Registered sessionId hashes) ∧
    ∀ session, state.manager.sessions.lookup sessionId = some session → session.committedBlocks = 0

namespace Backed

variable {state : SlotRows} {added : Option String} {manager : SessionManager}

theorem empty : Backed {} where
  sound := .empty
  apart _ _ _ _ found := by cases found
  valid _ _ found := by cases found
  resident _ _ _ found := by cases found
  named _ _ found := by cases found
  owner _ _ _ _ found := by cases found
  fewer _ _ _ found := by cases found
  registered _ _ _ found := by cases found
  waiting _ waits := absurd rfl waits

/-- The slots of the sessions stay apart and valid. -/
theorem slots (backed : Backed state) (spares : Spares state.manager manager) :
    (∀ sessionId other session twin, manager.sessions.lookup sessionId = some session →
      manager.sessions.lookup other = some twin → session.slotId = twin.slotId →
      sessionId = other) ∧ ∀ sessionId session, manager.sessions.lookup sessionId = some session →
      session.slotId ≠ invalidSlotId := by
  refine ⟨fun sessionId other session twin found also same => ?_, fun sessionId session found => ?_⟩
  · obtain ⟨first, present, slot, -⟩ := spares sessionId session found
    obtain ⟨second, there, own, -⟩ := spares other twin also
    exact backed.apart sessionId other first second present there (slot ▸ own ▸ same)
  · obtain ⟨first, present, slot, -⟩ := spares sessionId session found
    exact slot ▸ backed.valid sessionId first present

/-- A call that takes no slot. -/
theorem keeps (backed : Backed state) (keeps : Keeps added state.manager manager)
    (sound : Sound True manager)
    (new : ∀ id ∈ added, state.manager.Fresh id ∧
      ∀ slotId turn, state.turns.lookup slotId = some turn → turn.sessionId ≠ id) :
    Backed { state with manager } where
  sound := sound
  apart := (backed.slots keeps.sessions).1
  valid := (backed.slots keeps.sessions).2
  resident sessionId session hashes found listed := by
    obtain ⟨earlier, present, slot, fewer⟩ := keeps.sessions sessionId session found
    have held := backed.resident sessionId earlier hashes present
      (keeps.registered sessionId hashes listed)
    rw [slot]
    exact (List.take_prefix_take_left fewer).trans held
  named := backed.named
  owner slotId turn sessionId session last found own := by
    obtain ⟨earlier, present, slot, -⟩ := keeps.sessions sessionId session found
    exact backed.owner slotId turn sessionId earlier last present (slot ▸ own)
  fewer slotId turn session last found := by
    obtain ⟨earlier, present, slot, fewer⟩ := keeps.sessions turn.sessionId session found
    obtain ⟨own, credited⟩ := backed.fewer slotId turn earlier last present
    exact ⟨slot.trans own, Nat.le_trans fewer credited⟩
  registered slotId turn hashes last listed :=
    backed.registered slotId turn hashes last (keeps.registered turn.sessionId hashes listed)
  waiting sessionId waits := by
    have none (fresh : state.manager.sessions.lookup sessionId = none) (session : Session)
        (found : manager.sessions.lookup sessionId = some session) :
        session.committedBlocks = 0 := by
      obtain ⟨earlier, present, -⟩ := keeps.sessions sessionId session found
      rw [fresh] at present
      cases present
    rcases keeps.allocations sessionId waits with earlier | same
    · obtain ⟨unnamed, unlisted, empty⟩ := backed.waiting sessionId earlier
      refine ⟨unnamed, fun hashes listed => unlisted hashes (keeps.registered _ _ listed),
        fun session found => ?_⟩
      obtain ⟨first, present, -, fewer⟩ := keeps.sessions sessionId session found
      exact Nat.le_zero.mp (empty first present ▸ fewer)
    · obtain ⟨fresh, unnamed⟩ := new sessionId same
      exact ⟨unnamed, fun hashes listed => absurd fresh.1
        (backed.sound.registered_present (keeps.registered _ _ listed)), none fresh.1⟩

section Starting

variable {turn : SlotTurn}

/-- The slot that a request gets is that of its session alone. -/
theorem alone (backed : Backed state) (starts : Starts state.manager manager turn)
    {sessionId : String} {session : Session}
    (found : state.manager.sessions.lookup sessionId = some session)
    (same : session.slotId = turn.slotId) : sessionId = turn.sessionId := by
  cases own : state.manager.sessions.lookup turn.sessionId with
  | none => exact absurd (same.trans (starts.gone own)) (backed.valid sessionId session found)
  | some earlier =>
    exact backed.apart sessionId turn.sessionId session earlier found own
      (same.trans (starts.slot earlier own).symm)

/-- Of a session that waits for its callback nothing is resident or registered. -/
theorem still_waiting (backed : Backed state) (starts : Starts state.manager manager turn)
    (idle : manager.allocations.lookup turn.sessionId = none) {sessionId : String}
    (waits : manager.allocations.lookup sessionId ≠ none) : sessionId ≠ turn.sessionId ∧
    (∀ slotId last, state.turns.lookup slotId = some last → last.sessionId ≠ sessionId) ∧
    (∀ hashes, ¬manager.prefixIndex.Registered sessionId hashes) ∧
    ∀ session, manager.sessions.lookup sessionId = some session → session.committedBlocks = 0 := by
  have different : sessionId ≠ turn.sessionId := fun same => waits (same ▸ idle)
  obtain ⟨unnamed, unlisted, empty⟩ := backed.waiting sessionId (starts.allocations sessionId waits)
  refine ⟨different, unnamed, fun hashes listed => unlisted hashes
    (starts.others sessionId hashes different listed), fun session found => ?_⟩
  obtain ⟨earlier, present, -, fewer⟩ := starts.sessions sessionId session found
  exact Nat.le_zero.mp (empty earlier present ▸ fewer)

/-- The last request on a slot is the one that starts, or was there before. -/
theorem turn_of_start {slotId : UInt32} {last : SlotTurn}
    (found : (state.start turn).turns.lookup slotId = some last) :
    slotId = turn.slotId ∧ last = { turn with number := state.started } ∨
      slotId ≠ turn.slotId ∧ state.turns.lookup slotId = some last := by
  simp only [SlotRows.start] at found
  by_cases own : slotId = turn.slotId
  · rw [own, AList.lookup_insert] at found
    exact .inl ⟨own, (Option.some.inj found).symm⟩
  · rw [AList.lookup_insert_ne own] at found
    exact .inr ⟨own, found⟩

/-- A request has got a slot. What is resident is among what it has in common with the session. -/
theorem starts (backed : Backed state) (starts : Starts state.manager manager turn)
    (sound : Sound True manager) (idle : manager.allocations.lookup turn.sessionId = none) :
    Backed { state.start turn with manager } where
  sound := sound
  apart := (backed.slots starts.sessions).1
  valid := (backed.slots starts.sessions).2
  resident sessionId session hashes found listed := by
    obtain ⟨earlier, present, slot, fewer⟩ := starts.sessions sessionId session found
    simp only [SlotRows.start]
    by_cases own : sessionId = turn.sessionId
    · subst own
      rw [slot, starts.slot earlier present, Function.update_self, blockHashes_take]
      have credited := starts.fewer session found
      by_cases none : session.committedBlocks = 0
      · rw [none]
        exact List.nil_prefix
      · obtain ⟨before, registered, agrees⟩ := starts.agrees session hashes found listed none
        have held := backed.resident turn.sessionId earlier before present registered
        rw [starts.slot earlier present] at held
        rw [agrees, List.prefix_take_iff]
        refine ⟨(List.take_prefix_take_left fewer).trans held, ?_⟩
        exact Nat.le_trans (List.length_take_le _ _) credited
    · have elsewhere : session.slotId ≠ turn.slotId := fun same =>
        own (backed.alone starts present (slot ▸ same))
      rw [Function.update_of_ne elsewhere, slot]
      exact (List.take_prefix_take_left fewer).trans (backed.resident sessionId earlier hashes
        present (starts.others sessionId hashes own listed))
  named slotId last found := by
    rcases turn_of_start found with ⟨rfl, rfl⟩ | ⟨-, found⟩
    · rfl
    · exact backed.named slotId last found
  owner slotId last sessionId session found there same := by
    obtain ⟨earlier, present, slot, -⟩ := starts.sessions sessionId session there
    rcases turn_of_start found with ⟨rfl, rfl⟩ | ⟨-, found⟩
    · exact backed.alone starts present (slot ▸ same)
    · exact backed.owner slotId last sessionId earlier found present (slot ▸ same)
  fewer slotId last session found there := by
    obtain ⟨earlier, present, slot, fewer⟩ := starts.sessions last.sessionId session there
    rcases turn_of_start found with ⟨rfl, rfl⟩ | ⟨-, found⟩
    · exact ⟨slot.trans (starts.slot earlier present), starts.fewer session there⟩
    · obtain ⟨same, credited⟩ := backed.fewer slotId last earlier found present
      exact ⟨slot.trans same, Nat.le_trans fewer credited⟩
  registered slotId last hashes found listed := by
    rcases turn_of_start found with ⟨rfl, rfl⟩ | ⟨own, found⟩
    · exact starts.registered hashes listed
    · refine backed.registered slotId last hashes found
        (starts.others last.sessionId hashes (fun same => own ?_) listed)
      obtain ⟨session, there⟩ := Option.ne_none_iff_exists'.mp (sound.registered_present listed)
      obtain ⟨earlier, present, -⟩ := starts.sessions last.sessionId session there
      exact (backed.fewer slotId last earlier found present).1 ▸ starts.slot earlier (same ▸ present)
  waiting sessionId waits := by
    obtain ⟨different, unnamed, rest⟩ := backed.still_waiting starts idle waits
    refine ⟨fun slotId last found => ?_, rest⟩
    rcases turn_of_start found with ⟨rfl, rfl⟩ | ⟨-, found⟩
    · exact different.symm
    · exact unnamed slotId last found

/-- Blocks are registered for a session that has none resident. -/
theorem registers (backed : Backed state) (starts : Starts state.manager manager turn)
    (sound : Sound True manager) (idle : manager.allocations.lookup turn.sessionId = none)
    (waited : state.manager.allocations.lookup turn.sessionId ≠ none)
    (nothing : turn.credited = 0) : Backed { state with manager } where
  sound := sound
  apart := (backed.slots starts.sessions).1
  valid := (backed.slots starts.sessions).2
  resident sessionId session hashes found listed := by
    obtain ⟨earlier, present, slot, fewer⟩ := starts.sessions sessionId session found
    by_cases own : sessionId = turn.sessionId
    · subst own
      have none := starts.fewer session found
      rw [nothing, Nat.le_zero] at none
      rw [none]
      exact List.nil_prefix
    · rw [slot]
      exact (List.take_prefix_take_left fewer).trans (backed.resident sessionId earlier hashes
        present (starts.others sessionId hashes own listed))
  named := backed.named
  owner slotId last sessionId session found there same := by
    obtain ⟨earlier, present, slot, -⟩ := starts.sessions sessionId session there
    exact backed.owner slotId last sessionId earlier found present (slot ▸ same)
  fewer slotId last session found there := by
    obtain ⟨earlier, present, slot, fewer⟩ := starts.sessions last.sessionId session there
    obtain ⟨same, credited⟩ := backed.fewer slotId last earlier found present
    exact ⟨slot.trans same, Nat.le_trans fewer credited⟩
  registered slotId last hashes found listed :=
    backed.registered slotId last hashes found (starts.others last.sessionId hashes
      ((backed.waiting turn.sessionId waited).1 slotId last found) listed)
  waiting _ waits := (backed.still_waiting starts idle waits).2

end Starting

section Writing

variable {turn : SlotTurn}

/-- Only what the request does not take to be there is written. -/
theorem prefillComplete (backed : Backed state)
    (last : state.turns.lookup turn.slotId = some turn) (written : List BlockHashInfo) :
    Backed (state.write turn turn.credited written) := { backed with
  resident sessionId session hashes found listed := by
    have held := backed.resident sessionId session hashes found listed
    simp only [SlotRows.write]
    by_cases own : session.slotId = turn.slotId
    · obtain rfl := backed.owner turn.slotId turn sessionId session last found own
      obtain ⟨-, fewer⟩ := backed.fewer turn.slotId turn session last found
      rw [own] at held ⊢
      rw [Function.update_self, overwrite]
      split
      · have kept : hashes.take session.committedBlocks <+:
            (blockHashes (state.rows turn.slotId)).take turn.credited :=
          List.prefix_take_iff.mpr ⟨held, Nat.le_trans (List.length_take_le _ _) fewer⟩
        rw [blockHashes, List.map_append, ← blockHashes, blockHashes_take]
        exact kept.trans (List.prefix_append _ _)
      · exact held
    · rwa [Function.update_of_ne own] }

/-- A request is over, with what then is resident and registered for its session. -/
theorem ends (backed : Backed state) (last : state.turns.lookup turn.slotId = some turn)
    {rows : UInt32 → List BlockHashInfo} (sound : Sound True manager)
    (sessions : ∀ sessionId session, manager.sessions.lookup sessionId = some session →
      ∃ earlier, state.manager.sessions.lookup sessionId = some earlier ∧
        session.slotId = earlier.slotId ∧
        (sessionId ≠ turn.sessionId → session.committedBlocks ≤ earlier.committedBlocks))
    (others : ∀ sessionId hashes, sessionId ≠ turn.sessionId →
      manager.prefixIndex.Registered sessionId hashes →
      state.manager.prefixIndex.Registered sessionId hashes)
    (allocations : ∀ sessionId, manager.allocations.lookup sessionId ≠ none →
      state.manager.allocations.lookup sessionId ≠ none)
    (elsewhere : ∀ slotId, slotId ≠ turn.slotId → rows slotId = state.rows slotId)
    (held : ∀ session hashes, manager.sessions.lookup turn.sessionId = some session →
      manager.prefixIndex.Registered turn.sessionId hashes →
      hashes.take session.committedBlocks <+: blockHashes (rows turn.slotId)) :
    Backed { state with manager, rows, turns := state.turns.erase turn.slotId } := by
  have left (slotId : UInt32) (other : SlotTurn)
      (found : AList.lookup slotId (state.turns.erase turn.slotId) = some other) :
      slotId ≠ turn.slotId ∧ state.turns.lookup slotId = some other := by
    have different : slotId ≠ turn.slotId := by
      rintro rfl
      rw [AList.lookup_erase] at found
      cases found
    exact ⟨different, (AList.lookup_erase_ne different) ▸ found⟩
  -- A request on another slot has another session, if it has one at all.
  have apart (slotId : UInt32) (other : SlotTurn) (session : Session)
      (found : AList.lookup slotId (state.turns.erase turn.slotId) = some other)
      (there : manager.sessions.lookup other.sessionId = some session) :
      other.sessionId ≠ turn.sessionId := by
    obtain ⟨different, also⟩ := left slotId other found
    intro same
    obtain ⟨earlier, present, -⟩ := sessions other.sessionId session there
    have slot := (backed.fewer slotId other earlier also present).1
    exact different (slot.symm.trans
      (backed.fewer turn.slotId turn earlier last (same ▸ present)).1)
  refine ⟨sound, fun sessionId other session twin found also same => ?_,
    fun sessionId session found => ?_, fun sessionId session hashes found listed => ?_,
    fun slotId other found => backed.named slotId other (left slotId other found).2,
    fun slotId other sessionId session found there own => ?_,
    fun slotId other session found there => ?_, fun slotId other hashes found listed => ?_,
    fun sessionId waits => ?_⟩
  · obtain ⟨first, present, slot, -⟩ := sessions sessionId session found
    obtain ⟨second, there, own, -⟩ := sessions other twin also
    exact backed.apart sessionId other first second present there (slot ▸ own ▸ same)
  · obtain ⟨first, present, slot, -⟩ := sessions sessionId session found
    exact slot ▸ backed.valid sessionId first present
  · obtain ⟨earlier, present, slot, fewer⟩ := sessions sessionId session found
    by_cases own : sessionId = turn.sessionId
    · subst own
      rw [slot, (backed.fewer turn.slotId turn earlier last present).1]
      exact held session hashes found listed
    · have different : session.slotId ≠ turn.slotId := fun same =>
        own (backed.owner turn.slotId turn sessionId earlier last present (slot ▸ same))
      simp only [elsewhere session.slotId different]
      rw [slot]
      exact (List.take_prefix_take_left (fewer own)).trans (backed.resident sessionId earlier
        hashes present (others sessionId hashes own listed))
  · obtain ⟨earlier, present, slot, -⟩ := sessions sessionId session there
    exact backed.owner slotId other sessionId earlier (left slotId other found).2 present
      (slot ▸ own)
  · obtain ⟨earlier, present, slot, fewer⟩ := sessions other.sessionId session there
    obtain ⟨own, credited⟩ := backed.fewer slotId other earlier (left slotId other found).2 present
    exact ⟨slot.trans own, Nat.le_trans (fewer (apart slotId other session found there)) credited⟩
  · obtain ⟨session, there⟩ := Option.ne_none_iff_exists'.mp (sound.registered_present listed)
    exact backed.registered slotId other hashes (left slotId other found).2
      (others other.sessionId hashes (apart slotId other session found there) listed)
  · obtain ⟨unnamed, unlisted, empty⟩ := backed.waiting sessionId (allocations sessionId waits)
    have different : sessionId ≠ turn.sessionId := (unnamed turn.slotId turn last).symm
    refine ⟨fun slotId other found => unnamed slotId other (left slotId other found).2,
      fun hashes listed => unlisted hashes (others sessionId hashes different listed),
      fun session found => ?_⟩
    obtain ⟨earlier, present, -, fewer⟩ := sessions sessionId session found
    exact Nat.le_zero.mp (empty earlier present ▸ fewer different)

theorem blockHashes_overwrite {rows blocks allBlocks : List BlockHashInfo}
    (held : blockHashes blocks <+: blockHashes rows)
    (continued : blockHashes blocks <+: blockHashes allBlocks) :
    blockHashes (overwrite rows blocks.length allBlocks) = blockHashes allBlocks := by
  have here := List.prefix_iff_eq_take.mp held
  have there := List.prefix_iff_eq_take.mp continued
  rw [length_blockHashes] at here there
  have long := held.length_le
  rw [length_blockHashes, length_blockHashes] at long
  rw [overwrite, if_pos long, blockHashes, List.map_append, ← blockHashes, blockHashes_take,
    ← here, there, List.map_drop]
  exact List.take_append_drop _ _

/-- A prefill is over, and the blocks of its prompt are resident. -/
theorem setResidentPrefixBlocks (backed : Backed state)
    (last : state.turns.lookup turn.slotId = some turn)
    (held : blockHashes turn.blocks <+: blockHashes (state.rows turn.slotId)) :
    Backed { state.finish turn with
      manager := state.manager.setResidentPrefixBlocks turn.sessionId turn.blocks.length } := by
  rw [SlotRows.finish, if_pos last]
  have marked (sessionId : String) :
      (state.manager.setResidentPrefixBlocks turn.sessionId
        turn.blocks.length).sessions.lookup sessionId =
      if sessionId = turn.sessionId then (state.manager.sessions.lookup turn.sessionId).map
        fun session => { session with committedBlocks := turn.blocks.length }
      else state.manager.sessions.lookup sessionId :=
    Table.lookup_modify _ _ _ _
  refine backed.ends last ((Preserves.setResidentPrefixBlocks state.manager turn.sessionId
    turn.blocks.length).sound backed.sound) (fun sessionId session found => ?_)
    (fun _ _ _ => id) (fun _ => id) (fun _ _ => rfl) fun session hashes found listed => ?_
  · rw [marked] at found
    split at found
    · rename_i own
      obtain ⟨earlier, present, rfl⟩ := Option.map_eq_some_iff.mp found
      exact ⟨earlier, own ▸ present, rfl, fun other => absurd own other⟩
    · exact ⟨session, found, rfl, fun _ => Nat.le_refl _⟩
  · rw [marked, if_pos rfl] at found
    obtain ⟨earlier, -, rfl⟩ := Option.map_eq_some_iff.mp found
    have registered := List.prefix_iff_eq_take.mp (backed.registered turn.slotId turn hashes last
      listed)
    rw [length_blockHashes] at registered
    simp only [← registered]
    exact held

/-- A generation is over, and its blocks are resident behind those of the prompt. -/
theorem finalizeAndRegisterHashes (backed : Backed state)
    (last : state.turns.lookup turn.slotId = some turn)
    (held : blockHashes turn.blocks <+: blockHashes (state.rows turn.slotId))
    {allBlocks : List BlockHashInfo}
    (continued : blockHashes turn.blocks <+: blockHashes allBlocks)
    (nonzero : ∀ block ∈ allBlocks, block.hash ≠ 0) :
    Backed { (state.write turn turn.blocks.length allBlocks).finish turn with
      manager := state.manager.finalizeAndRegisterHashes turn.sessionId allBlocks } := by
  have sound := backed.sound.finalizeAndRegisterHashes turn.sessionId fun _ => nonzero
  have finished : (state.write turn turn.blocks.length allBlocks).finish turn =
      { state.write turn turn.blocks.length allBlocks with
        turns := state.turns.erase turn.slotId } := if_pos last
  rw [finished]
  have elsewhere (slotId : UInt32) (different : slotId ≠ turn.slotId) :
      Function.update state.rows turn.slotId
        (overwrite (state.rows turn.slotId) turn.blocks.length allBlocks) slotId =
        state.rows slotId :=
    Function.update_of_ne different _ _
  cases allBlocks with
  | nil =>
    have keeps : Keeps none _ _ := .closeSession state.manager turn.sessionId
    have gone : (state.manager.closeSession turn.sessionId).sessions.lookup turn.sessionId =
        none := by
      rw [SessionManager.closeSession]
      split
      · assumption
      · rw [takeOut_eq, AList.lookup_erase]
    refine backed.ends last sound (fun sessionId session found => ?_)
      (fun sessionId hashes _ => keeps.registered sessionId hashes)
      (fun sessionId waits => (keeps.allocations sessionId waits).elim id (by rintro ⟨⟩)) elsewhere
      fun session _ found => ?_
    · obtain ⟨earlier, present, slot, fewer⟩ := keeps.sessions sessionId session found
      exact ⟨earlier, present, slot, fun _ => fewer⟩
    · rw [SessionManager.finalizeAndRegisterHashes, gone] at found
      cases found
  | cons front remaining =>
    have marked : Sound True (state.manager.setResidentPrefixBlocks turn.sessionId
        (front :: remaining).length) :=
      (Preserves.setResidentPrefixBlocks state.manager turn.sessionId _).sound backed.sound
    have spares := Spares.registerPrefixHash (state.manager.setResidentPrefixBlocks turn.sessionId
      (front :: remaining).length) turn.sessionId (front :: remaining) true
    refine backed.ends last sound (fun sessionId session found => ?_)
      (fun sessionId hashes different listed => ?_) (fun sessionId waits => ?_) elsewhere
      fun session hashes found listed => ?_
    · obtain ⟨middle, between, slot, fewer⟩ := spares sessionId session found
      rw [SessionManager.setResidentPrefixBlocks, SessionManager.modify,
        Table.lookup_modify] at between
      split at between
      · rename_i own
        obtain ⟨earlier, present, rfl⟩ := Option.map_eq_some_iff.mp between
        exact ⟨earlier, own ▸ present, slot, fun other => absurd own other⟩
      · exact ⟨middle, between, slot, fun _ => fewer⟩
    · cases found : (state.manager.setResidentPrefixBlocks turn.sessionId
          (front :: remaining).length).sessions.lookup turn.sessionId with
      | none =>
        simp only [SessionManager.finalizeAndRegisterHashes,
          registerPrefixHash_absent found] at listed
        exact listed
      | some session =>
        have spec := registered_registerPrefixHash marked found listed
        rwa [if_neg different] at spec
    · simp only [SessionManager.finalizeAndRegisterHashes, allocations_registerPrefixHash] at waits
      exact waits
    · obtain ⟨middle, between, -⟩ := spares turn.sessionId session found
      have spec := registered_registerPrefixHash marked between listed
      rw [if_pos rfl] at spec
      simp only [SlotRows.write, Function.update_self]
      rw [spec, blockHashes_overwrite held continued]
      exact List.take_prefix _ _

end Writing

section Granting

variable {sessionId : String} {slotId : UInt32} {allocation : PendingAllocation}

/-- A new session has the slot; the copy is there before any block of it is resident. -/
theorem grant (backed : Backed state)
    (waits : state.manager.allocations.lookup sessionId = some allocation)
    (requested : allocation.stage = .requested) (valid : slotId ≠ invalidSlotId)
    (free : ∀ other session, state.manager.sessions.lookup other = some session →
      session.slotId ≠ slotId) :
    Backed { state.grant slotId allocation.slotIdToCopyFrom with
      manager := state.manager.handleMemoryResult sessionId (some slotId) } := by
  have sound := backed.sound.handleMemoryResult sessionId (some slotId)
  obtain ⟨unnamed, unlisted, -⟩ := backed.waiting sessionId
    (by rw [waits]; exact Option.some_ne_none _)
  have result : state.manager.handleMemoryResult sessionId (some slotId) =
      (state.manager.insertSession sessionId
        { hash := allocation.hash, slotId, state := .prepared }).place sessionId allocation
          .allocated := by
    have filtered : (some slotId).filter (· ≠ invalidSlotId) = some slotId :=
      Option.filter_eq_some_iff.mpr ⟨rfl, decide_eq_true valid⟩
    simp only [SessionManager.handleMemoryResult, waits, requested, filtered, if_true]
  rw [result] at sound ⊢
  -- The session is new, or it was there with another slot.
  have cases (other : String) (session : Session)
      (found : AList.lookup other (state.manager.sessions.insert sessionId
        { hash := allocation.hash, slotId, state := .prepared }) = some session) :
      other = sessionId ∧ session.slotId = slotId ∧ session.committedBlocks = 0 ∨
        other ≠ sessionId ∧ state.manager.sessions.lookup other = some session := by
    by_cases own : other = sessionId
    · rw [own, AList.lookup_insert] at found
      exact .inl ⟨own, Option.some.inj found ▸ ⟨rfl, rfl⟩⟩
    · exact .inr ⟨own, (AList.lookup_insert_ne own) ▸ found⟩
  have left (other : UInt32) (turn : SlotTurn)
      (found : AList.lookup other (state.turns.erase slotId) = some turn) :
      other ≠ slotId ∧ state.turns.lookup other = some turn := by
    have different : other ≠ slotId := by
      rintro rfl
      rw [AList.lookup_erase] at found
      cases found
    exact ⟨different, (AList.lookup_erase_ne different) ▸ found⟩
  refine ⟨sound, fun first second session twin found also same => ?_,
    fun other session found => ?_, fun other session hashes found listed => ?_,
    fun other turn found => backed.named other turn (left other turn found).2,
    fun other turn owner session found there own => ?_,
    fun other turn session found there => ?_,
    fun other turn hashes found => backed.registered other turn hashes (left other turn found).2,
    fun other waited => ?_⟩
  · rcases cases first session found with ⟨rfl, slot, -⟩ | ⟨-, present⟩ <;>
      rcases cases second twin also with ⟨rfl, own, -⟩ | ⟨-, there⟩
    · rfl
    · exact absurd (same ▸ slot) (free second twin there)
    · exact absurd (same.trans own) (free first session present)
    · exact backed.apart first second session twin present there same
  · rcases cases other session found with ⟨-, slot, -⟩ | ⟨-, present⟩
    · exact slot ▸ valid
    · exact backed.valid other session present
  · rcases cases other session found with ⟨-, -, none⟩ | ⟨-, present⟩
    · rw [none]
      exact List.nil_prefix
    · have held := backed.resident other session hashes present listed
      have elsewhere : (state.grant slotId allocation.slotIdToCopyFrom).rows session.slotId =
          state.rows session.slotId :=
        Function.update_of_ne (free other session present) _ _
      simp only [elsewhere]
      exact held
  · obtain ⟨different, last⟩ := left other turn found
    rcases cases owner session there with ⟨-, slot, -⟩ | ⟨-, present⟩
    · exact absurd (own.symm.trans slot) different
    · exact backed.owner other turn owner session last present own
  · obtain ⟨-, last⟩ := left other turn found
    rcases cases turn.sessionId session there with ⟨same, -⟩ | ⟨-, present⟩
    · exact absurd same (unnamed other turn last)
    · exact backed.fewer other turn session last present
  · have waiting : state.manager.allocations.lookup other ≠ none := by
      by_cases own : other = sessionId
      · rw [own, waits]
        exact Option.some_ne_none _
      · exact (AList.lookup_insert_ne own) ▸ waited
    obtain ⟨unnamed, unlisted, empty⟩ := backed.waiting other waiting
    refine ⟨fun slotId turn found => unnamed slotId turn (left slotId turn found).2, unlisted,
      fun session found => ?_⟩
    rcases cases other session found with ⟨-, -, none⟩ | ⟨-, present⟩
    · exact none
    · exact empty session present

end Granting

end Backed

section Calls

variable {config : SessionConfig} {manager : SessionManager} {operation : Operation}

/-- A result that grants no slot. -/
theorem Keeps.handleMemoryResult (manager : SessionManager) (sessionId : String)
    (slotId : Option UInt32)
    (denied : manager.grantOf (.handleMemoryResult sessionId slotId) = none) :
    Keeps none manager (manager.handleMemoryResult sessionId slotId) := by
  rw [SessionManager.handleMemoryResult]
  cases waits : manager.allocations.lookup sessionId with
  | none => exact .refl manager
  | some allocation =>
    simp only
    split
    · rename_i requested
      split
      · rename_i granted slot
        obtain ⟨rfl, valid⟩ := Option.filter_eq_some_iff.mp slot
        simp only [SessionManager.grantOf, waits, requested, true_and] at denied
        rw [if_pos (of_decide_eq_true valid)] at denied
        cases denied
      · exact .retryOrFail (.inl (by rw [waits]; exact Option.some_ne_none _)) allocation
    · exact .refl manager

namespace SessionManager

/-- The candidates that `getSlot` may copy from when it goes on with no session. -/
def copyCandidates (config : SessionConfig) (manager : SessionManager)
    (blocks : List BlockHashInfo) (opts : GetSlotOptions) : List (Candidate String) :=
  match manager.tryAcquireByResponseId (opts.previousResponseId.getD "") with
  | (manager, .miss) =>
    ((manager.tryAcquireByPrefixHash config blocks).2.map AcquireResult.candidatesList).getD []
  | _ => []

/-- The best candidate is copied only if the blocks that it matches are resident, and a
reservation goes on with a session only if no others are. -/
def Capped (config : SessionConfig) (manager : SessionManager) (operation : Operation) : Prop :=
  match operation with
  | .getSlot blocks opts _ =>
    manager.bestSlotToCopyFrom config (manager.copyCandidates config blocks opts) ≠ none →
      ∀ best ∈ (manager.copyCandidates config blocks opts).head?,
        best.matchedBlocks ≤ manager.getCommittedBlocks best.sessionId
  | .resolveDecodeDestinationSlot .. =>
    ∀ turn ∈ manager.turnOf config operation,
      manager.getCommittedBlocks turn.sessionId ≤ turn.credited
  | _ => True

instance (config : SessionConfig) (manager : SessionManager) (operation : Operation) :
    Decidable (manager.Capped config operation) := by
  unfold Capped
  split <;> infer_instance

end SessionManager

theorem Sound.perform_handled (sound : Sound True manager) (unlisted : manager.Unlisted)
    (empty : ∀ sessionId, manager.allocations.lookup sessionId ≠ none →
      ∀ session ∈ manager.sessions.lookup sessionId, session.committedBlocks = 0)
    (outside : operation.Internal = false) (denied : manager.grantOf operation = none)
    (capped : manager.Capped config operation) :
    Handled (operation.creation?.map Creation.sessionId) manager (manager.perform config operation)
      (manager.turnOf config operation) := by
  cases operation with
  | createSession creation initialBlockInfos slotId slotIdToCopyFrom =>
    cases slotId with
    | none => exact .kept (.createSession config manager creation _ _ _)
    | some slotId => cases outside
  | getSlot blocks opts creation => exact sound.getSlot_handled unlisted config blocks opts creation
  | resolveDecodeDestinationSlot registrationHashes previousResponseId creation =>
    exact sound.resolveDecodeDestinationSlot_handled unlisted config registrationHashes
      previousResponseId creation capped
  | resolvePrefillSession routingHashes promptTokens creation =>
    exact sound.resolvePrefillSession_handled unlisted config routingHashes promptTokens creation
  | tryAcquireByPrefixHash blockInfos =>
    exact .kept (.tryAcquireByPrefixHash config manager blockInfos)
  | tryAcquireByResponseId previousResponseId =>
    exact .kept (.tryAcquireByResponseId manager previousResponseId)
  | acquireInFlight sessionId => exact .kept (.acquireInFlight manager sessionId)
  | releaseInFlight sessionId => exact .kept (.releaseInFlight manager sessionId)
  | registerPrefixHash | setResidentPrefixBlocks | finalizeAndRegisterHashes => cases outside
  | registerResponseId sessionId responseId =>
    exact .kept (.registerResponseId manager sessionId responseId)
  | updateResponseId previousResponseId responseId =>
    exact .kept (.updateResponseId manager previousResponseId responseId)
  | clearSessionBlockThinkTokens sessionId => exact .kept (.clearThinkTokens manager sessionId)
  | shrinkResidentPrefixToMatchedTokens sessionId matchedTokens =>
    exact .kept (.shrink config manager sessionId matchedTokens)
  | initTokenAccumulator sessionId => exact .kept (.initTokenAccumulator manager sessionId)
  | closeSession sessionId => exact .kept (.closeSession manager sessionId)
  | evictOldSessions leastRecent => exact .kept (.evictOldSessions config manager leastRecent)
  | retryFailedAllocation sessionId queueFull =>
    exact .kept (.retryFailedAllocation config manager sessionId queueFull)
  | handleMemoryResult sessionId slotId =>
    exact .kept (.handleMemoryResult manager sessionId slotId denied)
  | runCallback sessionId => exact sound.runCallback_handled empty config sessionId

end Calls

namespace SlotRows

/-- Session ids are distinct, also from those of requests that go on after their session is gone,
and a slot is granted when no session has it. -/
def Distinct (state : SlotRows) : SlotEvent → Prop
  | .call operation => state.manager.Distinct operation ∧
    (∀ creation ∈ operation.creation?, ∀ entry ∈ state.turns.entries,
      entry.2.sessionId ≠ creation.sessionId) ∧
    ∀ entry ∈ state.manager.sessions.entries,
      (state.manager.grantOf operation).map Prod.fst ≠ some entry.2.slotId
  | .prefillComplete .. | .finalizeAndRegisterHashes .. | .setResidentPrefixBlocks _ => True

/-- Hashes are not zero. -/
def Hashed : SlotEvent → Prop
  | .call operation => ∀ block ∈ operation.blocks, block.hash ≠ 0
  | .finalizeAndRegisterHashes _ allBlocks => ∀ block ∈ allBlocks, block.hash ≠ 0
  | .prefillComplete .. | .setResidentPrefixBlocks _ => True

variable (config : SessionConfig)

/-- Before the end of the blocks that are copied there are no think rows. -/
def Plain (state : SlotRows) (operation : Operation) : Prop :=
  match operation with
  | .runCallback _ => ∀ turn ∈ state.manager.turnOf config operation,
    thinkRows ((state.rows turn.slotId).take turn.credited) = 0
  | _ => True

instance (config : SessionConfig) (state : SlotRows) (operation : Operation) :
    Decidable (state.Plain config operation) := by
  unfold Plain
  split <;> infer_instance

/-- A request writes rows and marks blocks while it is the last on its slot, and marks them only
when its prefill is complete. -/
def Complete (state : SlotRows) : SlotEvent → Prop
  | .call operation => state.manager.Capped config operation ∧ state.Plain config operation
  | .prefillComplete turn _ => state.turns.lookup turn.slotId = some turn
  | .finalizeAndRegisterHashes turn _ | .setResidentPrefixBlocks turn =>
    state.turns.lookup turn.slotId = some turn ∧
      blockHashes turn.blocks <+: blockHashes (state.rows turn.slotId)

instance (state : SlotRows) : ∀ event, Decidable (state.Distinct event)
  | .call _ =>
    inferInstanceAs (Decidable (_ ∧ (∀ creation ∈ _, ∀ entry ∈ _, _) ∧ ∀ entry ∈ _, _))
  | .prefillComplete .. | .finalizeAndRegisterHashes .. | .setResidentPrefixBlocks _ =>
    inferInstanceAs (Decidable True)

instance : ∀ event, Decidable (Hashed event)
  | .call _ | .finalizeAndRegisterHashes .. => inferInstanceAs (Decidable (∀ block ∈ _, _))
  | .prefillComplete .. | .setResidentPrefixBlocks _ => inferInstanceAs (Decidable True)

instance (config : SessionConfig) (state : SlotRows) :
    ∀ event, Decidable (state.Complete config event)
  | .call _ => inferInstanceAs (Decidable (_ ∧ _))
  | .prefillComplete .. => inferInstanceAs (Decidable (_ = _))
  | .finalizeAndRegisterHashes .. | .setResidentPrefixBlocks _ =>
    inferInstanceAs (Decidable (_ ∧ _))

def Allowed (state : SlotRows) (event : SlotEvent) : Prop :=
  state.Distinct event ∧ Hashed event ∧ state.Complete config event

instance (config : SessionConfig) (state : SlotRows) (event : SlotEvent) :
    Decidable (state.Allowed config event) :=
  inferInstanceAs (Decidable (_ ∧ _ ∧ _))

end SlotRows

section Runs

variable {config : SessionConfig} {state after : SlotRows}

theorem Backed.perform (backed : Backed state) {operation : Operation}
    (outside : operation.Internal = false) (allowed : state.Allowed config (.call operation)) :
    Backed (state.perform config operation) := by
  obtain ⟨⟨distinct, unnamed, free⟩, nonzero, capped, -⟩ := allowed
  have sound := backed.sound.perform config distinct fun _ => nonzero
  rw [SlotRows.perform]
  cases granted : state.manager.grantOf operation with
  | none =>
    have handled := backed.sound.perform_handled
      (fun sessionId waits => (backed.waiting sessionId waits).2.1)
      (fun sessionId waits => (backed.waiting sessionId waits).2.2) outside granted capped
    generalize state.manager.turnOf config operation = turn at handled ⊢
    cases handled with
    | started starts idle => exact backed.starts starts sound idle
    | kept keeps =>
      refine backed.keeps keeps sound fun id added => ?_
      obtain ⟨creation, created, rfl⟩ := Option.map_eq_some_iff.mp added
      refine ⟨distinct.1 creation created, fun slotId turn last => ?_⟩
      exact unnamed creation created ⟨slotId, turn⟩ (Table.mem_entries.mpr last)
    | registered starts idle waited nothing => exact backed.registers starts sound idle waited nothing
  | some grant =>
    cases operation with
    | handleMemoryResult sessionId result =>
      cases result with
      | none => cases granted
      | some slotId =>
        simp only [SessionManager.grantOf] at granted
        split at granted
        · cases granted
        · rename_i allocation waits
          split at granted
          · rename_i fits
            obtain rfl := Option.some.inj granted
            have grants : state.manager.grantOf (.handleMemoryResult sessionId (some slotId)) =
                some (slotId, allocation.slotIdToCopyFrom) := by
              simp only [SessionManager.grantOf, waits, if_pos fits]
            refine backed.grant waits fits.1 fits.2 fun other session found same => ?_
            refine free ⟨other, session⟩ (Table.mem_entries.mpr found) ?_
            rw [grants, Option.map_some, same]
          · cases granted
    | _ => cases granted

theorem Backed.step (backed : Backed state) {event : SlotEvent}
    (allowed : state.Allowed config event) (stepped : SlotRows.step config state event = some after) :
    Backed after := by
  cases event with
  | call operation =>
    rw [SlotRows.step] at stepped
    split at stepped
    · cases stepped
    · rename_i outside
      obtain rfl := Option.some.inj stepped
      exact backed.perform (Bool.eq_false_iff.mpr outside) allowed
  | prefillComplete turn written =>
    rw [SlotRows.step] at stepped
    split at stepped
    · obtain rfl := Option.some.inj stepped
      exact backed.prefillComplete allowed.2.2 written
    · cases stepped
  | finalizeAndRegisterHashes turn allBlocks =>
    rw [SlotRows.step] at stepped
    split at stepped
    · rename_i continued
      obtain rfl := Option.some.inj stepped
      obtain ⟨last, held⟩ := allowed.2.2
      exact backed.finalizeAndRegisterHashes last held continued allowed.2.1
    · cases stepped
  | setResidentPrefixBlocks turn =>
    obtain rfl := Option.some.inj stepped
    obtain ⟨last, held⟩ := allowed.2.2
    exact backed.setResidentPrefixBlocks last held

theorem Backed.reached (reached : Reaches (SlotRows.step config) (SlotRows.Allowed config) {} state) :
    Backed state :=
  reached.invariant Backed .empty fun _ _ _ backed allowed stepped => backed.step allowed stepped

end Runs

end InferenceServer.Sessions
