import InferenceServer.Sessions.ResidentCopies

/-! What copies are credited with: no more blocks than their source holds, and a position behind
the rows of these. -/
namespace InferenceServer.Sessions
open Machine PrefixCache Pipeline

/-- An allocation for a prompt with these blocks, as a copy by the plan. -/
structure Planned (allocation : PendingAllocation) (blocks : List BlockHashInfo)
    (plan : Option SlotCopyPlan) : Prop where
  source : allocation.slotIdToCopyFrom = plan.map SlotCopyPlan.slotToCopyFrom
  prompt : allocation.caller.blocks = blocks
  credited : allocation.caller.copyMatchedTokens = (plan.map SlotCopyPlan.matchedTokens).getD 0

section Plans

variable {config : SessionConfig} {manager after : SessionManager}
variable {blocks : List BlockHashInfo} {creation : Creation}

/-- Whether there is room or not, the allocation is listed. -/
theorem listed_createSession (config : SessionConfig) (manager : SessionManager)
    (creation : Creation) (initialBlockInfos : List BlockHashInfo)
    (slotIdToCopyFrom : Option UInt32) (caller : Caller) :
    ∀ allocation ∈ (manager.createSession config creation initialBlockInfos slotIdToCopyFrom
      caller).allocations.lookup creation.sessionId,
        allocation.slotIdToCopyFrom = slotIdToCopyFrom ∧ allocation.caller = caller := by
  intro allocation found
  simp only [SessionManager.createSession, SessionManager.sendAsyncAllocationRequest,
    SessionManager.retryOrFail, SessionManager.place] at found
  split at found <;> try split at found
  all_goals
    rw [AList.lookup_insert] at found
    obtain rfl := Option.some.inj found
    exact ⟨rfl, rfl⟩

theorem planned_allocate (config : SessionConfig) (manager : SessionManager) (creation : Creation)
    (initialBlockInfos : List BlockHashInfo) (plan : Option SlotCopyPlan) (caller : Nat → Caller)
    (prompt : ∀ tokens, (caller tokens).blocks = blocks)
    (credited : ∀ tokens, (caller tokens).copyMatchedTokens = tokens) :
    ∀ allocation ∈ (manager.allocate config creation initialBlockInfos plan
      caller).allocations.lookup creation.sessionId, Planned allocation blocks plan := by
  intro allocation found
  obtain ⟨source, called⟩ := listed_createSession config _ creation initialBlockInfos _ _
    allocation found
  exact ⟨source, called ▸ prompt _, called ▸ credited _⟩

section

variable (fresh : manager.allocations.lookup creation.sessionId = none)
include fresh

/-- Without a previous response `getSlot` copies the best candidate for the prompt. -/
theorem planned_missed (opts : GetSlotOptions) {outcome : SlotOutcome}
    (called : manager.getSlotByPrompt config blocks opts creation = (after, outcome)) :
    ∀ allocation ∈ after.allocations.lookup creation.sessionId, ∃ plan,
      Planned allocation blocks plan ∧ ∀ chosen ∈ plan, manager.bestSlotToCopyFrom config
        (((manager.tryAcquireByPrefixHash config blocks).2.map
          AcquireResult.candidatesList).getD []) = some chosen := by
  unfold SessionManager.getSlotByPrompt at called
  intro allocation found
  have byPrefix := tryAcquireByPrefixHash_spec config manager blocks
  generalize manager.tryAcquireByPrefixHash config blocks = acquired at byPrefix called ⊢
  cases byPrefix with
  | nothing =>
    obtain ⟨rfl, rfl⟩ := Prod.mk.inj called
    exact ⟨none, planned_allocate config manager creation [] none
      (.getSlot blocks opts.responseId) (fun _ => rfl) (fun _ => rfl) allocation found, nofun⟩
  | missed prefixIndex =>
    obtain ⟨rfl, rfl⟩ := Prod.mk.inj called
    exact ⟨_, planned_allocate config { manager with prefixIndex } creation [] _
      (.getSlot blocks opts.responseId) (fun _ => rfl) (fun _ => rfl) allocation found,
      fun _ => id⟩
  | hit prefixIndex first there =>
    obtain ⟨rfl, rfl⟩ := Prod.mk.inj called
    simp only [SessionManager.shrinkResidentPrefixToMatchedTokens, SessionManager.modify,
      allocations_registerPrefixHash, fresh] at found
    cases found

theorem planned_getSlot (config : SessionConfig) (blocks : List BlockHashInfo)
    (opts : GetSlotOptions) :
    ∀ allocation ∈ (manager.getSlot config blocks opts creation).1.allocations.lookup
      creation.sessionId, ∃ plan, Planned allocation blocks plan ∧
        ∀ chosen ∈ plan, manager.bestSlotToCopyFrom config
          (manager.copyCandidates config blocks opts) = some chosen := by
  cases called : manager.getSlot config blocks opts creation with
  | mk after outcome =>
    rw [SessionManager.getSlot] at called
    rw [SessionManager.copyCandidates]
    have byResponse := tryAcquireByResponseId_spec manager (opts.previousResponseId.getD "")
    generalize manager.tryAcquireByResponseId (opts.previousResponseId.getD "") = first
      at byResponse called ⊢
    cases byResponse with
    | @hit sessionId session =>
      intro allocation found
      have kept : Preserves False (manager.modify sessionId Session.markInFlight)
          (SessionManager.continueResponse config _ blocks opts sessionId session.slotId).1 :=
        .continueResponse config _ False.elim opts sessionId session.slotId
      obtain rfl : _ = after := congrArg Prod.fst called
      rw [show _ = manager.allocations from kept.allocations] at found
      cases fresh ▸ found
    | inFlight =>
      intro allocation found
      obtain ⟨rfl, rfl⟩ := Prod.mk.inj called
      cases fresh ▸ found
    | unknown => exact planned_missed fresh opts called
    | @stale sessionId =>
      obtain ⟨responseIdIndex, removed⟩ := removeResponseId_eq manager sessionId
        (opts.previousResponseId.getD "")
      simp only [removed] at called ⊢
      exact planned_missed fresh opts called

theorem planned_resolveDecodeDestinationSlot (config : SessionConfig)
    (registrationHashes : List UInt64) (previousResponseId : Option String) :
    ∀ allocation ∈ (manager.resolveDecodeDestinationSlot config registrationHashes
      previousResponseId creation).1.allocations.lookup creation.sessionId, ∃ plan,
        Planned allocation (hashesToBlockInfos registrationHashes) plan ∧ ∀ chosen ∈ plan,
          manager.prepareSlotCopy config
            (manager.candidatesFor config (hashesToBlockInfos registrationHashes)) =
              some chosen := by
  intro allocation found
  rw [SessionManager.resolveDecodeDestinationSlot] at found
  split at found
  · have byResponse := tryAcquireByResponseId_spec manager (previousResponseId.getD "")
    generalize manager.tryAcquireByResponseId (previousResponseId.getD "") = first
      at byResponse found
    cases byResponse with
    | hit =>
      simp only [SessionManager.modify, allocations_registerPrefixHash, fresh] at found
      cases found
    | inFlight => cases fresh ▸ found
    | unknown | stale =>
      exact ⟨none, planned_allocate config _ creation _ none (.decodeDestinationSlot _)
        (fun _ => rfl) (fun _ => rfl) allocation found, by rintro _ ⟨⟩⟩
  · have byPrefix := tryAcquireByPrefixHash_spec config manager
      (hashesToBlockInfos registrationHashes)
    generalize manager.tryAcquireByPrefixHash config (hashesToBlockInfos registrationHashes) =
      acquired at byPrefix found
    cases byPrefix with
    | nothing =>
      exact ⟨none, planned_allocate config manager creation _ none (.decodeDestinationSlot _)
        (fun _ => rfl) (fun _ => rfl) allocation found, by rintro _ ⟨⟩⟩
    | missed prefixIndex =>
      exact ⟨_, planned_allocate config { manager with prefixIndex } creation _ _
        (.decodeDestinationSlot _) (fun _ => rfl) (fun _ => rfl) allocation found, fun _ => id⟩
    | hit =>
      simp only [if_true, SessionManager.modify, allocations_registerPrefixHash, fresh] at found
      cases found

theorem planned_resolvePrefillSession (config : SessionConfig) (routingHashes : List UInt64)
    (promptTokens : Nat) :
    ∀ allocation ∈ (manager.resolvePrefillSession config routingHashes promptTokens
      creation).1.allocations.lookup creation.sessionId, ∃ plan,
        Planned allocation (hashesToBlockInfos routingHashes) plan ∧ ∀ chosen ∈ plan,
          manager.prepareSlotCopy config
            (manager.candidatesFor config (hashesToBlockInfos routingHashes)) = some chosen := by
  intro allocation found
  rw [SessionManager.resolvePrefillSession] at found
  have byPrefix := tryAcquireByPrefixHash_spec config manager (hashesToBlockInfos routingHashes)
  generalize manager.tryAcquireByPrefixHash config (hashesToBlockInfos routingHashes) = acquired
    at byPrefix found
  cases byPrefix with
  | nothing =>
    exact ⟨none, planned_allocate config manager creation _ none (.prefillSession _)
      (fun _ => rfl) (fun _ => rfl) allocation found, by rintro _ ⟨⟩⟩
  | missed prefixIndex =>
    exact ⟨_, planned_allocate config { manager with prefixIndex } creation _ _
      (.prefillSession _) (fun _ => rfl) (fun _ => rfl) allocation found, fun _ => id⟩
  | hit =>
    simp only [if_true, SessionManager.shrinkResidentPrefixToMatchedTokens,
      SessionManager.modify, allocations_registerPrefixHash, fresh] at found
    cases found

end

theorem missed_mem {candidate : Candidate String} (member : candidate ∈
    ((manager.tryAcquireByPrefixHash config blocks).2.map AcquireResult.candidatesList).getD []) :
    candidate ∈ manager.candidatesFor config blocks := by
  have byPrefix := tryAcquireByPrefixHash_spec config manager blocks
  generalize manager.tryAcquireByPrefixHash config blocks = acquired at byPrefix member
  cases byPrefix with
  | nothing | hit => cases member
  | missed => exact member

theorem copyCandidates_mem {opts : GetSlotOptions} {candidate : Candidate String}
    (member : candidate ∈ manager.copyCandidates config blocks opts) :
    candidate ∈ manager.candidatesFor config blocks := by
  rw [SessionManager.copyCandidates] at member
  have byResponse := tryAcquireByResponseId_spec manager (opts.previousResponseId.getD "")
  generalize manager.tryAcquireByResponseId (opts.previousResponseId.getD "") = first
    at byResponse member
  cases byResponse with
  | hit | inFlight => cases member
  | unknown => exact missed_mem member
  | @stale sessionId =>
    obtain ⟨responseIdIndex, removed⟩ := removeResponseId_eq manager sessionId
      (opts.previousResponseId.getD "")
    rw [removed] at member
    have listed := missed_mem member
    exact listed

/-- The source has no fewer blocks resident than it is capped to. -/
theorem findSlotToCopyFrom_mem {committed : String → Nat} {eligible : String → Bool}
    {candidates : List (Candidate String)} {capped : Candidate String}
    (found : findSlotToCopyFrom config committed eligible candidates = some capped) :
    ∃ candidate ∈ candidates, capped = { candidate with
      matchedBlocks := min candidate.matchedBlocks (committed candidate.sessionId) } := by
  induction candidates with
  | nil => cases found
  | cons candidate candidates ih =>
    rw [findSlotToCopyFrom] at found
    split at found
    · exact ⟨candidate, List.mem_cons_self, (Option.some.inj found).symm⟩
    · obtain ⟨other, member, same⟩ := ih found
      exact ⟨other, List.mem_cons_of_mem candidate member, same⟩

end Plans

section Credits

variable {config : SessionConfig} {state : SlotRows} {blocks : List BlockHashInfo}
variable {candidate : Candidate String} {session : Session} {count : Nat} {plan : SlotCopyPlan}

/-- A slot holds what its session has resident of a match. -/
theorem Backed.copied (backed : Backed state)
    (member : candidate ∈ state.manager.candidatesFor config blocks)
    (found : state.manager.sessions.lookup candidate.sessionId = some session)
    (matched : count ≤ candidate.matchedBlocks) (resident : count ≤ session.committedBlocks) :
    count ≤ state.heldBlocks session.slotId blocks := by
  obtain ⟨-, own, registered, common⟩ := backed.sound.candidate member
  rw [common] at matched
  have agrees : (blockHashes blocks).take count = own.take count := by
    have same := congrArg (List.take count) (take_commonPrefix (blockHashes blocks) own)
    rwa [List.take_take, List.take_take, Nat.min_eq_left matched] at same
  refine le_commonPrefix (Nat.le_trans matched (commonPrefix_le _ _).1) ?_
  rw [agrees]
  exact (List.take_prefix_take_left resident).trans
    (backed.resident candidate.sessionId session own found registered)

theorem Backed.prepareSlotCopy (backed : Backed state)
    (planned : state.manager.prepareSlotCopy config (state.manager.candidatesFor config blocks) =
      some plan) : ∃ copied ≤ state.heldBlocks plan.slotToCopyFrom blocks,
      plan.matchedTokens = blocksToTokens config.sizes copied := by
  rw [SessionManager.prepareSlotCopy] at planned
  split at planned
  · cases planned
  · rename_i capped source
    obtain ⟨candidate, member, rfl⟩ := findSlotToCopyFrom_mem source
    split at planned
    · cases planned
    · rename_i session found
      split at planned
      · cases planned
      · obtain rfl := Option.some.inj planned
        refine ⟨_, backed.copied member found (Nat.min_le_left _ _) ?_, rfl⟩
        rw [SessionManager.getCommittedBlocks, found]
        exact Nat.min_le_right _ _

theorem Backed.bestSlotToCopyFrom (backed : Backed state) {candidates : List (Candidate String)}
    (members : ∀ candidate ∈ candidates, candidate ∈ state.manager.candidatesFor config blocks)
    (resident : ∀ best ∈ candidates.head?,
      best.matchedBlocks ≤ state.manager.getCommittedBlocks best.sessionId)
    (planned : state.manager.bestSlotToCopyFrom config candidates = some plan) :
    ∃ copied ≤ state.heldBlocks plan.slotToCopyFrom blocks,
      plan.matchedTokens = blocksToTokens config.sizes copied := by
  cases candidates with
  | nil => cases planned
  | cons best candidates =>
    simp only [SessionManager.bestSlotToCopyFrom] at planned
    split at planned
    · cases planned
    · rename_i session found
      split at planned
      · obtain rfl := Option.some.inj planned
        refine ⟨_, backed.copied (members best List.mem_cons_self) found (Nat.le_refl _) ?_, rfl⟩
        have fits := resident best rfl
        rwa [SessionManager.getCommittedBlocks, found] at fits
      · cases planned

end Credits

/-- The position at which a request goes on that is answered so. -/
def Answer.PositionIs (answer : Answer) (position : Nat) : Prop :=
  match answer with
  | .slot result => ∀ (pipeline : LLMPipeline) (req : LLMRequest) (resolution : Resolution),
    pipeline.onSlotAcquired req result = some resolution →
      resolution.req.kvPositionId = some (UInt32.ofNat position)
  | .decodeSlot reserved => reserved.decodePositionId = (UInt32.ofNat position).toInt32.toInt
  | .prefill acquired => acquired.kvPositionId = some position
  | .session | .inFlight | .failed => True

namespace SlotRows

/-- A session that is allocated as a copy is credited with blocks of its prompt that the source
holds. -/
def CreditsHeld (config : SessionConfig) (state : SlotRows) (operation : Operation) : Prop :=
  ∀ creation ∈ operation.creation?,
    ∀ allocation ∈ (state.manager.perform config operation).allocations.lookup creation.sessionId,
      ∀ source ∈ allocation.slotIdToCopyFrom,
        ∃ copied ≤ state.heldBlocks source allocation.caller.blocks,
          allocation.caller.copyMatchedTokens = blocksToTokens config.sizes copied

/-- A request that has got a copy goes on behind the tokens of the blocks and the think rows before
their end. -/
def CountsThinkRows (config : SessionConfig) (state : SlotRows) (operation : Operation) : Prop :=
  ∀ sessionId, operation = .runCallback sessionId →
    ∀ allocation ∈ state.manager.allocations.lookup sessionId,
      allocation.slotIdToCopyFrom ≠ none →
      ∀ answer ∈ (state.manager.runCallback sessionId).2, ∀ slot ∈ answer.slot?,
        answer.PositionIs (allocation.caller.copyMatchedTokens + thinkRows ((state.rows slot.2).take
          (tokensToBlocks config.sizes allocation.caller.copyMatchedTokens)))

end SlotRows

section Positions

variable {manager after : SessionManager} {sessionId : String}

theorem applyDeltaPrompt_position {llmMode : LLMMode} {req changed : LLMRequest}
    {matchedTokens removed : UInt32}
    (applied : applyDeltaPrompt llmMode req matchedTokens { skipUnlessRegularMode := true } =
      some (removed, changed)) : changed.kvPositionId = req.kvPositionId := by
  rw [applyDeltaPrompt] at applied
  split at applied
  · exact (Prod.mk.inj (Option.some.inj applied)).2 ▸ rfl
  · split at applied
    · cases applied
    · split at applied <;> exact (Prod.mk.inj (Option.some.inj applied)).2 ▸ rfl

/-- The pipeline adds the think tokens that it is told of. -/
theorem onSlotAcquired_position {pipeline : LLMPipeline} {req : LLMRequest}
    {result : SlotAcquireResult} {resolution : Resolution}
    (acquired : pipeline.onSlotAcquired req result = some resolution) :
    resolution.req.kvPositionId = some
      (if result.isNewSession then 0 else result.matchedTokens + result.accumulatedThinkTokens) := by
  cases new : result.isNewSession with
  | true =>
    simp only [LLMPipeline.onSlotAcquired, new, Bool.not_true, Bool.false_and, Bool.false_eq_true,
      ↓reduceIte, Option.bind_eq_bind, Option.bind_some, Option.pure_def,
      Option.some.injEq] at acquired
    exact acquired ▸ rfl
  | false =>
    simp only [LLMPipeline.onSlotAcquired, new, Bool.not_false, Bool.true_and, Bool.false_eq_true,
      ↓reduceIte, Option.bind_eq_bind, Option.pure_def] at acquired
    split at acquired
    · obtain ⟨⟨removed, changed⟩, applied, same⟩ := Option.bind_eq_some_iff.mp acquired
      obtain rfl := Option.some.inj same
      exact applyDeltaPrompt_position applied
    · simp only [Option.bind_some, Option.some.injEq] at acquired
      exact acquired ▸ rfl

/-- A copy is handed over with the tokens that it is credited with, and no think tokens. -/
theorem complete_position {answer : Answer} {caller : Caller}
    (called : manager.complete sessionId true caller = (after, answer))
    (acquired : answer.slot? ≠ none) : answer.PositionIs caller.copyMatchedTokens := by
  cases caller with
  | other =>
    obtain ⟨rfl, rfl⟩ := Prod.mk.inj called
    exact absurd rfl acquired
  | getSlot blocks responseId copyMatchedTokens =>
    simp only [SessionManager.complete, SessionManager.completeGetSlot] at called
    split at called
    · obtain ⟨-, rfl⟩ := Prod.mk.inj called
      exact absurd rfl acquired
    · obtain ⟨-, rfl⟩ := Prod.mk.inj called
      intro pipeline req resolution handed
      rw [onSlotAcquired_position handed]
      by_cases none : copyMatchedTokens = 0
      · subst none
        rfl
      · simp only [none, decide_false, Bool.false_eq_true, ↓reduceIte, UInt32.add_zero]
        rfl
  | decodeDestinationSlot blockInfos copyMatchedTokens =>
    simp only [SessionManager.complete, SessionManager.completeDecodeDestinationSlot, if_true,
      Option.map_some] at called
    split at called
    · obtain ⟨-, rfl⟩ := Prod.mk.inj called
      exact absurd rfl acquired
    · obtain ⟨-, rfl⟩ := Prod.mk.inj called
      simp only [Answer.PositionIs, Disaggregation.DecodeDestinationSlot.fromNewSession,
        Caller.copyMatchedTokens]
      split
      · simp [Disaggregation.DecodeDestinationSlot.setDecodePositionFields]
      · rename_i none
        have zero : UInt32.ofNat copyMatchedTokens = 0 := by
          rw [← UInt32.toNat_inj]
          exact Nat.eq_zero_of_not_pos none
        rw [zero]
        rfl
  | prefillSession blockInfos copyMatchedTokens =>
    simp only [SessionManager.complete, SessionManager.completePrefillSession] at called
    split at called
    · obtain ⟨-, rfl⟩ := Prod.mk.inj called
      exact absurd rfl acquired
    · obtain ⟨-, rfl⟩ := Prod.mk.inj called
      rfl

end Positions

section Copying

variable {config : SessionConfig} {state : SlotRows} {operation : Operation}

theorem Backed.creditsHeld (backed : Backed state)
    (allowed : state.Allowed config (.call operation)) : state.CreditsHeld config operation := by
  obtain ⟨⟨⟨fresh, -⟩, -⟩, -, capped, -⟩ := allowed
  intro creation created allocation found source copied
  -- The credit of a plan is that of the allocation.
  have of_plan {blocks : List BlockHashInfo} {plan : Option SlotCopyPlan}
      (planned : Planned allocation blocks plan) (held : ∀ chosen ∈ plan,
        ∃ copied ≤ state.heldBlocks chosen.slotToCopyFrom blocks,
          chosen.matchedTokens = blocksToTokens config.sizes copied) :
      ∃ copied ≤ state.heldBlocks source allocation.caller.blocks,
        allocation.caller.copyMatchedTokens = blocksToTokens config.sizes copied := by
    rw [planned.source] at copied
    obtain ⟨chosen, rfl, rfl⟩ := Option.map_eq_some_iff.mp copied
    obtain ⟨count, fits, same⟩ := held chosen rfl
    exact ⟨count, planned.prompt ▸ fits, planned.credited.trans same⟩
  cases operation with
  | createSession other initialBlockInfos slotId slotIdToCopyFrom =>
    obtain rfl := Option.some.inj created
    cases slotId with
    | none =>
      obtain ⟨-, called⟩ := listed_createSession config state.manager other initialBlockInfos
        slotIdToCopyFrom .other allocation found
      exact ⟨0, Nat.zero_le _, called ▸ rfl⟩
    | some slotId =>
      have evicted : Preserves True _ _ :=
        .evictOldSessions config state.manager other.leastRecent
      simp only [SessionManager.perform, SessionManager.createPreassigned,
        allocations_registerPrefixHash, SessionManager.insertSession, evicted.allocations,
        (fresh other rfl).2] at found
      cases found
  | getSlot blocks opts other =>
    obtain rfl := Option.some.inj created
    obtain ⟨plan, planned, chosen⟩ :=
      planned_getSlot (fresh other rfl).2 config blocks opts allocation found
    refine of_plan planned fun choice member => ?_
    have best := chosen choice member
    refine backed.bestSlotToCopyFrom (fun _ => copyCandidates_mem) (capped ?_) best
    rw [best]
    exact Option.some_ne_none _
  | resolveDecodeDestinationSlot registrationHashes previousResponseId other =>
    obtain rfl := Option.some.inj created
    obtain ⟨plan, planned, chosen⟩ := planned_resolveDecodeDestinationSlot (fresh other rfl).2
      config registrationHashes previousResponseId allocation found
    exact of_plan planned fun choice member => backed.prepareSlotCopy (chosen choice member)
  | resolvePrefillSession routingHashes promptTokens other =>
    obtain rfl := Option.some.inj created
    obtain ⟨plan, planned, chosen⟩ := planned_resolvePrefillSession (fresh other rfl).2 config
      routingHashes promptTokens allocation found
    exact of_plan planned fun choice member => backed.prepareSlotCopy (chosen choice member)
  | _ => cases created

theorem SlotRows.Plain.countsThinkRows (plain : state.Plain config operation) :
    state.CountsThinkRows config operation := by
  rintro sessionId rfl allocation waits copies answer answered slot acquired
  have turn : state.manager.turnOf config (.runCallback sessionId) =
      some (allocation.turn config slot) := by
    simp only [SessionManager.turnOf, SessionManager.answer, SessionManager.promptOf,
      Option.mem_def.mp answered, Option.mem_def.mp waits, Option.bind_some,
      Option.mem_def.mp acquired, Option.map_some]
    rfl
  have none : thinkRows ((state.rows slot.2).take
      (tokensToBlocks config.sizes allocation.caller.copyMatchedTokens)) = 0 := plain _ turn
  rw [none, Nat.add_zero]
  simp only [SessionManager.runCallback, Option.mem_def.mp waits] at answered
  split at answered
  · cases answered
  · cases answered
  · obtain rfl := Option.some.inj answered
    cases acquired
  · obtain rfl := Option.some.inj answered
    rw [Option.isSome_iff_ne_none.mpr copies] at acquired ⊢
    refine complete_position rfl ?_
    rw [Option.mem_def.mp acquired]
    exact Option.some_ne_none _

end Copying

section Runs

def fourBlocks : List BlockHashInfo :=
  hashesToBlockInfos [1, 2, 3, 4]

/-- The request that generates on a session until it has four blocks. -/
def sourceTurn : SlotTurn where
  sessionId := "a"
  slotId := 3
  blocks := fourBlocks
  credited := 0

def oneTurn : List SlotEvent :=
  [.call (.getSlot fourBlocks ⟨none, none⟩ { sessionId := "a" }),
    .call (.handleMemoryResult "a" (some 3)), .call (.runCallback "a"),
    .call (.initTokenAccumulator "a"), .prefillComplete sourceTurn fourBlocks,
    .finalizeAndRegisterHashes sourceTurn fourBlocks]

theorem oneTurn_runs : (runWithin (SlotRows.step decodeConfig) (SlotRows.Allowed decodeConfig) {}
    oneTurn).isSome = true := by
  decide +kernel

/-- Then a reservation goes on with the session behind its second block. -/
def divergence : List SlotEvent :=
  oneTurn ++ [.call (.releaseInFlight "a"),
    .call (.resolveDecodeDestinationSlot [1, 2, 7, 8] none { sessionId := "b" })]

theorem divergence_runs : (runWithin (SlotRows.step decodeConfig)
    (fun state event => state.Distinct event ∧ SlotRows.Hashed event) {} divergence).isSome =
      true := by
  decide +kernel

def afterDivergence : SlotRows :=
  (runWithin (SlotRows.step decodeConfig)
    (fun state event => state.Distinct event ∧ SlotRows.Hashed event) {} divergence).get
      divergence_runs

end Runs

end InferenceServer.Sessions
