import InferenceServer.PrefixCache.ThinkRows

/-! A request on its way from session resolution to the device: the session's cached
prefix is trimmed from its prompt, and its first token is to be written at the KV row
behind that prefix. -/
namespace InferenceServer.Pipeline
open PrefixCache Sessions

inductive LLMMode
  | regular
  | prefillOnly
  | decodeOnly
  deriving DecidableEq

inductive Prompt
  | text (text : String)
  | tokens (tokens : List UInt32)
  deriving DecidableEq

structure LLMRequest where
  prompt : Prompt
  promptTokensCount : Int32
  maxTokens : Option Int32 := none
  kvPositionId : Option UInt32 := none
  accumulatedThinkTokens : Int32 := 0
  disaggregationOverride : Option Bool := none
  sessionId : Option String := none
  slotId : Option UInt32 := none
  continuation : Bool := false
  previousResponseId : Option String := none
  responseId : Option String := none
  deriving DecidableEq

structure GetSlotOptions where
  previousResponseId : Option String
  responseId : Option String

structure SlotAcquireResult where
  sessionId : String
  slotId : UInt32
  matchedTokens : UInt32
  accumulatedThinkTokens : UInt32
  isNewSession : Bool
  blocks : List BlockHashInfo
  deriving DecidableEq

/-- What the pipeline depends on: its settings, and the services it calls. Without a
session manager there is no `getSlot`. -/
structure LLMPipeline where
  llmMode : LLMMode
  dynamoRoutingEnabled : Bool
  maxTokensToPrefillOnDecode : UInt64
  getSlot : Option (List UInt32 → GetSlotOptions → Except String SlotAcquireResult)
  disaggregationService : Bool
  socketConnected : Bool
  hashPrompt : List UInt32 → List UInt64
  queueFull : Bool
  encode : String → List UInt32

structure DeltaPromptOptions where
  skipUnlessRegularMode : Bool := false
  setKvPositionId : Bool := false

/-- The number of tokens removed and the request, or nothing when the prompt is no
list of tokens and the access throws. -/
def applyDeltaPrompt (llmMode : LLMMode) (req : LLMRequest) (matchedTokens : UInt32)
    (options : DeltaPromptOptions := {}) : Option (UInt32 × LLMRequest) :=
  if options.skipUnlessRegularMode ∧ llmMode ≠ .regular then some (0, req)
  else
    match req.prompt with
    | .text _ => none
    | .tokens tokens =>
      if matchedTokens.toNat ≥ tokens.length then some (0, req)
      else
        let tokens := tokens.drop matchedTokens.toNat
        some (matchedTokens,
          { req with
            prompt := .tokens tokens
            promptTokensCount := Int32.ofNat tokens.length
            kvPositionId :=
              if options.setKvPositionId then some matchedTokens else req.kvPositionId })

structure SessionInfo where
  validSessionFound : Bool := false
  registrationHashes : List UInt64 := []
  deriving DecidableEq

/-- A resolved request, and what the session's token accumulator is set to. -/
structure Resolution where
  req : LLMRequest
  info : SessionInfo := {}
  accumulator : Option TokenAccumulator := none

variable (pipeline : LLMPipeline)

/-- The callback of `getSlot`; nothing when it throws. -/
def LLMPipeline.onSlotAcquired (req : LLMRequest) (result : SlotAcquireResult) :
    Option Resolution := do
  let req :=
    { req with
      sessionId := some result.sessionId
      slotId := some result.slotId
      continuation := !result.isNewSession }
  let req :=
    if result.isNewSession then { req with kvPositionId := some 0 }
    else
      { req with
        kvPositionId := some (result.matchedTokens + result.accumulatedThinkTokens)
        accumulatedThinkTokens := result.accumulatedThinkTokens.toInt32 }
  let fullPrompt := match req.prompt with
    | .tokens tokens => tokens
    | .text _ => []
  let (_, req) ←
    if !result.isNewSession && result.matchedTokens > 0 then
      applyDeltaPrompt pipeline.llmMode req result.matchedTokens { skipUnlessRegularMode := true }
    else some (0, req)
  return {
    req
    info := {
      validSessionFound := !result.isNewSession
      registrationHashes := result.blocks.map BlockHashInfo.hash }
    accumulator :=
      if fullPrompt = [] then none
      else some (initTokenAccumulator fullPrompt [] result.accumulatedThinkTokens.toNat) }

inductive PipelineError
  | rateLimit (message : String)
  | queueFull
  | runtimeError (message : String)
  | badVariantAccess
  deriving DecidableEq

def LLMPipeline.resolveSession (req : LLMRequest) : Except PipelineError Resolution :=
  if pipeline.llmMode = .prefillOnly ∧ pipeline.dynamoRoutingEnabled then
    match req.prompt with
    | .tokens tokens => .ok { req, info := { registrationHashes := pipeline.hashPrompt tokens } }
    | .text _ => .ok { req }
  else
    match pipeline.getSlot, req.prompt with
    | none, _ => .ok { req }
    | _, .text _ => .ok { req }
    | some getSlot, .tokens tokens =>
      match getSlot tokens { previousResponseId := req.previousResponseId
                             responseId := req.responseId } with
      | .error message => .error (.rateLimit message)
      | .ok result =>
        match pipeline.onSlotAcquired req result with
        | none => .error .badVariantAccess
        | some resolution => .ok resolution

def LLMPipeline.preProcess (req : LLMRequest) : Except PipelineError LLMRequest :=
  if pipeline.queueFull then .error .queueFull
  else
    match req.prompt with
    | .text text => .ok { req with prompt := .tokens (pipeline.encode text) }
    | .tokens _ => .ok req

def LLMPipeline.willPrefillOnDecode (request : LLMRequest) (deltaTokens : UInt64) : Bool :=
  if pipeline.dynamoRoutingEnabled then true
  else if !pipeline.socketConnected then true
  else
    match request.disaggregationOverride with
    | some forceDisagg => !forceDisagg
    | none => deltaTokens < pipeline.maxTokensToPrefillOnDecode

/-- `static_cast<size_t>` of an `int`. -/
def sizeOfInt (count : Int32) : UInt64 :=
  count.toInt64.toUInt64

def LLMPipeline.shouldDoPrefillOnDecode (request : LLMRequest) : Bool :=
  let promptTokens := sizeOfInt request.promptTokensCount
  let promptTokens := match request.kvPositionId with
    | none => promptTokens
    | some kvPositionId =>
      let cached := kvPositionId.toUInt64 - sizeOfInt request.accumulatedThinkTokens
      if promptTokens > cached then promptTokens - cached else 0
  pipeline.willPrefillOnDecode request promptTokens

/-- Where a request goes: to the local device, to the prefill server after the think
tokens of the session's blocks were cleared, or to the prefill-first path. -/
inductive Dispatch
  | submitted (request : LLMRequest) (reusedPrefixTokens : Int32)
  | disaggregated (request : LLMRequest) (registrationHashes : List UInt64)
      (clearThinkTokens : Option String)
  | prefillFirst (request : LLMRequest) (registrationHashes : List UInt64)
  deriving DecidableEq

def promptSize : Prompt → Nat
  | .tokens tokens => tokens.length
  | .text _ => 0

def LLMPipeline.dispatchGeneration (request : LLMRequest) (info : SessionInfo) :
    Except PipelineError Dispatch :=
  match pipeline.llmMode with
  | .regular => .ok (.submitted request 0)
  | .decodeOnly =>
    if pipeline.shouldDoPrefillOnDecode request then
      match request.continuation, request.kvPositionId with
      | true, some kvPositionId =>
        match applyDeltaPrompt pipeline.llmMode request
            (kvPositionId - request.accumulatedThinkTokens.toUInt32) with
        | none => .error .badVariantAccess
        | some (_, trimmed) =>
          .ok (.submitted trimmed
            (Int32.ofNat (promptSize request.prompt - promptSize trimmed.prompt)))
      | _, _ => .ok (.submitted request 0)
    else
      let matchedTokens :=
        request.kvPositionId.getD 0 - request.accumulatedThinkTokens.toUInt32
      .ok (.disaggregated { request with kvPositionId := some matchedTokens }
        info.registrationHashes (if pipeline.getSlot.isSome then request.sessionId else none))
  | .prefillOnly =>
    if !pipeline.dynamoRoutingEnabled then
      .error (.runtimeError "LLM Mode must be regular or decode only for chat completions")
    else if !pipeline.disaggregationService then
      .error (.runtimeError
        "[LLMPipeline] Prefill-first disaggregation requires DisaggregationService")
    else .ok (.prefillFirst { request with maxTokens := some 1 } info.registrationHashes)

def LLMPipeline.runStreamingRequest (req : LLMRequest) :
    Except PipelineError Dispatch := do
  let resolution ← pipeline.resolveSession req
  let request ← pipeline.preProcess resolution.req
  pipeline.dispatchGeneration request resolution.info

/-- What is left of a prompt after its matched tokens; all of it when nothing would be. -/
def deltaTokens (prompt : List UInt32) (matchedTokens : UInt32) : List UInt32 :=
  if matchedTokens.toNat ≥ prompt.length then prompt else prompt.drop matchedTokens.toNat

@[simp] theorem deltaTokens_zero (prompt : List UInt32) : deltaTokens prompt 0 = prompt := by
  simp [deltaTokens]

/-- A request that continues a session, with the position of its first token. -/
structure Positioned (result : SlotAcquireResult) (tokens : List UInt32)
    (request : LLMRequest) : Prop where
  prompt_eq : request.prompt = .tokens tokens
  continues : request.continuation = true
  position_eq :
    request.kvPositionId = some (result.matchedTokens + result.accumulatedThinkTokens)
  think_eq : request.accumulatedThinkTokens = result.accumulatedThinkTokens.toInt32

variable {result : SlotAcquireResult} {tokens prompt : List UInt32}
  {request req submitted : LLMRequest}

/-- Trimming changes the prompt and no position. -/
theorem Positioned.trim (positioned : Positioned result tokens request) (llmMode : LLMMode)
    (matchedTokens : UInt32) (options : DeltaPromptOptions)
    (applies : ¬(options.skipUnlessRegularMode ∧ llmMode ≠ .regular))
    (keeps : options.setKvPositionId = false) :
    ∃ removed trimmed, applyDeltaPrompt llmMode request matchedTokens options =
        some (removed, trimmed) ∧ Positioned result (deltaTokens tokens matchedTokens) trimmed := by
  obtain ⟨promptEq, continues, positionEq, thinkEq⟩ := positioned
  simp only [applyDeltaPrompt, if_neg applies, promptEq, keeps, deltaTokens]
  by_cases covered : matchedTokens.toNat ≥ tokens.length
  · simp only [if_pos covered]
    exact ⟨0, request, rfl, promptEq, continues, positionEq, thinkEq⟩
  · simp only [if_neg covered]
    exact ⟨_, _, rfl, rfl, continues, positionEq, thinkEq⟩

/-- The prompt is trimmed at resolution in regular mode only. -/
theorem LLMPipeline.onSlotAcquired_positioned (pipeline : LLMPipeline)
    (tokensPrompt : req.prompt = .tokens prompt) (continues : result.isNewSession = false) :
    ∃ resolution, pipeline.onSlotAcquired req result = some resolution ∧
      Positioned result
        (if pipeline.llmMode = .regular then deltaTokens prompt result.matchedTokens else prompt)
        resolution.req := by
  have resolved : Positioned result prompt
      { req with
        sessionId := some result.sessionId
        slotId := some result.slotId
        continuation := true
        kvPositionId := some (result.matchedTokens + result.accumulatedThinkTokens)
        accumulatedThinkTokens := result.accumulatedThinkTokens.toInt32 } :=
    ⟨tokensPrompt, rfl, rfl, rfl⟩
  simp only [onSlotAcquired, continues, Bool.not_false, Bool.false_eq_true, ↓reduceIte,
    Bool.true_and, decide_eq_true_eq]
  by_cases unmatched : result.matchedTokens > 0
  · rw [if_pos unmatched]
    by_cases regular : pipeline.llmMode = .regular
    · obtain ⟨removed, trimmed, applied, positioned⟩ := resolved.trim pipeline.llmMode
        result.matchedTokens { skipUnlessRegularMode := true } (by simp [regular]) rfl
      simp only [applied, if_pos regular]
      exact ⟨_, rfl, positioned⟩
    · simp only [applyDeltaPrompt, true_and, ne_eq, regular, not_false_eq_true, ↓reduceIte]
      exact ⟨_, rfl, resolved⟩
  · have zero : result.matchedTokens = 0 := by
      have bound := UInt32.not_lt.mp unmatched
      exact UInt32.le_zero_iff.mp bound
    rw [if_neg unmatched]
    refine ⟨_, rfl, ?_⟩
    simpa [zero] using resolved

/-- Every continuation reaches the device with its prompt trimmed once and its position
unchanged. -/
theorem LLMPipeline.dispatchGeneration_positioned (pipeline : LLMPipeline) {info : SessionInfo}
    {reusedPrefixTokens : Int32} (positioned : Positioned result
      (if pipeline.llmMode = .regular then deltaTokens prompt result.matchedTokens else prompt)
      request) (dispatched : pipeline.dispatchGeneration request info =
      .ok (.submitted submitted reusedPrefixTokens)) :
    Positioned result (deltaTokens prompt result.matchedTokens) submitted := by
  cases mode : pipeline.llmMode with
  | regular =>
    rw [if_pos mode] at positioned
    simp only [dispatchGeneration, mode, Except.ok.injEq, Dispatch.submitted.injEq] at dispatched
    obtain ⟨rfl, -⟩ := dispatched
    exact positioned
  | prefillOnly =>
    simp only [dispatchGeneration, mode] at dispatched
    split at dispatched
    · cases dispatched
    · split at dispatched <;> cases dispatched
  | decodeOnly =>
    rw [if_neg (by simp [mode])] at positioned
    have matched : result.matchedTokens + result.accumulatedThinkTokens -
        request.accumulatedThinkTokens.toUInt32 = result.matchedTokens := by
      rw [positioned.think_eq, UInt32.toUInt32_toInt32, UInt32.add_sub_cancel]
    obtain ⟨removed, trimmed, applied, trimmedPositioned⟩ :=
      positioned.trim .decodeOnly result.matchedTokens {} (by simp) rfl
    simp only [dispatchGeneration, mode, positioned.continues, positioned.position_eq, matched,
      applied] at dispatched
    split at dispatched
    · simp only [Except.ok.injEq, Dispatch.submitted.injEq] at dispatched
      obtain ⟨rfl, -⟩ := dispatched
      exact trimmedPositioned
    · cases dispatched

theorem bind_ok {error α β : Type} {first : Except error α} {rest : α → Except error β}
    {value : β} (ran : first >>= rest = .ok value) : ∃ mid, first = .ok mid ∧ rest mid = .ok value := by
  cases first with
  | error failure => cases ran
  | ok mid => exact ⟨mid, rfl, ran⟩

theorem LLMPipeline.preProcess_tokens (pipeline : LLMPipeline)
    (tokensPrompt : req.prompt = .tokens tokens) (processed : pipeline.preProcess req = .ok request)
    : request = req := by
  simp only [preProcess, tokensPrompt] at processed
  split at processed
  · cases processed
  · exact (Except.ok.inj processed).symm

/-- A token prompt passes through the pipeline with the session that `getSlot` found. -/
theorem LLMPipeline.runStreamingRequest_positioned (pipeline : LLMPipeline)
    {getSlot : List UInt32 → GetSlotOptions → Except String SlotAcquireResult}
    {reusedPrefixTokens : Int32} (tokensPrompt : req.prompt = .tokens prompt)
    (manager : pipeline.getSlot = some getSlot)
    (acquired : getSlot prompt { previousResponseId := req.previousResponseId
                                 responseId := req.responseId } = .ok result)
    (continues : result.isNewSession = false)
    (ran : pipeline.runStreamingRequest req = .ok (.submitted submitted reusedPrefixTokens)) :
    Positioned result (deltaTokens prompt result.matchedTokens) submitted := by
  obtain ⟨resolution, acquiredEq, positioned⟩ :=
    pipeline.onSlotAcquired_positioned tokensPrompt continues
  simp only [runStreamingRequest] at ran
  obtain ⟨resolved, resolvedEq, ran⟩ := bind_ok ran
  obtain ⟨request, processed, dispatched⟩ := bind_ok ran
  simp only [resolveSession, tokensPrompt, manager, acquired, acquiredEq] at resolvedEq
  split at resolvedEq
  · rename_i prefillFirst
    simp only [dispatchGeneration, prefillFirst.1, prefillFirst.2, Bool.not_true,
      Bool.false_eq_true, ↓reduceIte] at dispatched
    split at dispatched <;> cases dispatched
  · obtain rfl := Except.ok.inj resolvedEq
    obtain rfl := pipeline.preProcess_tokens positioned.prompt_eq processed
    exact pipeline.dispatchGeneration_positioned positioned dispatched

/-- `tokens` is the prompt without its first `count` tokens. -/
def WithoutLeading (prompt : List UInt32) (count : Nat) (tokens : List UInt32) : Prop :=
  count ≤ prompt.length ∧ tokens = prompt.drop count

theorem deltaTokens_withoutLeading_iff (prompt : List UInt32) (matchedTokens : UInt32) :
    WithoutLeading prompt matchedTokens.toNat (deltaTokens prompt matchedTokens) ↔
      matchedTokens = 0 ∨ matchedTokens.toNat < prompt.length := by
  by_cases zero : matchedTokens = 0
  · simp [zero, WithoutLeading]
  have positive : 0 < matchedTokens.toNat :=
    Nat.pos_of_ne_zero fun none => zero (UInt32.toNat_inj.mp none)
  simp only [zero, false_or]
  constructor
  · rintro ⟨le, eq⟩
    by_contra covered
    have length := congrArg List.length eq
    rw [deltaTokens, if_pos (by omega), List.length_drop] at length
    omega
  · intro lt
    refine ⟨by omega, ?_⟩
    rw [deltaTokens, if_neg (by omega)]

/-- The row of the first submitted token, less the think rows, is the number of tokens
trimmed from the prompt. -/
def PositionAgrees (prompt : List UInt32) (submitted : LLMRequest) : Prop :=
  ∃ position tokens, submitted.kvPositionId = some position ∧ submitted.prompt = .tokens tokens ∧
    WithoutLeading prompt (position - submitted.accumulatedThinkTokens.toUInt32).toNat tokens

theorem Positioned.positionAgrees_iff (positioned : Positioned result tokens submitted) :
    PositionAgrees prompt submitted ↔ WithoutLeading prompt result.matchedTokens.toNat tokens := by
  have matched : result.matchedTokens + result.accumulatedThinkTokens -
      submitted.accumulatedThinkTokens.toUInt32 = result.matchedTokens := by
    rw [positioned.think_eq, UInt32.toUInt32_toInt32, UInt32.add_sub_cancel]
  constructor
  · rintro ⟨position, rest, positionEq, promptEq, removed⟩
    cases positioned.position_eq.symm.trans positionEq
    cases positioned.prompt_eq.symm.trans promptEq
    rwa [matched] at removed
  · intro removed
    refine ⟨_, _, positioned.position_eq, positioned.prompt_eq, ?_⟩
    rwa [matched]

/-- The submitted position agrees with the trimmed prompt exactly when the match leaves a
token of the prompt over. -/
theorem delta_prompt_agrees (pipeline : LLMPipeline) {req : LLMRequest} {prompt : List UInt32}
    {getSlot : List UInt32 → GetSlotOptions → Except String SlotAcquireResult}
    {result : SlotAcquireResult} {submitted : LLMRequest} {reusedPrefixTokens : Int32}
    (tokensPrompt : req.prompt = .tokens prompt) (manager : pipeline.getSlot = some getSlot)
    (acquired : getSlot prompt { previousResponseId := req.previousResponseId
                                 responseId := req.responseId } = .ok result)
    (continues : result.isNewSession = false)
    (ran : pipeline.runStreamingRequest req = .ok (.submitted submitted reusedPrefixTokens)) :
    PositionAgrees prompt submitted ↔
      result.matchedTokens = 0 ∨ result.matchedTokens.toNat < prompt.length := by
  have positioned :=
    pipeline.runStreamingRequest_positioned tokensPrompt manager acquired continues ran
  rw [positioned.positionAgrees_iff, deltaTokens_withoutLeading_iff]

section Examples

/-- A decode server whose session holds 64 matched tokens behind three think rows. -/
def decodeServer (llmMode : LLMMode) : LLMPipeline where
  llmMode := llmMode
  dynamoRoutingEnabled := false
  maxTokensToPrefillOnDecode := 1000
  getSlot := some fun _ _ => .ok {
    sessionId := "session"
    slotId := 0
    matchedTokens := 64
    accumulatedThinkTokens := 3
    isNewSession := false
    blocks := [] }
  disaggregationService := true
  socketConnected := true
  hashPrompt := fun _ => []
  queueFull := false
  encode := fun _ => []

def promptOf (length : Nat) : LLMRequest where
  prompt := .tokens (List.replicate length 7)
  promptTokensCount := Int32.ofNat length

/-- The request that the server hands to its device with a rest of the prompt. -/
def submittedRequest (rest : Nat) : LLMRequest :=
  { promptOf rest with
    kvPositionId := some 67
    accumulatedThinkTokens := 3
    sessionId := some "session"
    slotId := some 0
    continuation := true }

/-- With one token left over it is submitted for the row behind the match. -/
theorem delta_prompt_agrees_oneTokenLeft :
    (decodeServer .decodeOnly).runStreamingRequest (promptOf 65) =
        .ok (.submitted (submittedRequest 1) 64) ∧
      PositionAgrees (List.replicate 65 7) (submittedRequest 1) := by
  have ran : (decodeServer .decodeOnly).runStreamingRequest (promptOf 65) =
      .ok (.submitted (submittedRequest 1) 64) := by decide +kernel
  exact ⟨ran, (delta_prompt_agrees (decodeServer .decodeOnly) rfl rfl rfl rfl ran).mpr
    (Or.inr (by decide))⟩

/-- A prompt that is matched completely is submitted whole, for the row behind it. -/
theorem delta_prompt_disagrees :
    ¬∀ (pipeline : LLMPipeline) (req : LLMRequest) (prompt : List UInt32)
      (getSlot : List UInt32 → GetSlotOptions → Except String SlotAcquireResult)
      (result : SlotAcquireResult) (submitted : LLMRequest) (reusedPrefixTokens : Int32),
      req.prompt = .tokens prompt → pipeline.getSlot = some getSlot →
      getSlot prompt { previousResponseId := req.previousResponseId
                       responseId := req.responseId } = .ok result →
      result.isNewSession = false →
      pipeline.runStreamingRequest req = .ok (.submitted submitted reusedPrefixTokens) →
      PositionAgrees prompt submitted := by
  intro agrees
  have ran : (decodeServer .decodeOnly).runStreamingRequest (promptOf 64) =
      .ok (.submitted (submittedRequest 64) 0) := by decide +kernel
  obtain ⟨position, tokens, positionEq, promptEq, -, removed⟩ :=
    agrees (decodeServer .decodeOnly) _ _ _ _ _ _ rfl rfl rfl rfl ran
  cases positionEq
  cases promptEq
  exact absurd (congrArg List.length removed) (by decide)

end Examples

end InferenceServer.Pipeline
