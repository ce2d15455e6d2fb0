import InferenceServer.Machine.Codec

/-! The bytes of a task in the task queue, written field by field and read back in the same
order by the same binary. The bitmask of tokens and its vocabulary size are not
written: a reader is left with the values of a new `SamplingParams`. -/
namespace InferenceServer.Ipc

open Machine

def invalidSlotId : UInt32 := 0xFFFFFFFF

structure SamplingParams where
  temperature : Float32Bits := 0
  maxTokens : Option Int32 := none
  ignoreEos : Bool := false
  topP : Option Float32Bits := none
  presencePenalty : Float32Bits := 0
  frequencyPenalty : Float32Bits := 0
  seed : Option Int32 := none
  useBeamSearch : Bool := false
  topK : Option Int32 := none
  minP : Option Float32Bits := none
  repetitionPenalty : Option Float32Bits := none
  lengthPenalty : Float32Bits := 0x3F800000
  stopTokenIds : Vec UInt32 := .empty
  includeStopStrInOutput : Bool := false
  minTokens : Int32 := 0
  skipSpecialTokens : Bool := true
  spacesBetweenSpecialTokens : Bool := true
  allowedTokenIds : Option (Vec Int32) := none
  tokenBitmask : Option (Vec Int32) := none
  bitmaskVocabSize : Int32 := 0
  promptLogprobs : Option Int32 := none
  truncatePromptTokens : Option Int32 := none
  fastMode : Bool := false
  deriving DecidableEq

structure Sequence where
  taskId : UInt32
  tokenIds : Vec UInt32 := .empty
  samplingParams : SamplingParams := {}
  numPromptTokens : UInt64 := 0
  kvCacheSlot : UInt32 := invalidSlotId
  prefillKvCacheSlot : UInt32 := invalidSlotId
  kvPositionId : Option UInt32 := none
  decodePositionId : Int32 := 0
  decodeSkipTokens : Int32 := 0
  migrationId : Option UInt64 := none
  migrationStartPosition : Option UInt32 := none
  continuation : Bool := false
  disaggregated : Bool := false
  startsInThinking : Bool := false
  deriving DecidableEq

section Fields

variable {T : Type} [Scalar T]

def writeScalar (value : T) : List UInt8 := Codec.scalar.write value

def readScalar : Reader T := Codec.scalar.read

def writeOptional (opt : Option T) : List UInt8 :=
  match opt with
  | none => writeScalar false
  | some value => [writeScalar true, writeScalar value].flatten

def readOptional : Reader (Option T) := do
  let hasValue : Bool ← readScalar
  if hasValue then
    let value ← readScalar
    return some value
  else
    return none

def writeVector (vec : Vec T) : List UInt8 := (Codec.counted Codec.scalar).write vec

def readVector : Reader (Vec T) := (Codec.counted Codec.scalar).read

theorem readScalar_reads (value : T) : Reads readScalar (writeScalar value) value :=
  Codec.scalar.reads value

theorem readOptional_reads (opt : Option T) : Reads readOptional (writeOptional opt) opt := by
  cases opt with
  | none => exact (readScalar_reads false).unset
  | some value =>
    exact .part (readScalar_reads true) (.part (readScalar_reads value) (.done (some value)))

theorem readVector_reads (vec : Vec T) : Reads readVector (writeVector vec) vec :=
  (Codec.counted Codec.scalar).reads vec

end Fields

/-- The presence of the allowed tokens and, when they are present, the tokens. -/
def writeAllowedTokenIds (allowed : Option (Vec Int32)) : List UInt8 :=
  match allowed with
  | none => writeScalar false
  | some allowedTokenIds => [writeScalar true, writeVector allowedTokenIds].flatten

variable (params : SamplingParams)

def SamplingParams.serialize : List UInt8 :=
  [writeScalar params.temperature,
    writeOptional params.maxTokens,
    writeScalar params.ignoreEos,
    writeOptional params.topP,
    writeScalar params.presencePenalty,
    writeScalar params.frequencyPenalty,
    writeOptional params.seed,
    writeScalar params.useBeamSearch,
    writeOptional params.topK,
    writeOptional params.minP,
    writeOptional params.repetitionPenalty,
    writeScalar params.lengthPenalty,
    writeVector params.stopTokenIds,
    writeScalar params.includeStopStrInOutput,
    writeScalar params.minTokens,
    writeScalar params.skipSpecialTokens,
    writeScalar params.spacesBetweenSpecialTokens,
    writeAllowedTokenIds params.allowedTokenIds,
    writeOptional params.promptLogprobs,
    writeOptional params.truncatePromptTokens,
    writeScalar params.fastMode].flatten

def readAllowedTokenIds : Reader (Option (Vec Int32)) := do
  let hasAllowed : Bool ← readScalar
  if hasAllowed then
    let allowedTokenIds ← readVector
    return some allowedTokenIds
  else
    return none

def SamplingParams.deserialize : Reader SamplingParams := do
  let temperature ← readScalar
  let maxTokens ← readOptional
  let ignoreEos ← readScalar
  let topP ← readOptional
  let presencePenalty ← readScalar
  let frequencyPenalty ← readScalar
  let seed ← readOptional
  let useBeamSearch ← readScalar
  let topK ← readOptional
  let minP ← readOptional
  let repetitionPenalty ← readOptional
  let lengthPenalty ← readScalar
  let stopTokenIds ← readVector
  let includeStopStrInOutput ← readScalar
  let minTokens ← readScalar
  let skipSpecialTokens ← readScalar
  let spacesBetweenSpecialTokens ← readScalar
  let allowedTokenIds ← readAllowedTokenIds
  let promptLogprobs ← readOptional
  let truncatePromptTokens ← readOptional
  let fastMode ← readScalar
  return {
    temperature, maxTokens, ignoreEos, topP, presencePenalty, frequencyPenalty, seed,
    useBeamSearch, topK, minP, repetitionPenalty, lengthPenalty, stopTokenIds,
    includeStopStrInOutput, minTokens, skipSpecialTokens, spacesBetweenSpecialTokens,
    allowedTokenIds, promptLogprobs, truncatePromptTokens, fastMode }

/-- A flag of `Sequence`, kept as a byte. -/
def writeFlag (flag : Bool) : List UInt8 := writeScalar (if flag then 1 else 0 : UInt8)

def readFlag : Reader Bool := do
  let flag : UInt8 ← readScalar
  return flag ≠ 0

theorem readFlag_reads (flag : Bool) : Reads readFlag (writeFlag flag) flag := by
  have read := (readScalar_reads (if flag then 1 else 0 : UInt8)).last (· ≠ 0 : UInt8 → Bool)
  cases flag <;> exact read

/-- A position or id of `Sequence` that may be absent, behind its flag. -/
def writeFlagged {T : Type} [Scalar T] (opt : Option T) : List UInt8 :=
  match opt with
  | none => writeFlag false
  | some value => [writeFlag true, writeScalar value].flatten

def readFlagged {T : Type} [Scalar T] : Reader (Option T) := do
  let present ← readFlag
  if present then
    let value ← readScalar
    return some value
  else
    return none

theorem readFlagged_reads {T : Type} [Scalar T] (opt : Option T) :
    Reads readFlagged (writeFlagged opt) opt := by
  cases opt with
  | none => exact (readFlag_reads false).unset
  | some value =>
    exact .part (readFlag_reads true) (.part (readScalar_reads value) (.done (some value)))

theorem readAllowedTokenIds_reads (allowed : Option (Vec Int32)) :
    Reads readAllowedTokenIds (writeAllowedTokenIds allowed) allowed := by
  cases allowed with
  | none => exact (readScalar_reads false).unset
  | some tokens =>
    exact .part (readScalar_reads true) (.part (readVector_reads tokens) (.done (some tokens)))

variable (seq : Sequence)

def Sequence.serialize : List UInt8 :=
  [writeScalar seq.taskId,
    writeScalar seq.numPromptTokens,
    writeVector seq.tokenIds,
    writeScalar seq.kvCacheSlot,
    writeScalar seq.prefillKvCacheSlot,
    writeFlag seq.continuation,
    writeFlag seq.disaggregated,
    seq.samplingParams.serialize,
    writeFlagged seq.kvPositionId,
    writeScalar seq.decodePositionId,
    writeScalar seq.decodeSkipTokens,
    writeFlagged seq.migrationId,
    writeFlag seq.startsInThinking,
    writeFlagged seq.migrationStartPosition].flatten

def Sequence.deserialize : Reader Sequence := do
  let taskId ← readScalar
  let numPromptTokens ← readScalar
  let tokenIds ← readVector
  let kvCacheSlot ← readScalar
  let prefillKvCacheSlot ← readScalar
  let continuation ← readFlag
  let disaggregated ← readFlag
  let samplingParams ← SamplingParams.deserialize
  let kvPositionId ← readFlagged
  let decodePositionId ← readScalar
  let decodeSkipTokens ← readScalar
  let migrationId ← readFlagged
  let startsInThinking ← readFlag
  let migrationStartPosition ← readFlagged
  return {
    taskId, numPromptTokens, tokenIds, kvCacheSlot, prefillKvCacheSlot, continuation,
    disaggregated, samplingParams, kvPositionId, decodePositionId, decodeSkipTokens,
    migrationId, startsInThinking, migrationStartPosition }

/-- What a reader has of the sampling parameters. -/
def SamplingParams.received : SamplingParams :=
  { params with tokenBitmask := none, bitmaskVocabSize := 0 }

def Sequence.received : Sequence :=
  { seq with samplingParams := seq.samplingParams.received }

theorem SamplingParams.deserialize_reads :
    Reads SamplingParams.deserialize params.serialize params.received :=
  .part (readScalar_reads params.temperature) <|
  .part (readOptional_reads params.maxTokens) <|
  .part (readScalar_reads params.ignoreEos) <|
  .part (readOptional_reads params.topP) <|
  .part (readScalar_reads params.presencePenalty) <|
  .part (readScalar_reads params.frequencyPenalty) <|
  .part (readOptional_reads params.seed) <|
  .part (readScalar_reads params.useBeamSearch) <|
  .part (readOptional_reads params.topK) <|
  .part (readOptional_reads params.minP) <|
  .part (readOptional_reads params.repetitionPenalty) <|
  .part (readScalar_reads params.lengthPenalty) <|
  .part (readVector_reads params.stopTokenIds) <|
  .part (readScalar_reads params.includeStopStrInOutput) <|
  .part (readScalar_reads params.minTokens) <|
  .part (readScalar_reads params.skipSpecialTokens) <|
  .part (readScalar_reads params.spacesBetweenSpecialTokens) <|
  .part (readAllowedTokenIds_reads params.allowedTokenIds) <|
  .part (readOptional_reads params.promptLogprobs) <|
  .part (readOptional_reads params.truncatePromptTokens) <|
  .part (readScalar_reads params.fastMode) <| .done params.received

theorem Sequence.deserialize_reads : Reads Sequence.deserialize seq.serialize seq.received :=
  .part (readScalar_reads seq.taskId) <|
  .part (readScalar_reads seq.numPromptTokens) <|
  .part (readVector_reads seq.tokenIds) <|
  .part (readScalar_reads seq.kvCacheSlot) <|
  .part (readScalar_reads seq.prefillKvCacheSlot) <|
  .part (readFlag_reads seq.continuation) <|
  .part (readFlag_reads seq.disaggregated) <|
  .part seq.samplingParams.deserialize_reads <|
  .part (readFlagged_reads seq.kvPositionId) <|
  .part (readScalar_reads seq.decodePositionId) <|
  .part (readScalar_reads seq.decodeSkipTokens) <|
  .part (readFlagged_reads seq.migrationId) <|
  .part (readFlag_reads seq.startsInThinking) <|
  .part (readFlagged_reads seq.migrationStartPosition) <| .done seq.received

theorem Sequence.received_eq_iff : seq.received = seq ↔
      seq.samplingParams.tokenBitmask = none ∧ seq.samplingParams.bitmaskVocabSize = 0 := by
  obtain ⟨_, _, params⟩ := seq
  obtain ⟨_⟩ := params
  simp only [received, SamplingParams.received, Sequence.mk.injEq, SamplingParams.mk.injEq,
    true_and, and_true]
  exact and_congr eq_comm eq_comm

/-- A task comes back whole, with exactly its bytes taken, if and only if it carries no
bitmask of tokens. -/
theorem deserialize_serialize_iff (seq : Sequence) (rest : List UInt8) :
    Sequence.deserialize.run (seq.serialize ++ rest) = some (seq, rest) ↔
      seq.samplingParams.tokenBitmask = none ∧ seq.samplingParams.bitmaskVocabSize = 0 := by
  rw [seq.deserialize_reads rest, ← seq.received_eq_iff]
  simp

/-- A task whose parameters carry a bitmask of one word for a vocabulary of 32 tokens. -/
def maskedTask : Sequence where
  taskId := 1
  samplingParams := { tokenBitmask := some ⟨[7], by decide⟩, bitmaskVocabSize := 32 }

theorem not_deserialize_serialize : ¬∀ (seq : Sequence) (rest : List UInt8),
    Sequence.deserialize.run (seq.serialize ++ rest) = some (seq, rest) := by
  intro law
  have taken := (law maskedTask []).symm.trans (maskedTask.deserialize_reads [])
  have same : maskedTask = maskedTask.received := (Prod.mk.inj (Option.some.inj taken)).1
  have lost : maskedTask.samplingParams.tokenBitmask = none := by rw [same]; rfl
  exact Option.some_ne_none _ lost

end InferenceServer.Ipc
