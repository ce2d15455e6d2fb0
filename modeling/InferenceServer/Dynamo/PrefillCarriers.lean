import InferenceServer.Machine.Json
import InferenceServer.Sockets.Messages

/-! The result of a prefill as a member of a JSON body. An absent field is a member that is left
out, so no value of a field stands for its absence. -/
namespace InferenceServer.Dynamo

open Machine Sockets

abbrev Value (Number : Type) := Json Number ByteString

/-- The bits of a number that is neither infinite nor NaN. -/
def Finite (bits : Float32Bits) : Prop := bits &&& 0x7F800000 ≠ 0x7F800000

instance (bits : Float32Bits) : Decidable (Finite bits) := inferInstanceAs (Decidable (_ ≠ _))

/-- Numbers beside the whole ones: a float becomes a double and back without a loss. -/
structure NumberFormat (Number : Type) where
  ofFloat : Float32Bits → Number
  asFloat : Number → Float32Bits
  text : Number → ByteString
  asFloat_ofFloat : ∀ bits, Finite bits → asFloat (ofFloat bits) = bits

def boolText : Bool → ByteString
  | true => ⟨[0x74, 0x72, 0x75, 0x65], by decide⟩
  | false => ⟨[0x66, 0x61, 0x6C, 0x73, 0x65], by decide⟩

variable {Number : Type} [JsonNumber Number] (format : NumberFormat Number)

def asString : Value Number → Except JsonError ByteString
  | .null => .ok .empty
  | .bool value => .ok (boolText value)
  | .number value => .ok (format.text value)
  | .string text => .ok text
  | _ => .error .notConvertible

def asFloat : Value Number → Except JsonError Float32Bits
  | .null => .ok 0
  | .bool value => .ok (if value then 0x3F800000 else 0)
  | .number value => .ok (format.asFloat value)
  | _ => .error .notConvertible

def optionalUInt (value : Value Number) : Except JsonError (Option UInt32) := do
  if value.isNull then
    return none
  if value.isUInt then
    return some (← value.asUInt)
  if value.isInt then
    let number ← value.asInt
    if number ≥ 0 then
      return some number.toUInt32
  return none

def optionalInt (value : Value Number) : Except JsonError (Option Int32) := do
  if value.isNull then
    return none
  if value.isInt then
    return some (← value.asInt)
  if value.isUInt then
    return some (← value.asUInt).toInt32
  return none

def prefillResultToJson (message : PrefillResultMessage) : Value Number :=
  .object <|
    Json.insertOptional "session_id"
      (if message.sessionId.items.isEmpty then none else some (.string message.sessionId)) <|
    Json.insertMember "migration_id" (.whole message.migrationId.toNat) <|
    Json.insertMember "cached_tokens" (.whole message.cachedTokens.toInt) <|
    Json.insertMember "fast_mode" (.bool message.fastMode) <|
    Json.insertOptional "top_k" (message.topK.map fun topK => .whole topK.toInt) <|
    Json.insertOptional "top_p" (message.topP.map fun topP => .number (format.ofFloat topP)) <|
    Json.insertOptional "temperature"
      (message.temperature.map fun temperature => .number (format.ofFloat temperature)) <|
    Json.insertOptional "slot_id" (message.slotId.map fun slotId => .whole slotId.toNat) <|
    Json.insertOptional "remaining_tokens"
      (message.remainingTokens.map fun remaining => .whole remaining.toInt) <|
    Json.insertMember "token_ids"
      (.array (message.tokenIds.items.map fun tokenId => .whole tokenId.toNat)) <|
    Json.insertMember "error" (.bool message.error) <|
    Json.insertMember "generated_text" (.string message.generatedText) <|
    Json.insertMember "task_id" (.whole message.taskId.toNat) []

def ttPrefillResult : String := "tt_prefill_result"

/-- The result that parameters have. -/
def resultIn : Value Number → Option (Value Number)
  | .object params => (params.lookup ttPrefillResult).filter (·.isObject)
  | _ => none

/-- The parameters below the prefill result of a body. -/
def prefillPlaces (body : Value Number) : Except JsonError (List (Value Number)) := do
  let prefillResult ← body.get "prefill_result"
  if prefillResult.isObject then
    return [← prefillResult.get "disaggregated_params", prefillResult]
  return []

def extraPlaces (body : Value Number) : Except JsonError (List (Value Number)) := do
  let extraArgs ← body.get "extra_args"
  if extraArgs.isObject then
    return (← extraArgs.get "disaggregated_params") :: (← prefillPlaces extraArgs)
  return []

/-- Where a result is looked for, in this order. -/
def acceptedPlaces (dynRaw : Value Number) : Except JsonError (List (Value Number)) := do
  let prefillResult ← prefillPlaces dynRaw
  let params ← dynRaw.get "disaggregated_params"
  let extraArgs ← extraPlaces dynRaw
  return prefillResult ++ params :: extraArgs

def readTokenIds (ttResult : Value Number) : Except JsonError (Vec UInt32) := do
  match ← ttResult.get "token_ids" with
  | .array tokens =>
    let tokenIds ← tokens.mapM Json.asUInt
    if counted : tokenIds.length < UInt64.size then
      return ⟨tokenIds, counted⟩
    throw .outOfRange
  | _ => return .empty

def readFloat (ttResult : Value Number) (name : String) :
    Except JsonError (Option Float32Bits) := do
  let value ← ttResult.get name
  if value.isNull then
    return none
  return some (← asFloat format value)

/-- The message of a result; a task without an id gets a new one. -/
def readResult (generated : UInt32) (ttResult : Value Number) :
    Except JsonError PrefillResultMessage := do
  return {
    taskId := ← ((← ttResult.find "task_id").getD (.whole generated.toNat)).asUInt
    generatedText := ←
      asString format ((← ttResult.find "generated_text").getD (.string .empty))
    error := ← ((← ttResult.find "error").getD (.bool false)).asBool
    tokenIds := ← readTokenIds ttResult
    remainingTokens := ← optionalInt (← ttResult.get "remaining_tokens")
    slotId := ← optionalUInt (← ttResult.get "slot_id")
    temperature := ← readFloat format ttResult "temperature"
    topP := ← readFloat format ttResult "top_p"
    topK := ← optionalInt (← ttResult.get "top_k")
    fastMode := ← ((← ttResult.find "fast_mode").getD (.bool false)).asBool
    cachedTokens := ← ((← ttResult.find "cached_tokens").getD (.whole 0)).asInt
    migrationId := ← ((← ttResult.find "migration_id").getD (.whole 0)).asUInt64
    sessionId := ← asString format ((← ttResult.find "session_id").getD (.string .empty)) }

def prefillResultFromJson (generated : UInt32) (dynRaw : Value Number) :
    Except JsonError (Option PrefillResultMessage) := do
  match (← acceptedPlaces dynRaw).findSome? resultIn with
  | none => return none
  | some ttResult => return some (← readResult format generated ttResult)

end InferenceServer.Dynamo

/-! A prefill result comes back over a socket or in a JSON body. The JSON form keeps every field;
the socket has no value left for two absent ones and takes one of theirs. -/
namespace InferenceServer.Dynamo

open Machine Sockets

variable {Number : Type} [JsonNumber Number]
variable {format : NumberFormat Number} (bits : Float32Bits)

theorem asUInt_toNat (value : UInt32) :
    (Json.whole value.toNat : Value Number).asUInt = .ok value := by
  rw [Json.asUInt_whole, Json.toUInt_eq_ok]

theorem asUInt64_toNat (value : UInt64) :
    (Json.whole value.toNat : Value Number).asUInt64 = .ok value := by
  rw [Json.asUInt64_whole, Json.toUInt64_eq_ok]

theorem asInt_toInt (value : Int32) :
    (Json.whole value.toInt : Value Number).asInt = .ok value := by
  rw [Json.asInt_whole, Json.toInt_eq_ok]

theorem optionalInt_map (value : Option Int32) :
    optionalInt ((value.map fun number => (.whole number.toInt : Value Number)).getD .null) =
      .ok value := by
  cases value with
  | none => rfl
  | some number =>
    have fits : (Json.whole number.toInt : Value Number).isInt = true := by
      rw [Json.isInt_whole]
      exact decide_eq_true ⟨number.minValue_le_toInt, number.toInt_le⟩
    rw [Option.map_some, Option.getD_some, optionalInt, fits, asInt_toInt]
    rfl

theorem optionalUInt_map (value : Option UInt32) :
    optionalUInt ((value.map fun number => (.whole number.toNat : Value Number)).getD .null) =
      .ok value := by
  cases value with
  | none => rfl
  | some number =>
    have fits : (Json.whole number.toNat : Value Number).isUInt = true := by
      rw [Json.isUInt_whole]
      exact decide_eq_true ⟨Int.natCast_nonneg _, Int.ofNat_lt.mpr number.toNat_lt⟩
    rw [Option.map_some, Option.getD_some, optionalUInt, fits, asUInt_toNat]
    rfl

theorem mapM_asUInt (tokens : List UInt32) :
    (tokens.map fun token => (.whole token.toNat : Value Number)).mapM Json.asUInt =
      .ok tokens := by
  induction tokens with
  | nil => rfl
  | cons token rest ih =>
    rw [List.map_cons, List.mapM_cons, asUInt_toNat, ih]
    rfl

section Members

variable {root : Value Number} {members : Json.Members Number ByteString}
variable (known : root.members? = some members)

omit [JsonNumber Number] in
include known in
theorem readFloat_of_members {name : String} {value : Option Float32Bits}
    (held : members.lookup name = value.map fun bits => .number (format.ofFloat bits))
    (finite : ∀ bits ∈ value, Finite bits) : readFloat format root name = .ok value := by
  rw [readFloat, Json.get_of_members known, Json.ok_bind, held]
  cases value with
  | none => rfl
  | some bits => exact congrArg (Except.ok ∘ some) (format.asFloat_ofFloat bits (finite bits rfl))

include known in
theorem readTokenIds_of_members {tokenIds : Vec UInt32} (held : members.lookup "token_ids" =
      some (.array (tokenIds.items.map fun tokenId => .whole tokenId.toNat))) :
    readTokenIds root = .ok tokenIds := by
  rw [readTokenIds, Json.get_of_members known, Json.ok_bind, held, Option.getD_some]
  simp only [mapM_asUInt, Json.ok_bind]
  exact dif_pos tokenIds.counted

end Members

omit [JsonNumber Number] in
/-- An empty text is left out and read as empty. -/
theorem asString_optional (text : ByteString) :
    asString format ((if text.items.isEmpty then none else some (Json.string text)).getD
      (.string .empty)) = .ok text := by
  split
  · rename_i empty
    obtain ⟨items, counted⟩ := text
    obtain rfl := List.isEmpty_iff.mp empty
    rfl
  · rfl

theorem readResult_toJson (generated : UInt32) {m : PrefillResultMessage}
    (temperature : ∀ bits ∈ m.temperature, Finite bits) (topP : ∀ bits ∈ m.topP, Finite bits) :
    readResult format generated (prefillResultToJson format m) = .ok m := by
  obtain ⟨members, known⟩ : ∃ members, (prefillResultToJson format m).members? = some members :=
    ⟨_, rfl⟩
  have shape := Option.some.inj known.symm
  have tokens : readTokenIds (prefillResultToJson format m) = .ok m.tokenIds := by
    refine readTokenIds_of_members known ?_
    simp [shape, Json.lookup_insertOptional, Json.lookup_insertMember, String.reduceEq]
  have temperatureRead :
      readFloat format (prefillResultToJson format m) "temperature" = .ok m.temperature := by
    refine readFloat_of_members known ?_ temperature
    simp [shape, Json.lookup_insertOptional, Json.lookup_insertMember, String.reduceEq]
  have topPRead : readFloat format (prefillResultToJson format m) "top_p" = .ok m.topP := by
    refine readFloat_of_members known ?_ topP
    simp [shape, Json.lookup_insertOptional, Json.lookup_insertMember, String.reduceEq]
  simp only [readResult, tokens, temperatureRead, topPRead, Json.find_of_members known,
    Json.get_of_members known, Json.ok_bind, shape, Json.lookup_insertOptional,
    Json.lookup_insertMember, String.reduceEq, if_true, if_false, List.lookup_nil, Option.or_none,
    Option.getD_some, asUInt_toNat, asUInt64_toNat, asInt_toInt, optionalInt_map,
    optionalUInt_map, Json.asBool, asString_optional]
  rfl

/-- The body carries this result at the first accepted place that has one. -/
def Carries (body result : Value Number) : Prop :=
  ∃ before place after, acceptedPlaces body = .ok (before ++ place :: after) ∧
    (∀ earlier ∈ before, resultIn earlier = none) ∧ resultIn place = some result

theorem prefillResultFromJson_of_carries {body result : Value Number}
    (carries : Carries body result) (generated : UInt32) :
    prefillResultFromJson format generated body = some <$> readResult format generated result := by
  obtain ⟨before, place, after, places, earlier, here⟩ := carries
  have found : (before ++ place :: after).findSome? resultIn = some result := by
    rw [List.findSome?_append, List.findSome?_eq_none_iff.mpr earlier, Option.none_or,
      List.findSome?_cons, here]
  rw [prefillResultFromJson, places, Json.ok_bind, found]
  exact (map_eq_pure_bind _ _).symm

omit [JsonNumber Number] in
theorem received_eq_iff (m : PrefillResultMessage) :
    ({ m with
      remainingTokens := m.remainingTokens.filter (· ≠ -1)
      slotId := m.slotId.filter (· ≠ invalidSlotId) } : PrefillResultMessage) = m ↔
      m.remainingTokens ≠ some (-1) ∧ m.slotId ≠ some invalidSlotId := by
  have kept : ∀ {T : Type} [DecidableEq T] (value : Option T) (sentinel : T),
      value.filter (· ≠ sentinel) = value ↔ value ≠ some sentinel := by
    intro T _ value sentinel
    cases value with
    | none => simp
    | some value => by_cases same : value = sentinel <;> simp [Option.filter, same]
  rw [← kept m.remainingTokens, ← kept m.slotId]
  cases m
  simp

/-- The JSON form keeps every field, the values that the socket has for absence among them. -/
theorem prefillResult_json (generated : UInt32) {m : PrefillResultMessage}
    (temperature : ∀ bits ∈ m.temperature, Finite bits) (topP : ∀ bits ∈ m.topP, Finite bits)
    {body : Value Number} (carries : Carries body (prefillResultToJson format m)) :
    prefillResultFromJson format generated body = .ok (some m) := by
  rw [prefillResultFromJson_of_carries carries, readResult_toJson generated temperature topP]
  rfl

/-- A number of a document as it was made: whole, or from a float. -/
inductive Numeral
  | whole (number : Int)
  | float (bits : Float32Bits)

def mantissa : Nat := (bits &&& 0x7FFFFF).toNat

def exponent : Nat := (bits >>> 23 &&& 0xFF).toNat

def magnitude : Rat :=
  if exponent bits = 0 then (mantissa bits : Rat) / 2 ^ 149
  else (2 ^ 23 + mantissa bits : Nat) * 2 ^ exponent bits / 2 ^ 150

instance : JsonNumber Numeral where
  toRat
    | .whole number => number
    | .float bits => if bits >>> 31 = 1 then - magnitude bits else magnitude bits
  ofInt := .whole
  toRat_ofInt _ := rfl

/-- A float is asked for only where one was written. -/
def numerals : NumberFormat Numeral where
  ofFloat := .float
  asFloat
    | .whole _ => 0
    | .float bits => bits
  text _ := .empty
  asFloat_ofFloat _ _ := rfl

def paramsBody (result : Value Number) : Value Number :=
  .object [("disaggregated_params", .object [(ttPrefillResult, result)])]

theorem carries_paramsBody (m : PrefillResultMessage) :
    Carries (paramsBody (prefillResultToJson format m)) (prefillResultToJson format m) := by
  refine ⟨[], .object [(ttPrefillResult, prefillResultToJson format m)], [], ?_, nofun, ?_⟩
  · simp [acceptedPlaces, prefillPlaces, extraPlaces, paramsBody, Json.get, Json.find,
      Json.members?, Json.isObject, Json.ok_bind, List.lookup_cons, pure, Except.pure]
  · simp [resultIn, prefillResultToJson, Json.isObject]

/-- A first token at temperature one half, without a slot. -/
def firstToken : PrefillResultMessage := {
  taskId := 7
  tokenIds := ⟨[42], by decide⟩
  remainingTokens := some 0
  temperature := some 0x3F000000 }

/-- One token fewer than none is left. -/
def overrun : PrefillResultMessage := { taskId := 7, remainingTokens := some (-1) }

end InferenceServer.Dynamo
