import InferenceServer.Ipc.SlotCodec

/-! What is packed, field by field: where each stands, that they are apart, and what is read
back of them. -/
namespace InferenceServer.Ipc.SlotCodec
open Machine Machine.Utf8 Machine.ByteMemory

variable {Scale : Type} {float : FloatFormat Scale} {buf : ByteMemory} {off : Nat}

/-- No surrogates, so that there is an encoding. -/
def Encodable (text : Characters) : Prop := ∀ point ∈ text, IsScalar point

instance (text : Characters) : Decidable (Encodable text) :=
  inferInstanceAs (Decidable (∀ point ∈ text, IsScalar point))

/-- The bytes that are kept of a task id are whole characters. -/
def TaskIdWhole (taskId : Characters) : Prop :=
  ∃ part, part <+: taskId ∧ (encodeAll taskId).take taskIdSize = encodeAll part

def receivedTaskId (taskId : Characters) : Characters :=
  (fitting taskIdSize taskId).rdropWhile (· = 0)

section Texts

variable {text : Characters} {room : Nat}

theorem encode_of_encodable (encodable : Encodable text) : encode text = some (encodeAll text) :=
  if_pos (List.all_eq_true.mpr fun point member => decide_eq_true (encodable point member))

theorem encode_eq_none (not_ : ¬ Encodable text) : encode text = none :=
  if_neg fun all => not_ fun point member =>
    of_decide_eq_true (List.all_eq_true.mp all point member)

theorem ofDecoded_map_val (text : Characters) : ofDecoded (text.map Fin.val) = text := by
  rw [ofDecoded, List.map_map]
  exact (List.map_congr_left fun point _ => Fin.ofNat_val_eq_self point).trans (List.map_id text)

theorem Encodable.fitting (encodable : Encodable text) (room : Nat) :
    Encodable (fitting room text) :=
  fun point member => encodable point ((fitting_sublist room text).subset member)

/-- A text that fits is kept whole. -/
theorem fitting_eq_self (fits : (encodeAll text).length ≤ room) : fitting room text = text :=
  (fitting_sublist room text).eq_of_length_le (prefix_fitting List.prefix_rfl fits).length_le

theorem stringBytes_eq (encodable : Encodable text) (maxLen : Nat) :
    stringBytes text maxLen = some (encodeAll (fitting maxLen text)) := by
  rw [stringBytes, encode_of_encodable encodable, Option.bind_eq_bind, Option.bind_some]
  split
  · rw [decodeIgnore_take encodable, ofDecoded_map_val,
      encode_of_encodable (encodable.fitting maxLen)]
  · rename_i fits
    rw [fitting_eq_self (Nat.not_lt.mp fits)]

theorem stringBytes_eq_none (not_ : ¬ Encodable text) (maxLen : Nat) :
    stringBytes text maxLen = none := by
  rw [stringBytes, encode_eq_none not_]
  rfl

theorem encodeAll_nuls (count : Nat) :
    encodeAll (List.replicate count 0) = List.replicate count 0 := by
  induction count with
  | zero => rfl
  | succ count ih => rw [List.replicate_succ, encodeAll_cons, ih, List.replicate_succ]; rfl

theorem encodeAll_append (first second : Characters) :
    encodeAll (first ++ second) = encodeAll first ++ encodeAll second := List.flatMap_append

theorem encodable_nuls (encodable : Encodable text) (count : Nat) :
    Encodable (text ++ List.replicate count 0) := by
  intro point member
  rcases List.mem_append.mp member with inside | nul
  · exact encodable point inside
  · rw [List.eq_of_mem_replicate nul]
    decide

theorem encodeAll_part {first : Characters} (part : first <+: text) :
    encodeAll first <+: encodeAll text := by
  obtain ⟨rest, rfl⟩ := part
  exact ⟨encodeAll rest, (encodeAll_append first rest).symm⟩

/-- A whole task id is cut to what fits of it. -/
theorem taskIdWhole_iff : TaskIdWhole text ↔
    (encodeAll text).take taskIdSize = encodeAll (fitting taskIdSize text) := by
  constructor
  · rintro ⟨part, first, cut⟩
    have short : (encodeAll part).length ≤ taskIdSize := by
      rw [← cut]
      exact List.length_take_le _ _
    have longer := encodeAll_part (prefix_fitting first short)
    have inside : encodeAll (fitting taskIdSize text) <+: (encodeAll text).take taskIdSize :=
      List.prefix_take_iff.mpr
        ⟨encodeAll_part (fitting_sublist taskIdSize text), length_fitting_le taskIdSize text⟩
    rw [cut] at inside ⊢
    exact longer.eq_of_length_le inside.length_le
  · exact fun cut => ⟨_, fitting_sublist taskIdSize text, cut⟩

instance (text : Characters) : Decidable (TaskIdWhole text) := decidable_of_iff _ taskIdWhole_iff.symm

theorem rdropWhile_nuls (text : Characters) (count : Nat) :
    (text ++ List.replicate count 0).rdropWhile (· = 0) = text.rdropWhile (· = 0) := by
  induction count with
  | zero => rw [List.replicate_zero, List.append_nil]
  | succ count ih =>
    rw [List.replicate_succ', ← List.append_assoc, List.rdropWhile_concat_pos _ _ _ (by decide), ih]

theorem decode_whole (whole : TaskIdWhole text) (encodable : Encodable text) :
    (decodeStrict (((encodeAll text).take taskIdSize).rightpad taskIdSize 0)).map
        (fun values => (ofDecoded values).rdropWhile (· = 0)) = some (receivedTaskId text) := by
  have padded : ((encodeAll text).take taskIdSize).rightpad taskIdSize 0 =
      encodeAll (fitting taskIdSize text ++
        List.replicate (taskIdSize - ((encodeAll text).take taskIdSize).length) 0) := by
    rw [List.rightpad, encodeAll_append, encodeAll_nuls, taskIdWhole_iff.mp whole]
  rw [padded, decodeStrict_encodeAll (encodable_nuls (encodable.fitting _) _), Option.map_some,
    ofDecoded_map_val, rdropWhile_nuls]
  rfl

/-- A cut within a character leaves bytes that cannot be decoded. -/
theorem decode_cut (cut : ¬ TaskIdWhole text) (encodable : Encodable text) :
    decodeStrict (((encodeAll text).take taskIdSize).rightpad taskIdSize 0) = none := by
  have long : taskIdSize < (encodeAll text).length := by
    refine Nat.not_le.mp fun fits => cut ⟨text, List.prefix_rfl, List.take_of_length_le fits⟩
  have unpadded : ((encodeAll text).take taskIdSize).rightpad taskIdSize 0 =
      (encodeAll text).take taskIdSize := by
    rw [List.rightpad, List.length_take, Nat.min_eq_left long.le, Nat.sub_self,
      List.replicate_zero, List.append_nil]
  have within : (run .start ((encodeAll text).take taskIdSize)).1 ≠ .start := fun start =>
    cut ⟨_, fitting_sublist taskIdSize text, (run_take encodable taskIdSize).2 start⟩
  rw [unpadded]
  exact decodeStrict_within within

end Texts

def taskIdFields (offset : Nat) (taskId : Characters) : List Field :=
  [(offset, (encode taskId).map fun raw => (raw.take taskIdSize).rightpad taskIdSize 0)]

def stringFields (lenOffset dataOffset : Nat) (text : Characters) (maxLen : Nat) : List Field :=
  [(lenOffset, (stringBytes text maxLen).bind fun raw => uint32 raw.length),
    (dataOffset, (stringBytes text maxLen).map fun raw => raw.rightpad maxLen 0)]

variable (float) in
def requestFields (request : VideoRequest Scale) : List Field :=
  taskIdFields inTaskId request.taskId ++
  (stringFields inPromptLen inPrompt request.prompt maxPromptLen ++
  (stringFields inNegPromptLen inNegPrompt request.negativePrompt maxNegPromptLen ++
  ([(inNumInferenceSteps, uint32 request.numInferenceSteps)] ++
  ([(inSeed, int64 request.seed)] ++
  ([(inHeight, uint32 request.height)] ++
  ([(inWidth, uint32 request.width)] ++
  ([(inNumFrames, uint32 request.numFrames)] ++
  ([(inGuidanceScale, float32 float request.guidanceScale)] ++
  ([(inGuidanceScale2, float32 float request.guidanceScale2)] ++
  stringFields inImagePathLen inImagePath request.imagePath maxImagePathLen)))))))))

def responseFields (response : VideoResponse) : List Field :=
  taskIdFields outTaskId response.taskId ++
  ([(outStatus, uint32 response.status.toInt)] ++
  (stringFields outErrorLen outError response.errorMessage maxErrorLen ++
  stringFields outFilePathLen outFilePath response.filePath maxFilePathLen))

/-- Where the fields of a request stand and how many bytes each has. -/
def inputLayout : List (Nat × Nat) :=
  [(inTaskId, taskIdSize)] ++ ([(inPromptLen, 4), (inPrompt, maxPromptLen)] ++
  ([(inNegPromptLen, 4), (inNegPrompt, maxNegPromptLen)] ++
  ([(inNumInferenceSteps, 4)] ++ ([(inSeed, 8)] ++ ([(inHeight, 4)] ++ ([(inWidth, 4)] ++
  ([(inNumFrames, 4)] ++ ([(inGuidanceScale, 4)] ++ ([(inGuidanceScale2, 4)] ++
  [(inImagePathLen, 4), (inImagePath, maxImagePathLen)])))))))))

def outputLayout : List (Nat × Nat) :=
  [(outTaskId, taskIdSize)] ++ ([(outStatus, 4)] ++
  ([(outErrorLen, 4), (outError, maxErrorLen)] ++
  [(outFilePathLen, 4), (outFilePath, maxFilePathLen)]))

/-- The fields are apart and behind the state word of their slot. -/
def LaidOut (layout : List (Nat × Nat)) (slotSize : Nat) : Prop :=
  (layout.Pairwise fun first second => Apart first.1 first.2 second.1 second.2) ∧
    ∀ place ∈ layout, 4 ≤ place.1 ∧ place.1 + place.2 ≤ slotSize

theorem input_laidOut : LaidOut inputLayout inputSlotSize := by
  unfold LaidOut Apart
  decide

theorem output_laidOut : LaidOut outputLayout outputSlotSize := by
  unfold LaidOut Apart
  decide

theorem packTaskId_eq (offset : Nat) (taskId : Characters) :
    packTaskId buf (off + offset) taskId = storeFields off (taskIdFields offset taskId) buf := by
  rw [packTaskId, taskIdFields, storeFields, storeField]
  cases encode taskId <;> rfl

theorem packInto_eq (offset : Nat) (bytes : Option (List UInt8)) :
    packInto buf (off + offset) bytes = storeFields off [(offset, bytes)] buf := by
  cases bytes <;> rfl

theorem packString_eq (lenOffset dataOffset : Nat) (text : Characters) (maxLen : Nat) :
    packString buf (off + lenOffset) (off + dataOffset) text maxLen =
      storeFields off (stringFields lenOffset dataOffset text maxLen) buf := by
  rw [packString, stringFields]
  cases stringBytes text maxLen with
  | none => rfl
  | some raw =>
    rw [Option.bind_some, Option.map_some]
    show (packInto buf (off + lenOffset) (uint32 raw.length) >>= fun buf =>
      Except.ok (buf.write (off + dataOffset) (raw.rightpad maxLen 0))) = _
    generalize uint32 raw.length = length
    cases length with
    | none => simp only [packInto, storeFields, storeField, bind, Except.bind]
    | some bytes => simp only [packInto, storeFields, storeField, bind, Except.bind]

/-- A request is packed field by field. -/
theorem packRequest_eq (request : VideoRequest Scale) :
    packRequest float buf off request = storeFields off (requestFields float request) buf := by
  simp only [packRequest, requestFields, storeFields_append, packTaskId_eq, packString_eq,
    packInto_eq]

theorem packResponse_eq (response : VideoResponse) :
    packResponse buf off response = storeFields off (responseFields response) buf := by
  simp only [packResponse, responseFields, storeFields_append, packTaskId_eq, packString_eq,
    packInto_eq]

section Sizes

variable {bytes : List UInt8}

theorem length_rightpad {size : Nat} (fits : bytes.length ≤ size) :
    (bytes.rightpad size 0).length = size := by
  rw [List.rightpad, List.length_append, List.length_replicate]
  omega

theorem length_uint32 {value : Int} (packed : uint32 value = some bytes) : bytes.length = 4 := by
  unfold uint32 at packed
  split at packed
  · cases packed
    exact length_littleEndian ..
  · cases packed

theorem length_int64 {value : Int} (packed : int64 value = some bytes) : bytes.length = 8 := by
  unfold int64 at packed
  split at packed
  · cases packed
    exact length_littleEndian ..
  · cases packed

theorem length_float32 {value : Scale} (packed : float32 float value = some bytes) :
    bytes.length = 4 := by
  obtain ⟨bits, -, rfl⟩ := Option.map_eq_some_iff.mp packed
  exact length_littleEndian ..

theorem sized_single {offset size : Nat} {bytes : Option (List UInt8)}
    (sized : ∀ found, bytes = some found → found.length = size) :
    Sized [(offset, bytes)] [(offset, size)] :=
  .cons ⟨rfl, sized⟩ .nil

theorem sized_taskId (offset : Nat) (taskId : Characters) :
    Sized (taskIdFields offset taskId) [(offset, taskIdSize)] := by
  refine sized_single fun bytes packed => ?_
  obtain ⟨raw, -, rfl⟩ := Option.map_eq_some_iff.mp packed
  exact length_rightpad (List.length_take_le _ _)

theorem length_stringBytes {text : Characters} {maxLen : Nat} {raw : List UInt8}
    (packed : stringBytes text maxLen = some raw) : raw.length ≤ maxLen := by
  by_cases encodable : Encodable text
  · rw [stringBytes_eq encodable] at packed
    cases packed
    exact length_fitting_le maxLen text
  · rw [stringBytes_eq_none encodable] at packed
    cases packed

theorem sized_string (lenOffset dataOffset : Nat) (text : Characters) (maxLen : Nat) :
    Sized (stringFields lenOffset dataOffset text maxLen)
      [(lenOffset, 4), (dataOffset, maxLen)] := by
  refine .cons ⟨rfl, fun bytes packed => ?_⟩ (sized_single fun bytes packed => ?_)
  · obtain ⟨raw, -, length⟩ := Option.bind_eq_some_iff.mp packed
    exact length_uint32 length
  · obtain ⟨raw, cut, rfl⟩ := Option.map_eq_some_iff.mp packed
    exact length_rightpad (length_stringBytes cut)

theorem sized_request (request : VideoRequest Scale) :
    Sized (requestFields float request) inputLayout :=
  (sized_taskId _ _).append <| (sized_string _ _ _ _).append <| (sized_string _ _ _ _).append <|
  (sized_single fun _ => length_uint32).append <| (sized_single fun _ => length_int64).append <|
  (sized_single fun _ => length_uint32).append <| (sized_single fun _ => length_uint32).append <|
  (sized_single fun _ => length_uint32).append <| (sized_single fun _ => length_float32).append <|
  (sized_single fun _ => length_float32).append (sized_string _ _ _ _)

theorem sized_response (response : VideoResponse) : Sized (responseFields response) outputLayout :=
  (sized_taskId _ _).append <| (sized_single fun _ => length_uint32).append <|
  (sized_string _ _ _ _).append (sized_string _ _ _ _)

end Sizes

section Values

/-- What is read of a float that was packed. -/
def rounded (float : FloatFormat Scale) (value : Scale) : Scale :=
  ((float.pack value).map float.unpack).getD value

variable {value : Int} {offset : Nat}

theorem uint32_isSome : (uint32 value).isSome = true ↔ 0 ≤ value ∧ value < 2 ^ 32 := by
  unfold uint32
  by_cases range : 0 ≤ value ∧ value < 2 ^ 32
  · rw [if_pos range]
    exact ⟨fun _ => range, fun _ => rfl⟩
  · rw [if_neg range]
    exact ⟨nofun, fun inside => absurd inside range⟩

theorem int64_isSome : (int64 value).isSome = true ↔ -2 ^ 63 ≤ value ∧ value < 2 ^ 63 := by
  unfold int64
  by_cases range : -2 ^ 63 ≤ value ∧ value < 2 ^ 63
  · rw [if_pos range]
    exact ⟨fun _ => range, fun _ => rfl⟩
  · rw [if_neg range]
    exact ⟨nofun, fun inside => absurd inside range⟩

theorem unpackUInt32_of_stored (stored : Stored buf off [(offset, uint32 value)]) :
    (unpackUInt32 buf (off + offset) : Int) = value := by
  obtain ⟨bytes, packed, read⟩ := stored _ (List.mem_singleton_self _)
  rw [length_uint32 packed] at read
  unfold uint32 at packed
  split at packed
  · rename_i range
    cases packed
    rw [unpackUInt32, read, fromLittleEndian, foldr_littleEndian 4 _ (by omega)]
    omega
  · cases packed

theorem unpackInt64_of_stored (stored : Stored buf off [(offset, int64 value)]) :
    unpackInt64 buf (off + offset) = value := by
  obtain ⟨bytes, packed, read⟩ := stored _ (List.mem_singleton_self _)
  rw [length_int64 packed] at read
  unfold int64 at packed
  split at packed
  · rename_i range
    obtain rfl := Option.some.inj packed
    have bound : (value % 2 ^ 64).toNat < 256 ^ 8 := by omega
    have number := foldr_littleEndian 8 _ bound
    have held : fromLittleEndian (buf.read (off + offset) 8) = (value % 2 ^ 64).toNat :=
      (congrArg fromLittleEndian read).trans number
    unfold unpackInt64
    dsimp only
    generalize fromLittleEndian (buf.read (off + offset) 8) = number at held
    split <;> omega
  · cases packed

theorem unpackFloat32_of_stored {value : Scale}
    (stored : Stored buf off [(offset, float32 float value)]) :
    unpackFloat32 float buf (off + offset) = rounded float value := by
  obtain ⟨bytes, packed, read⟩ := stored _ (List.mem_singleton_self _)
  rw [length_float32 packed] at read
  obtain ⟨bits, made, rfl⟩ := Option.map_eq_some_iff.mp packed
  have bound : bits.toNat < 256 ^ 4 := bits.toNat_lt
  rw [unpackFloat32, read, fromLittleEndian, foldr_littleEndian 4 _ bound, UInt32.ofNat_toNat,
    rounded, made]
  rfl

theorem unpackTaskId_of_stored {taskId : Characters}
    (stored : Stored buf off (taskIdFields offset taskId)) :
    Encodable taskId ∧ unpackTaskId buf (off + offset) =
      if TaskIdWhole taskId then some (receivedTaskId taskId) else none := by
  obtain ⟨bytes, packed, read⟩ := stored _ (List.mem_singleton_self _)
  by_cases encodable : Encodable taskId
  · rw [encode_of_encodable encodable] at packed
    cases packed
    rw [length_rightpad (List.length_take_le _ _)] at read
    refine ⟨encodable, ?_⟩
    rw [unpackTaskId, read]
    split
    · rename_i whole
      exact decode_whole whole encodable
    · rename_i cut
      rw [decode_cut cut encodable]
      rfl
  · rw [encode_eq_none encodable] at packed
    cases packed

theorem take_rightpad {bytes : List UInt8} {size : Nat} :
    (bytes.rightpad size 0).take bytes.length = bytes := by
  rw [List.rightpad, List.take_left]

theorem read_take (memory : ByteMemory) (offset : Nat) {size room : Nat} (fits : size ≤ room) :
    memory.read offset size = (memory.read offset room).take size := by
  rw [ByteMemory.read, ByteMemory.read, ← List.map_take, List.take_range, Nat.min_eq_left fits]

theorem unpackString_of_stored {lenOffset dataOffset maxLen : Nat} {text : Characters}
    (stored : Stored buf off (stringFields lenOffset dataOffset text maxLen)) :
    unpackString buf (off + lenOffset) (off + dataOffset) = some (fitting maxLen text) := by
  by_cases encodable : Encodable text
  · rw [stringFields, stringBytes_eq encodable, Option.bind_some, Option.map_some] at stored
    have fits := length_fitting_le maxLen text
    have length := unpackUInt32_of_stored fun field member =>
      stored field (List.mem_cons.mpr (.inl (List.mem_singleton.mp member)))
    obtain ⟨bytes, same, read⟩ := stored _ (List.mem_cons_of_mem _ (List.mem_singleton_self _))
    cases same
    rw [length_rightpad fits] at read
    rw [unpackString, Int.ofNat_inj.mp length, read_take _ _ fits, read, take_rightpad,
      decodeStrict_encodeAll (encodable.fitting maxLen), Option.map_some, ofDecoded_map_val]
  · obtain ⟨bytes, packed, -⟩ := stored _ (List.mem_cons_self)
    rw [stringBytes_eq_none encodable] at packed
    cases packed

end Values

/-- A request with each string but the task id cut to the longest part that fits its field. -/
def cutRequest (request : VideoRequest Scale) : VideoRequest Scale :=
  { request with
    prompt := fitting maxPromptLen request.prompt
    negativePrompt := fitting maxNegPromptLen request.negativePrompt
    imagePath := fitting maxImagePathLen request.imagePath }

variable (float) in
/-- What is read of a request whose task id can be read. -/
def receivedRequest (request : VideoRequest Scale) : VideoRequest Scale :=
  { cutRequest request with
    taskId := receivedTaskId request.taskId
    guidanceScale := rounded float request.guidanceScale
    guidanceScale2 := rounded float request.guidanceScale2 }

def cutResponse (response : VideoResponse) : VideoResponse :=
  { response with
    errorMessage := fitting maxErrorLen response.errorMessage
    filePath := fitting maxFilePathLen response.filePath }

def receivedResponse (response : VideoResponse) : VideoResponse :=
  { cutResponse response with taskId := receivedTaskId response.taskId }

/-- All strings can be encoded and all numbers fit their fields. -/
structure PackableRequest (float : FloatFormat Scale) (request : VideoRequest Scale) : Prop where
  taskId : Encodable request.taskId
  prompt : Encodable request.prompt
  negativePrompt : Encodable request.negativePrompt
  numInferenceSteps : 0 ≤ request.numInferenceSteps ∧ request.numInferenceSteps < 2 ^ 32
  seed : -2 ^ 63 ≤ request.seed ∧ request.seed < 2 ^ 63
  height : 0 ≤ request.height ∧ request.height < 2 ^ 32
  width : 0 ≤ request.width ∧ request.width < 2 ^ 32
  numFrames : 0 ≤ request.numFrames ∧ request.numFrames < 2 ^ 32
  guidanceScale : (float.pack request.guidanceScale).isSome
  guidanceScale2 : (float.pack request.guidanceScale2).isSome
  imagePath : Encodable request.imagePath

structure PackableResponse (response : VideoResponse) : Prop where
  taskId : Encodable response.taskId
  errorMessage : Encodable response.errorMessage
  filePath : Encodable response.filePath

section Packable

theorem taskIdFields_isSome {offset : Nat} {taskId : Characters} :
    (∀ field ∈ taskIdFields offset taskId, field.2.isSome) ↔ Encodable taskId := by
  rw [taskIdFields, List.forall_mem_singleton, Option.isSome_map]
  by_cases encodable : Encodable taskId
  · rw [encode_of_encodable encodable]
    exact ⟨fun _ => encodable, fun _ => rfl⟩
  · rw [encode_eq_none encodable]
    exact ⟨nofun, fun fine => absurd fine encodable⟩

theorem stringFields_isSome {lenOffset dataOffset maxLen : Nat} {text : Characters}
    (short : maxLen < 2 ^ 32) :
    (∀ field ∈ stringFields lenOffset dataOffset text maxLen, field.2.isSome) ↔ Encodable text := by
  rw [stringFields, List.forall_mem_cons, List.forall_mem_singleton]
  by_cases encodable : Encodable text
  · have fits := length_fitting_le maxLen text
    rw [stringBytes_eq encodable, Option.bind_some, Option.map_some, uint32_isSome]
    exact ⟨fun _ => encodable, fun _ => ⟨by omega, rfl⟩⟩
  · rw [stringBytes_eq_none encodable]
    exact ⟨fun both => (nomatch both.1), fun fine => absurd fine encodable⟩

theorem float32_isSome {value : Scale} :
    (float32 float value).isSome = (float.pack value).isSome := Option.isSome_map

theorem packableRequest_iff {request : VideoRequest Scale} : PackableRequest float request ↔
    ∀ field ∈ requestFields float request, field.2.isSome := by
  simp only [requestFields, List.forall_mem_append, List.forall_mem_singleton, taskIdFields_isSome,
    stringFields_isSome (show maxPromptLen < 2 ^ 32 by decide),
    stringFields_isSome (show maxNegPromptLen < 2 ^ 32 by decide),
    stringFields_isSome (show maxImagePathLen < 2 ^ 32 by decide), uint32_isSome, int64_isSome,
    float32_isSome]
  constructor
  · rintro ⟨id, prompt, negative, steps, seed, height, width, frames, scale, scale2, path⟩
    exact ⟨id, prompt, negative, steps, seed, height, width, frames, scale, scale2, path⟩
  · rintro ⟨id, prompt, negative, steps, seed, height, width, frames, scale, scale2, path⟩
    exact ⟨id, prompt, negative, steps, seed, height, width, frames, scale, scale2, path⟩

theorem packableResponse_iff {response : VideoResponse} : PackableResponse response ↔
    ∀ field ∈ responseFields response, field.2.isSome := by
  have status : 0 ≤ response.status.toInt ∧ response.status.toInt < 2 ^ 32 := by
    cases response.status <;> decide
  simp only [responseFields, List.forall_mem_append, List.forall_mem_singleton, taskIdFields_isSome,
    stringFields_isSome (show maxErrorLen < 2 ^ 32 by decide),
    stringFields_isSome (show maxFilePathLen < 2 ^ 32 by decide), uint32_isSome]
  constructor
  · rintro ⟨id, error, path⟩
    exact ⟨id, status, error, path⟩
  · rintro ⟨id, -, error, path⟩
    exact ⟨id, error, path⟩

instance (request : VideoRequest Scale) : Decidable (PackableRequest float request) :=
  decidable_of_iff _ packableRequest_iff.symm

instance (response : VideoResponse) : Decidable (PackableResponse response) :=
  decidable_of_iff _ packableResponse_iff.symm

end Packable

section Unpack

theorem stored_append {first second : List Field} : Stored buf off (first ++ second) ↔
    Stored buf off first ∧ Stored buf off second := List.forall_mem_append

/-- A stored request is read as it is received, unless its task id cannot be decoded. -/
theorem unpackRequest_of_stored {request : VideoRequest Scale}
    (stored : Stored buf off (requestFields float request)) :
    unpackRequest float buf off =
      if TaskIdWhole request.taskId then some (receivedRequest float request) else none := by
  simp only [requestFields, stored_append] at stored
  obtain ⟨id, prompt, negative, steps, seed, height, width, frames, scale, scale2, path⟩ := stored
  rw [unpackRequest, (unpackTaskId_of_stored id).2]
  split
  · simp only [Option.bind_eq_bind, Option.bind_some, unpackString_of_stored prompt,
      unpackString_of_stored negative, unpackString_of_stored path, unpackUInt32_of_stored steps,
      unpackInt64_of_stored seed, unpackUInt32_of_stored height, unpackUInt32_of_stored width,
      unpackUInt32_of_stored frames, unpackFloat32_of_stored scale,
      unpackFloat32_of_stored scale2]
    rfl
  · rfl

theorem ofWord_toInt {status : VideoStatus} {word : Nat} (same : (word : Int) = status.toInt) :
    VideoStatus.ofWord word = some status := by
  cases status with
  | success =>
    obtain rfl : word = 0 := Int.ofNat_inj.mp same
    rfl
  | error =>
    obtain rfl : word = 1 := Int.ofNat_inj.mp same
    rfl

theorem unpackResponse_of_stored {response : VideoResponse}
    (stored : Stored buf off (responseFields response)) :
    unpackResponse buf off =
      if TaskIdWhole response.taskId then some (receivedResponse response) else none := by
  simp only [responseFields, stored_append] at stored
  obtain ⟨id, status, error, path⟩ := stored
  rw [unpackResponse, (unpackTaskId_of_stored id).2]
  split
  · simp only [Option.bind_eq_bind, Option.bind_some, unpackString_of_stored error,
      unpackString_of_stored path, ofWord_toInt (unpackUInt32_of_stored status)]
    rfl
  · rfl

end Unpack

/-- A task id as the callers make them. -/
def PlainTaskId (taskId : Characters) : Prop :=
  taskId.length ≤ taskIdSize ∧ ∀ point ∈ taskId, 0 < point.val ∧ point.val < 128

/-- It is read back as it was. -/
theorem PlainTaskId.received {taskId : Characters} (plain : PlainTaskId taskId) :
    TaskIdWhole taskId ∧ receivedTaskId taskId = taskId := by
  have length : (encodeAll taskId).length = taskId.length := by
    rw [encodeAll, List.length_flatMap]
    have ones : taskId.map (fun point => (encodePoint point.val).length) = taskId.map fun _ => 1 :=
      List.map_congr_left fun point member => by
        rw [encodePoint, if_pos (plain.2 point member).2]
        rfl
    rw [ones, List.map_const', List.sum_replicate_nat, Nat.mul_one]
  have fits : (encodeAll taskId).length ≤ taskIdSize := length ▸ plain.1
  refine ⟨⟨taskId, List.prefix_rfl, List.take_of_length_le fits⟩, ?_⟩
  rw [receivedTaskId, fitting_eq_self fits]
  refine List.rdropWhile_eq_self_iff.mpr fun some_ nul => ?_
  have last := (plain.2 _ (List.getLast_mem some_)).1
  rw [of_decide_eq_true nul] at last
  exact absurd last (Nat.lt_irrefl 0)

end InferenceServer.Ipc.SlotCodec
