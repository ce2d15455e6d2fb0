import InferenceServer.Machine.Codec
import InferenceServer.Machine.Json

/-! The reader of WAV files. Offsets are 64-bit and wrap; a read outside the file is an
outcome of its own. -/
namespace InferenceServer.Audio

inductive WavError
  | invalidArgument (what : String)
  | outOfRange
  | outsideInput
  | unfinished
  deriving DecidableEq

def pcmFormat : Nat := 1
def pcmBitsPerSample : Nat := 16

/-- The bytes of a tag. -/
def tagBytes (tag : String) : List UInt8 := tag.toList.map fun char => UInt8.ofNat char.toNat

/-- `std::size_t` addition. -/
def sizeAdd (first second : Nat) : Nat := (first + second) % 2 ^ 64

variable (bytes : List UInt8) (offset : Nat)

/-- `bytes[offset]`, which is not checked. -/
def byteAt : Except WavError Nat :=
  match bytes[offset]? with
  | some byte => .ok byte.toNat
  | none => .error .outsideInput

/-- `bytes.substr(offset, size)` -/
def substr (offset size : Nat) : Except WavError (List UInt8) :=
  if bytes.length < offset then .error .outOfRange else .ok ((bytes.drop offset).take size)

def readU16Le : Except WavError Nat :=
  if bytes.length < sizeAdd offset 2 then .error (.invalidArgument "truncated WAV file")
  else do
    let low ← byteAt bytes offset
    let high ← byteAt bytes (sizeAdd offset 1)
    return low ||| (high <<< 8)

def readU32Le : Except WavError Nat :=
  if bytes.length < sizeAdd offset 4 then .error (.invalidArgument "truncated WAV file")
  else do
    let first ← byteAt bytes offset
    let second ← byteAt bytes (sizeAdd offset 1)
    let third ← byteAt bytes (sizeAdd offset 2)
    let fourth ← byteAt bytes (sizeAdd offset 3)
    return first ||| (second <<< 8) ||| (third <<< 16) ||| (fourth <<< 24)

def hasTag (tag : String) : Except WavError Bool :=
  if bytes.length < sizeAdd offset (tagBytes tag).length then .ok false
  else do
    let found ← substr bytes offset (tagBytes tag).length
    return found = tagBytes tag

/-- What is found of the fmt and data chunks. -/
structure Scan where
  foundFmt : Bool := false
  foundData : Bool := false
  audioFormat : Nat := 0
  channels : Nat := 0
  sampleRateHz : Nat := 0
  bitsPerSample : Nat := 0
  dataOffset : Nat := 0
  dataSize : Nat := 0

/-- One chunk, and the offset of the next. -/
def scanChunk (scan : Scan) : Except WavError (Scan × Nat) := do
  let chunkId ← substr bytes offset 4
  let chunkSize ← readU32Le bytes (sizeAdd offset 4)
  let chunkDataOffset := sizeAdd offset 8
  let nextOffset := sizeAdd (sizeAdd chunkDataOffset chunkSize) (chunkSize % 2)
  if bytes.length < sizeAdd chunkDataOffset chunkSize then
    throw (.invalidArgument "WAV chunk extends past end of file")
  else if chunkId = tagBytes "fmt " then
    if chunkSize < 16 then throw (.invalidArgument "WAV fmt chunk is too small")
    else
      let audioFormat ← readU16Le bytes chunkDataOffset
      let channels ← readU16Le bytes (sizeAdd chunkDataOffset 2)
      let sampleRateHz ← readU32Le bytes (sizeAdd chunkDataOffset 4)
      let bitsPerSample ← readU16Le bytes (sizeAdd chunkDataOffset 14)
      return ({ scan with audioFormat, channels, sampleRateHz, bitsPerSample, foundFmt := true },
        nextOffset)
  else if chunkId = tagBytes "data" then
    return ({ scan with dataOffset := chunkDataOffset, dataSize := chunkSize, foundData := true },
      nextOffset)
  else return (scan, nextOffset)

/-- The chunks from an offset on; the bound is on the number of chunks. -/
def scanChunks (bytes : List UInt8) : Nat → Nat → Scan → Except WavError Scan
  | 0, offset, scan => if sizeAdd offset 8 ≤ bytes.length then .error .unfinished else .ok scan
  | fuel + 1, offset, scan =>
    if sizeAdd offset 8 ≤ bytes.length then do
      let (scan, offset) ← scanChunk bytes offset scan
      scanChunks bytes fuel offset scan
    else .ok scan

/-- A sample of 16 bits with its sign. -/
def signed (raw : Nat) : Int := if raw ≤ 32767 then raw else (raw : Int) - 65536

/-- The samples from an offset on. -/
def readSamples (bytes : List UInt8) : Nat → Nat → Nat → Except WavError (List Int)
  | 0, offset, last => if offset < last then .error .unfinished else .ok []
  | fuel + 1, offset, last =>
    if offset < last then do
      let raw ← readU16Le bytes offset
      let rest ← readSamples bytes fuel (sizeAdd offset 2) last
      return signed raw :: rest
    else .ok []

structure VoiceSample where
  sampleRateHz : Nat
  channels : Nat
  wavPcm : List Int
  deriving DecidableEq

/-- The sample that the chunks describe. -/
def readScan (scan : Scan) : Except WavError VoiceSample :=
  if !scan.foundFmt || !scan.foundData then
    .error (.invalidArgument "WAV file must contain fmt and data chunks")
  else if scan.audioFormat ≠ pcmFormat ∨ scan.bitsPerSample ≠ pcmBitsPerSample then
    .error (.invalidArgument "voice sample WAV must be PCM16")
  else if scan.channels = 0 ∨ scan.sampleRateHz = 0 then
    .error (.invalidArgument "voice sample WAV has invalid audio metadata")
  else if scan.dataSize % 2 ≠ 0 then
    .error (.invalidArgument "voice sample WAV data size must be 16-bit aligned")
  else do
    let wavPcm ← readSamples bytes scan.dataSize scan.dataOffset
      (sizeAdd scan.dataOffset scan.dataSize)
    return { sampleRateHz := scan.sampleRateHz, channels := scan.channels, wavPcm }

def decodePcm16Wav : Except WavError VoiceSample := do
  let riff ← hasTag bytes 0 "RIFF"
  let wave ← hasTag bytes 8 "WAVE"
  if bytes.length < 44 ∨ !riff ∨ !wave then
    throw (.invalidArgument "voice sample must be a RIFF/WAVE file")
  else
    let scan ← scanChunks bytes bytes.length 12 {}
    readScan bytes scan

end InferenceServer.Audio

/-! The reader of WAV files is safe for all bytes, and reads the last fmt and data chunk of
every list of chunks. -/
namespace InferenceServer.Audio
open Machine

variable {bytes : List UInt8} {offset : Nat}
variable {size : Nat} {scan : Scan}

/-- The number of some bytes, the least significant first. -/
def number (bytes : List UInt8) : Nat :=
  bytes.foldr (fun low high => 256 * high + low.toNat) 0

def slice (bytes : List UInt8) (offset size : Nat) : List UInt8 := (bytes.drop offset).take size

theorem sizeAdd_eq {first second : Nat} (small : first + second < 2 ^ 64) :
    sizeAdd first second = first + second := Nat.mod_eq_of_lt small

theorem or_shiftLeft {low : Nat} {bits : Nat} (small : low < 2 ^ bits) (high : Nat) :
    low ||| (high <<< bits) = low + 2 ^ bits * high := by
  rw [Nat.or_comm, ← Nat.shiftLeft_add_eq_or_of_lt small, Nat.shiftLeft_eq, Nat.add_comm,
    Nat.mul_comm]

theorem byteAt_eq (inside : offset < bytes.length) :
    byteAt bytes offset = .ok bytes[offset].toNat := by
  rw [byteAt, List.getElem?_eq_getElem inside]

theorem slice_succ (inside : offset < bytes.length) :
    slice bytes offset (size + 1) = bytes[offset] :: slice bytes (offset + 1) size := by
  rw [slice, List.drop_eq_getElem_cons inside, List.take_succ_cons, slice]

theorem number_cons (byte : UInt8) (rest : List UInt8) :
    number (byte :: rest) = byte.toNat + 256 * number rest := Nat.add_comm _ _

theorem number_slice_succ (inside : offset < bytes.length) :
    number (slice bytes offset (size + 1)) =
      bytes[offset].toNat + 256 * number (slice bytes (offset + 1) size) := by
  rw [slice_succ inside, number_cons]

theorem number_slice_zero : number (slice bytes offset 0) = 0 := rfl

/-- A read of two bytes within the input. -/
theorem readU16Le_eq (short : bytes.length < 2 ^ 63) (inside : offset + 2 ≤ bytes.length) :
    readU16Le bytes offset = .ok (number (slice bytes offset 2)) := by
  have first : bytes[offset].toNat < 2 ^ 8 := UInt8.toNat_lt _
  rw [readU16Le, sizeAdd_eq (by omega), sizeAdd_eq (by omega), if_neg (by omega),
    byteAt_eq (by omega), byteAt_eq (by omega)]
  refine congrArg Except.ok ?_
  rw [or_shiftLeft first, number_slice_succ (by omega), number_slice_succ (by omega)]
  rfl

theorem readU32Le_eq (short : bytes.length < 2 ^ 63) (inside : offset + 4 ≤ bytes.length) :
    readU32Le bytes offset = .ok (number (slice bytes offset 4)) := by
  have first : bytes[offset].toNat < 2 ^ 8 := UInt8.toNat_lt _
  have second : bytes[offset + 1].toNat < 2 ^ 8 := UInt8.toNat_lt _
  have third : bytes[offset + 2].toNat < 2 ^ 8 := UInt8.toNat_lt _
  rw [readU32Le, sizeAdd_eq (by omega), sizeAdd_eq (by omega), sizeAdd_eq (by omega),
    sizeAdd_eq (by omega), if_neg (by omega), byteAt_eq (by omega), byteAt_eq (by omega),
    byteAt_eq (by omega), byteAt_eq (by omega)]
  refine congrArg Except.ok ?_
  have two : bytes[offset].toNat + 2 ^ 8 * bytes[offset + 1].toNat < 2 ^ 16 := by omega
  have three : bytes[offset].toNat + 2 ^ 8 * bytes[offset + 1].toNat +
      2 ^ 16 * bytes[offset + 2].toNat < 2 ^ 24 := by omega
  rw [or_shiftLeft first, or_shiftLeft two, or_shiftLeft three,
    number_slice_succ (by omega), number_slice_succ (by omega), number_slice_succ (by omega),
    number_slice_succ (by omega), number_slice_zero]
  simp only [Nat.add_assoc, Nat.reduceAdd]
  omega

theorem substr_eq (inside : offset ≤ bytes.length) :
    substr bytes offset size = .ok (slice bytes offset size) := if_neg (Nat.not_lt.mpr inside)

theorem number_lt (bytes : List UInt8) : number bytes < 256 ^ bytes.length := by
  induction bytes with
  | nil => exact Nat.one_pos
  | cons byte rest ih =>
    have small := UInt8.toNat_lt byte
    rw [number_cons, List.length_cons, Nat.pow_succ]
    omega

theorem length_slice_le (bytes : List UInt8) (offset size : Nat) :
    (slice bytes offset size).length ≤ size := List.length_take_le _ _

theorem number_slice_lt (bytes : List UInt8) (offset size : Nat) :
    number (slice bytes offset size) < 256 ^ size :=
  Nat.lt_of_lt_of_le (number_lt _) (Nat.pow_le_pow_right (by decide) (length_slice_le _ _ _))

theorem hasTag_eq (short : bytes.length < 2 ^ 63) {tag : String}
    (inside : offset + (tagBytes tag).length ≤ bytes.length) :
    hasTag bytes offset tag = .ok (slice bytes offset (tagBytes tag).length = tagBytes tag) := by
  rw [hasTag, sizeAdd_eq (by omega), if_neg (by omega), substr_eq (by omega)]
  rfl

theorem hasTag_safe (bytes : List UInt8) {tag : String}
    (small : offset + (tagBytes tag).length < 2 ^ 64) : ∃ found, hasTag bytes offset tag = .ok found := by
  rw [hasTag, sizeAdd_eq small]
  split
  · exact ⟨_, rfl⟩
  · rw [substr_eq (by omega)]
    exact ⟨_, rfl⟩

/-- What one chunk does to what is found so far. -/
def applyChunk (bytes : List UInt8) (offset : Nat) (scan : Scan) : Except WavError Scan :=
  let size := number (slice bytes (offset + 4) 4)
  if bytes.length < offset + 8 + size then
    .error (.invalidArgument "WAV chunk extends past end of file")
  else if slice bytes offset 4 = tagBytes "fmt " then
    if size < 16 then .error (.invalidArgument "WAV fmt chunk is too small")
    else .ok { scan with
      audioFormat := number (slice bytes (offset + 8) 2)
      channels := number (slice bytes (offset + 10) 2)
      sampleRateHz := number (slice bytes (offset + 12) 4)
      bitsPerSample := number (slice bytes (offset + 22) 2)
      foundFmt := true }
  else if slice bytes offset 4 = tagBytes "data" then
    .ok { scan with dataOffset := offset + 8, dataSize := size, foundData := true }
  else .ok scan

/-- No offset of a chunk within the input wraps. -/
theorem scanChunk_eq (short : bytes.length < 2 ^ 63) (inside : offset + 8 ≤ bytes.length)
    (scan : Scan) :
    scanChunk bytes offset scan = do
      let scan ← applyChunk bytes offset scan
      return (scan, offset + 8 + number (slice bytes (offset + 4) 4) +
        number (slice bytes (offset + 4) 4) % 2) := by
  have size := number_slice_lt bytes (offset + 4) 4
  generalize sized : number (slice bytes (offset + 4) 4) = chunkSize at size
  have plus : ∀ more ≤ 14, sizeAdd (offset + 8) more = offset + 8 + more := fun more few =>
    sizeAdd_eq (by omega)
  have data : sizeAdd offset 8 = offset + 8 := sizeAdd_eq (by omega)
  have last : sizeAdd (offset + 8) chunkSize = offset + 8 + chunkSize := sizeAdd_eq (by omega)
  have next : sizeAdd (offset + 8 + chunkSize) (chunkSize % 2) =
      offset + 8 + chunkSize + chunkSize % 2 := sizeAdd_eq (by omega)
  rw [scanChunk, substr_eq (by omega), sizeAdd_eq (by omega), readU32Le_eq short (by omega), sized]
  unfold applyChunk
  simp only [bind, Except.bind, sized, data, last, next]
  split
  · rfl
  · rename_i fits
    split
    · split
      · rfl
      · rename_i long
        rw [readU16Le_eq short (by omega), plus 2 (by omega), plus 4 (by omega), plus 14 (by omega),
          readU16Le_eq short (by omega), readU32Le_eq short (by omega), readU16Le_eq short (by omega)]
    · split <;> rfl

/-- What is found lies within the input. -/
def Scan.Inside (bytes : List UInt8) (scan : Scan) : Prop :=
  scan.dataOffset + scan.dataSize ≤ bytes.length

/-- The input is refused with an invalid argument. -/
def Refused {Result : Type} (outcome : Except WavError Result) : Prop :=
  ∃ what, outcome = .error (.invalidArgument what)

theorem applyChunk_safe (bytes : List UInt8) (offset : Nat) (inside : scan.Inside bytes) :
    Refused (applyChunk bytes offset scan) ∨ ∃ next, applyChunk bytes offset scan = .ok next ∧
      next.Inside bytes ∧ offset + 8 + number (slice bytes (offset + 4) 4) ≤ bytes.length := by
  unfold applyChunk
  dsimp only
  split
  · exact .inl ⟨_, rfl⟩
  · rename_i fits
    split
    · split
      · exact .inl ⟨_, rfl⟩
      · exact .inr ⟨_, rfl, inside, by omega⟩
    · split
      · exact .inr ⟨_, rfl, by
          show offset + 8 + number (slice bytes (offset + 4) 4) ≤ bytes.length
          omega, by omega⟩
      · exact .inr ⟨_, rfl, inside, by omega⟩

/-- A chunk takes at least its header, so there are no more chunks than bytes. -/
theorem scanChunks_safe (short : bytes.length < 2 ^ 63) {fuel : Nat}
    (enough : bytes.length ≤ fuel + offset + 7) (near : offset ≤ bytes.length + 1)
    (inside : scan.Inside bytes) :
    Refused (scanChunks bytes fuel offset scan) ∨
      ∃ last, scanChunks bytes fuel offset scan = .ok last ∧ last.Inside bytes := by
  induction fuel generalizing offset scan with
  | zero =>
    rw [scanChunks, sizeAdd_eq (by omega), if_neg (by omega)]
    exact .inr ⟨scan, rfl, inside⟩
  | succ fuel ih =>
    rw [scanChunks, sizeAdd_eq (by omega)]
    split
    · rename_i more
      rw [scanChunk_eq short more]
      rcases applyChunk_safe bytes offset inside with ⟨what, refused⟩ | ⟨next, applied, held, within⟩
      · rw [refused]
        exact .inl ⟨what, rfl⟩
      · rw [applied]
        exact ih (by omega) (by omega) held
    · exact .inr ⟨scan, rfl, inside⟩

/-- The samples of some bytes. -/
def samplesOf : List UInt8 → List Int
  | low :: high :: rest => signed (low.toNat + 256 * high.toNat) :: samplesOf rest
  | _ => []

theorem samplesOf_slice {count : Nat} (inside : offset + 2 ≤ bytes.length) :
    samplesOf (slice bytes offset (2 * (count + 1))) =
      signed (number (slice bytes offset 2)) :: samplesOf (slice bytes (offset + 2) (2 * count)) := by
  rw [show 2 * (count + 1) = 2 * count + 1 + 1 by omega, slice_succ (by omega),
    slice_succ (by omega), samplesOf, number_slice_succ (by omega), number_slice_succ (by omega),
    number_slice_zero]
  rfl

section

variable (short : bytes.length < 2 ^ 63)
include short

theorem readSamples_eq {fuel count : Nat} (enough : count ≤ fuel)
    (inside : offset + 2 * count ≤ bytes.length) :
    readSamples bytes fuel offset (offset + 2 * count) =
      .ok (samplesOf (slice bytes offset (2 * count))) := by
  induction fuel generalizing offset count with
  | zero =>
    obtain rfl : count = 0 := by omega
    rw [readSamples, if_neg (by omega)]
    rfl
  | succ fuel ih =>
    cases count with
    | zero =>
      rw [readSamples, if_neg (by omega)]
      rfl
    | succ count =>
      have later := @ih (offset + 2) count (by omega) (by omega)
      rw [show offset + 2 + 2 * count = offset + 2 * (count + 1) by omega] at later
      rw [readSamples, if_pos (by omega), readU16Le_eq short (by omega), sizeAdd_eq (by omega), later,
        samplesOf_slice (by omega)]
      rfl

theorem readScan_eq (inside : scan.Inside bytes) (found : scan.foundFmt ∧ scan.foundData)
    (pcm : scan.audioFormat = pcmFormat ∧ scan.bitsPerSample = pcmBitsPerSample)
    (valid : scan.channels ≠ 0 ∧ scan.sampleRateHz ≠ 0) (even : scan.dataSize % 2 = 0) :
    readScan bytes scan = .ok {
      sampleRateHz := scan.sampleRateHz
      channels := scan.channels
      wavPcm := samplesOf (slice bytes scan.dataOffset scan.dataSize) } := by
  unfold Scan.Inside at inside
  have whole : 2 * (scan.dataSize / 2) = scan.dataSize := by omega
  have samples := @readSamples_eq bytes scan.dataOffset short scan.dataSize (scan.dataSize / 2)
    (by omega) (by omega)
  rw [whole] at samples
  rw [readScan, found.1, found.2, if_neg (by decide), if_neg (by simp [pcm]), if_neg (by simp [valid]),
    if_neg (by omega), sizeAdd_eq (by omega), samples]
  rfl

theorem readScan_safe (inside : scan.Inside bytes) :
    Refused (readScan bytes scan) ∨ ∃ sample, readScan bytes scan = .ok sample := by
  by_cases found : scan.foundFmt ∧ scan.foundData
  · by_cases pcm : scan.audioFormat = pcmFormat ∧ scan.bitsPerSample = pcmBitsPerSample
    · by_cases valid : scan.channels ≠ 0 ∧ scan.sampleRateHz ≠ 0
      · by_cases even : scan.dataSize % 2 = 0
        · exact .inr ⟨_, readScan_eq short inside found pcm valid even⟩
        · rw [readScan, found.1, found.2, if_neg (by decide), if_neg (by simp [pcm]),
            if_neg (by simp [valid]), if_pos even]
          exact .inl ⟨_, rfl⟩
      · rw [readScan, found.1, found.2, if_neg (by decide), if_neg (by simp [pcm]), if_pos (by tauto)]
        exact .inl ⟨_, rfl⟩
    · rw [readScan, found.1, found.2, if_neg (by decide), if_pos (by tauto)]
      exact .inl ⟨_, rfl⟩
  · rw [readScan, if_pos (by simpa [imp_iff_not_or] using found)]
    exact .inl ⟨_, rfl⟩

/-- Every input is read or refused; no read is outside it and the loops end. -/
theorem decodePcm16Wav_safe :
    Refused (decodePcm16Wav bytes) ∨ ∃ sample, decodePcm16Wav bytes = .ok sample := by
  obtain ⟨riff, first⟩ := hasTag_safe bytes (show 0 + (tagBytes "RIFF").length < 2 ^ 64 by decide)
  obtain ⟨wave, second⟩ := hasTag_safe bytes (show 8 + (tagBytes "WAVE").length < 2 ^ 64 by decide)
  rw [decodePcm16Wav, first, second]
  simp only [bind, Except.bind]
  split
  · exact .inl ⟨_, rfl⟩
  · rename_i long
    have start : Scan.Inside bytes {} := Nat.zero_le _
    rcases scanChunks_safe short (show bytes.length ≤ bytes.length + 12 + 7 by omega)
        (show 12 ≤ bytes.length + 1 by omega) start with ⟨what, refused⟩ | ⟨last, scanned, inside⟩
    · rw [refused]
      exact .inl ⟨what, rfl⟩
    · rw [scanned]
      exact readScan_safe short inside

end

/-- A chunk of a file; a chunk of odd size is padded. -/
structure Chunk where
  id : List UInt8
  payload : List UInt8
  pad : UInt8 := 0
  four : id.length = 4
  small : payload.length < 2 ^ 32

def Chunk.padding (chunk : Chunk) : List UInt8 :=
  if chunk.payload.length % 2 = 1 then [chunk.pad] else []

def Chunk.written (chunk : Chunk) : List UInt8 :=
  chunk.id ++ (littleEndian 4 chunk.payload.length ++ (chunk.payload ++ chunk.padding))

/-- The file of some chunks. The size of the whole is not looked at. -/
def wavFile (riffSize : Nat) (chunks : List Chunk) : List UInt8 :=
  tagBytes "RIFF" ++ littleEndian 4 riffSize ++ tagBytes "WAVE" ++ chunks.flatMap Chunk.written

theorem slice_append_right (before rest : List UInt8) (offset size : Nat) :
    slice (before ++ rest) (before.length + offset) size = slice rest offset size := by
  rw [slice, List.drop_append, List.drop_eq_nil_of_le (by omega), Nat.add_sub_cancel_left,
    List.nil_append, slice]

theorem slice_append_left {first rest : List UInt8} {offset : Nat}
    (inside : offset + size ≤ first.length) :
    slice (first ++ rest) offset size = slice first offset size := by
  rw [slice, List.drop_append_of_le_length (by omega), List.take_append_of_le_length, slice]
  rw [List.length_drop]
  omega

theorem slice_whole (bytes : List UInt8) : slice bytes 0 bytes.length = bytes := List.take_length

theorem length_padding (chunk : Chunk) : chunk.padding.length = chunk.payload.length % 2 := by
  unfold Chunk.padding
  split
  · rename_i odd
    exact odd.symm
  · rename_i even
    rw [List.length_nil]
    omega

theorem length_chunk (chunk : Chunk) :
    chunk.written.length = 8 + chunk.payload.length + chunk.payload.length % 2 := by
  simp [Chunk.written, chunk.four, length_padding]
  omega

section Placed

variable {before after : List UInt8} {chunk : Chunk}

theorem slice_id : slice (before ++ (chunk.written ++ after)) before.length 4 = chunk.id := by
  have here := slice_append_right before (chunk.written ++ after) 0 4
  rw [Nat.add_zero] at here
  rw [here, Chunk.written, List.append_assoc, ← chunk.four, slice_append_left (by omega), slice_whole]

theorem number_size :
    number (slice (before ++ (chunk.written ++ after)) (before.length + 4) 4) = chunk.payload.length := by
  rw [slice_append_right, Chunk.written, List.append_assoc]
  have here := slice_append_right chunk.id
    ((littleEndian 4 chunk.payload.length ++ (chunk.payload ++ chunk.padding)) ++ after) 0 4
  rw [chunk.four, Nat.add_zero] at here
  rw [here, List.append_assoc, slice_append_left (by rw [length_littleEndian])]
  have whole := slice_whole (littleEndian 4 chunk.payload.length)
  rw [length_littleEndian] at whole
  rw [whole]
  exact foldr_littleEndian 4 _ chunk.small

theorem slice_payload {offset size : Nat} (inside : offset + size ≤ chunk.payload.length) :
    slice (before ++ (chunk.written ++ after)) (before.length + 8 + offset) size =
      slice chunk.payload offset size := by
  have header := slice_append_right (chunk.id ++ littleEndian 4 chunk.payload.length)
    (chunk.payload ++ (chunk.padding ++ after)) offset size
  rw [List.length_append, chunk.four, length_littleEndian] at header
  rw [Nat.add_assoc, slice_append_right, Chunk.written]
  simp only [List.append_assoc] at header ⊢
  rw [header, slice_append_left inside]

/-- A chunk of a file is found with its payload. -/
theorem applyChunk_placed (scan : Scan) :
    applyChunk (before ++ (chunk.written ++ after)) before.length scan =
      if chunk.id = tagBytes "fmt " then
        if chunk.payload.length < 16 then
          .error (.invalidArgument "WAV fmt chunk is too small")
        else .ok { scan with
          audioFormat := number (slice chunk.payload 0 2)
          channels := number (slice chunk.payload 2 2)
          sampleRateHz := number (slice chunk.payload 4 4)
          bitsPerSample := number (slice chunk.payload 14 2)
          foundFmt := true }
      else if chunk.id = tagBytes "data" then
        .ok { scan with
          dataOffset := before.length + 8
          dataSize := chunk.payload.length
          foundData := true }
      else .ok scan := by
  have long : before.length + 8 + chunk.payload.length ≤
      (before ++ (chunk.written ++ after)).length := by
    rw [List.length_append, List.length_append, length_chunk]
    omega
  unfold applyChunk
  simp only [number_size, slice_id]
  rw [if_neg (Nat.not_lt.mpr long)]
  split
  · split
    · rfl
    · rename_i enough
      have at0 := @slice_payload before after chunk 0 2 (by omega)
      have at2 := @slice_payload before after chunk 2 2 (by omega)
      have at4 := @slice_payload before after chunk 4 4 (by omega)
      have at14 := @slice_payload before after chunk 14 2 (by omega)
      rw [Nat.add_zero] at at0
      rw [at0, ← at2, ← at4, ← at14]
  · rfl

end Placed

end InferenceServer.Audio
