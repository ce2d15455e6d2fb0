import InferenceServer.Audio.WavChunks

/-! Files that are built from chunks. The reader finds the last fmt and the last data chunk,
wherever they are, and gives the samples of the data. -/
namespace InferenceServer.Audio
open Machine

def isFmt (chunk : Chunk) : Bool := chunk.id = tagBytes "fmt "
def isData (chunk : Chunk) : Bool := chunk.id = tagBytes "data"

def lastFmt (chunks : List Chunk) : Option Chunk := (chunks.filter isFmt).getLast?
def lastData (chunks : List Chunk) : Option Chunk := (chunks.filter isData).getLast?

/-- What is found describes the last fmt and data chunk so far. -/
structure Found (bytes : List UInt8) (done : List Chunk) (scan : Scan) : Prop where
  noFmt : lastFmt done = none → scan.foundFmt = false
  noData : lastData done = none → scan.foundData = false
  fmt : ∀ chunk, lastFmt done = some chunk → scan.foundFmt = true ∧
    scan.audioFormat = number (slice chunk.payload 0 2) ∧
    scan.channels = number (slice chunk.payload 2 2) ∧
    scan.sampleRateHz = number (slice chunk.payload 4 4) ∧
    scan.bitsPerSample = number (slice chunk.payload 14 2)
  data : ∀ chunk, lastData done = some chunk → scan.foundData = true ∧
    scan.dataSize = chunk.payload.length ∧
    slice bytes scan.dataOffset scan.dataSize = chunk.payload
  inside : scan.Inside bytes

variable {bytes before after : List UInt8} {done : List Chunk} {scan : Scan} {chunk : Chunk}

theorem lastFmt_append : lastFmt (done ++ [chunk]) =
    if isFmt chunk then some chunk else lastFmt done := by
  unfold lastFmt
  rw [List.filter_append]
  split
  · rename_i same
    rw [List.filter_cons_of_pos same, List.filter_nil, List.getLast?_concat]
  · rename_i other
    rw [List.filter_cons_of_neg other, List.filter_nil, List.append_nil]

theorem lastData_append : lastData (done ++ [chunk]) =
    if isData chunk then some chunk else lastData done := by
  unfold lastData
  rw [List.filter_append]
  split
  · rename_i same
    rw [List.filter_cons_of_pos same, List.filter_nil, List.getLast?_concat]
  · rename_i other
    rw [List.filter_cons_of_neg other, List.filter_nil, List.append_nil]

theorem found_start (bytes : List UInt8) : Found bytes [] {} where
  noFmt _ := rfl
  noData _ := rfl
  fmt _ := nofun
  data _ := nofun
  inside := Nat.zero_le _

/-- A chunk takes the place of an earlier chunk of its kind and leaves the other kind. -/
theorem Found.step (found : Found (before ++ (chunk.written ++ after)) done scan)
    (enough : isFmt chunk → 16 ≤ chunk.payload.length) :
    ∃ next, applyChunk (before ++ (chunk.written ++ after)) before.length scan = .ok next ∧
      Found (before ++ (chunk.written ++ after)) (done ++ [chunk]) next := by
  rw [applyChunk_placed]
  by_cases fmt : chunk.id = tagBytes "fmt "
  · have other : ¬ isData chunk := by
      rw [isData, fmt]
      decide
    have kind : isFmt chunk := decide_eq_true fmt
    rw [if_pos fmt, if_neg (Nat.not_lt.mpr (enough kind))]
    refine ⟨_, rfl, ?_⟩
    constructor
    · rw [lastFmt_append, if_pos kind]
      nofun
    · rw [lastData_append, if_neg other]
      exact found.noData
    · rw [lastFmt_append, if_pos kind]
      rintro _ ⟨⟩
      exact ⟨rfl, rfl, rfl, rfl, rfl⟩
    · rw [lastData_append, if_neg other]
      exact found.data
    · exact found.inside
  · have other : ¬ isFmt chunk := fun kind => fmt (of_decide_eq_true kind)
    rw [if_neg fmt]
    by_cases data : chunk.id = tagBytes "data"
    · have kind : isData chunk := decide_eq_true data
      rw [if_pos data]
      refine ⟨_, rfl, ?_⟩
      constructor
      · rw [lastFmt_append, if_neg other]
        exact found.noFmt
      · rw [lastData_append, if_pos kind]
        nofun
      · rw [lastFmt_append, if_neg other]
        exact found.fmt
      · rw [lastData_append, if_pos kind]
        rintro _ ⟨⟩
        have whole := @slice_payload before after chunk 0 chunk.payload.length (by omega)
        rw [Nat.add_zero, slice_whole] at whole
        exact ⟨rfl, rfl, whole⟩
      · show before.length + 8 + chunk.payload.length ≤ _
        rw [List.length_append, List.length_append, length_chunk]
        omega
    · have neither : ¬ isData chunk := fun kind => data (of_decide_eq_true kind)
      rw [if_neg data]
      refine ⟨_, rfl, ?_⟩
      constructor
      · rw [lastFmt_append, if_neg other]
        exact found.noFmt
      · rw [lastData_append, if_neg neither]
        exact found.noData
      · rw [lastFmt_append, if_neg other]
        exact found.fmt
      · rw [lastData_append, if_neg neither]
        exact found.data
      · exact found.inside

/-- All chunks of a file are scanned, each at its place. -/
theorem scanChunks_found {rest : List Chunk} {fuel : Nat}
    (short : (before ++ rest.flatMap Chunk.written).length < 2 ^ 63)
    (enough : rest.length ≤ fuel) (sizes : ∀ chunk ∈ rest, isFmt chunk → 16 ≤ chunk.payload.length)
    (found : Found (before ++ rest.flatMap Chunk.written) done scan) :
    ∃ last, scanChunks (before ++ rest.flatMap Chunk.written) fuel before.length scan = .ok last ∧
      Found (before ++ rest.flatMap Chunk.written) (done ++ rest) last := by
  induction rest generalizing before done scan fuel with
  | nil =>
    rw [List.flatMap_nil, List.append_nil] at *
    have ends : ¬ sizeAdd before.length 8 ≤ before.length := by
      rw [sizeAdd_eq (by omega)]
      omega
    refine ⟨scan, ?_, (List.append_nil done).symm ▸ found⟩
    cases fuel with
    | zero => rw [scanChunks, if_neg ends]
    | succ fuel => rw [scanChunks, if_neg ends]
  | cons chunk rest ih =>
    rw [List.flatMap_cons] at *
    have long := length_chunk chunk
    have total : (before ++ (chunk.written ++ rest.flatMap Chunk.written)).length =
        before.length + chunk.written.length + (rest.flatMap Chunk.written).length := by
      rw [List.length_append, List.length_append, Nat.add_assoc]
    cases fuel with
    | zero =>
      rw [List.length_cons] at enough
      omega
    | succ fuel =>
      obtain ⟨next, applied, found⟩ := found.step (sizes chunk List.mem_cons_self)
      rw [scanChunks, sizeAdd_eq (by omega), if_pos (by omega), scanChunk_eq short (by omega), applied]
      have size := @number_size before (rest.flatMap Chunk.written) chunk
      have place : before.length + 8 + chunk.payload.length + chunk.payload.length % 2 =
          (before ++ chunk.written).length := by
        rw [List.length_append]
        omega
      rw [List.length_cons] at enough
      rw [← List.append_assoc] at short found size ⊢
      obtain ⟨last, ran, all⟩ := @ih (before ++ chunk.written) (done ++ [chunk]) next fuel short
        (by omega) (fun other member => sizes other (List.mem_cons_of_mem _ member)) found
      refine ⟨last, ?_, ?_⟩
      · show scanChunks _ fuel _ next = _
        rw [size, place]
        exact ran
      · rw [List.append_cons]
        exact all

/-- A fmt chunk of 16-bit PCM. -/
structure ValidFmt (fmt : Chunk) : Prop where
  pcm : number (slice fmt.payload 0 2) = pcmFormat
  bits : number (slice fmt.payload 14 2) = pcmBitsPerSample
  channels : number (slice fmt.payload 2 2) ≠ 0
  rate : number (slice fmt.payload 4 4) ≠ 0

variable {riffSize : Nat} {chunks : List Chunk} {fmt data : Chunk}

theorem length_flatMap_le {chunk : Chunk} (member : chunk ∈ chunks) :
    chunk.written.length ≤ (chunks.flatMap Chunk.written).length := by
  obtain ⟨first, last, rfl⟩ := List.append_of_mem member
  rw [List.flatMap_append, List.flatMap_cons, List.length_append, List.length_append]
  omega

theorem mem_of_lastFmt (last : lastFmt chunks = some fmt) : fmt ∈ chunks ∧ isFmt fmt := 
  List.mem_filter.mp (List.mem_of_getLast? last)

theorem mem_of_lastData (last : lastData chunks = some data) : data ∈ chunks ∧ isData data :=
  List.mem_filter.mp (List.mem_of_getLast? last)

theorem length_two_le {other : Chunk} (here : chunk ∈ chunks) (there : other ∈ chunks)
    (different : other ≠ chunk) :
    chunk.written.length + other.written.length ≤ (chunks.flatMap Chunk.written).length := by
  obtain ⟨first, last, rfl⟩ := List.append_of_mem here
  rw [List.flatMap_append, List.flatMap_cons, List.length_append, List.length_append]
  rcases List.mem_append.mp there with earlier | later
  · have fits := length_flatMap_le earlier
    omega
  · have fits := length_flatMap_le ((List.mem_cons.mp later).resolve_left different)
    omega

theorem length_le_flatMap (chunks : List Chunk) :
    chunks.length ≤ (chunks.flatMap Chunk.written).length := by
  induction chunks with
  | nil => exact Nat.le_refl 0
  | cons chunk rest ih =>
    rw [List.flatMap_cons, List.length_append, List.length_cons, length_chunk]
    omega

theorem length_wavFile (riffSize : Nat) (chunks : List Chunk) :
    (wavFile riffSize chunks).length = 12 + (chunks.flatMap Chunk.written).length := by
  unfold wavFile
  rw [List.length_append, List.length_append, List.length_append, length_littleEndian]
  rfl

/-- A fmt and a data chunk make a file of at least 44 bytes. -/
theorem length_ge (sizes : ∀ chunk ∈ chunks, isFmt chunk → 16 ≤ chunk.payload.length)
    (fmtIs : lastFmt chunks = some fmt) (dataIs : lastData chunks = some data) :
    44 ≤ (wavFile riffSize chunks).length := by
  obtain ⟨here, kind⟩ := mem_of_lastFmt fmtIs
  obtain ⟨there, other⟩ := mem_of_lastData dataIs
  have different : data ≠ fmt := by
    rintro rfl
    rw [isFmt, of_decide_eq_true other] at kind
    exact absurd kind (by decide)
  have both := length_two_le here there different
  have enough := sizes fmt here kind
  rw [length_chunk, length_chunk] at both
  rw [length_wavFile]
  omega

section

variable (short : (wavFile riffSize chunks).length < 2 ^ 63)
include short

theorem hasTag_wavFile :
    hasTag (wavFile riffSize chunks) 0 "RIFF" = .ok true ∧
      hasTag (wavFile riffSize chunks) 8 "WAVE" = .ok true := by
  have long := length_wavFile riffSize chunks
  have riff : (tagBytes "RIFF").length = 4 := rfl
  have wave : (tagBytes "WAVE").length = 4 := rfl
  have first := hasTag_eq short (show 0 + (tagBytes "RIFF").length ≤ _ by omega)
  have second := hasTag_eq short (show 8 + (tagBytes "WAVE").length ≤ _ by omega)
  rw [first, second]
  constructor
  · refine congrArg Except.ok (decide_eq_true ?_)
    unfold wavFile
    rw [List.append_assoc, List.append_assoc, slice_append_left (by omega), slice_whole]
  · refine congrArg Except.ok (decide_eq_true ?_)
    have place := slice_append_right (tagBytes "RIFF" ++ littleEndian 4 riffSize)
      (tagBytes "WAVE" ++ chunks.flatMap Chunk.written) 0 (tagBytes "WAVE").length
    rw [List.length_append, length_littleEndian, riff, ← List.append_assoc] at place
    refine place.trans ?_
    rw [slice_append_left (by omega), slice_whole]

/-- A file has the rate and channels of its last fmt chunk and the samples of its last data
chunk. -/
theorem decode_wavFile (sizes : ∀ chunk ∈ chunks, isFmt chunk → 16 ≤ chunk.payload.length)
    (fmtIs : lastFmt chunks = some fmt) (dataIs : lastData chunks = some data)
    (valid : ValidFmt fmt) (even : data.payload.length % 2 = 0) :
    decodePcm16Wav (wavFile riffSize chunks) = .ok {
      sampleRateHz := number (slice fmt.payload 4 4)
      channels := number (slice fmt.payload 2 2)
      wavPcm := samplesOf data.payload } := by
  have long := length_wavFile riffSize chunks
  have least := @length_ge riffSize chunks fmt data sizes fmtIs dataIs
  have header : (tagBytes "RIFF" ++ littleEndian 4 riffSize ++ tagBytes "WAVE").length = 12 := by
    rw [List.length_append, List.length_append, length_littleEndian]
    rfl
  have few := length_le_flatMap chunks
  obtain ⟨last, scanned, found⟩ := @scanChunks_found
    (tagBytes "RIFF" ++ littleEndian 4 riffSize ++ tagBytes "WAVE") [] {} chunks
    (wavFile riffSize chunks).length short (by omega) sizes (found_start _)
  rw [header] at scanned
  obtain ⟨foundFmt, format, channels, rate, bits⟩ := found.fmt fmt fmtIs
  obtain ⟨foundData, size, payload⟩ := found.data data dataIs
  rw [decodePcm16Wav, (hasTag_wavFile short).1, (hasTag_wavFile short).2]
  simp only [bind, Except.bind]
  rw [if_neg (by simp; omega)]
  show (scanChunks (wavFile riffSize chunks) _ 12 {}).bind _ = _
  rw [show scanChunks (wavFile riffSize chunks) _ 12 {} = .ok last from scanned]
  show readScan (wavFile riffSize chunks) last = _
  rw [readScan_eq short found.inside ⟨foundFmt, foundData⟩
    ⟨format.trans valid.pcm, bits.trans valid.bits⟩
    ⟨fun zero => valid.channels (channels.symm.trans zero),
      fun zero => valid.rate (rate.symm.trans zero)⟩ (by rw [size]; exact even), rate, channels]
  exact congrArg (fun bytes => Except.ok (VoiceSample.mk _ _ (samplesOf bytes))) payload

end

/-- The reader never reads outside its input and ends on every input; and it reads every file
with a valid last fmt chunk and a last data chunk of whole samples. -/
theorem wav_reader_exact :
    (∀ bytes : List UInt8, bytes.length < 2 ^ 63 →
      Refused (decodePcm16Wav bytes) ∨ ∃ sample, decodePcm16Wav bytes = .ok sample) ∧
    ∀ (riffSize : Nat) (chunks : List Chunk) (fmt data : Chunk),
      (wavFile riffSize chunks).length < 2 ^ 63 →
      (∀ chunk ∈ chunks, isFmt chunk → 16 ≤ chunk.payload.length) →
      lastFmt chunks = some fmt → lastData chunks = some data → ValidFmt fmt →
      data.payload.length % 2 = 0 →
      decodePcm16Wav (wavFile riffSize chunks) = .ok {
        sampleRateHz := number (slice fmt.payload 4 4)
        channels := number (slice fmt.payload 2 2)
        wavPcm := samplesOf data.payload } :=
  ⟨fun _ short => decodePcm16Wav_safe short,
    fun _ _ _ _ short sizes fmtIs dataIs valid even =>
      decode_wavFile short sizes fmtIs dataIs valid even⟩

/-- 16-bit PCM of one channel at 16 kHz. -/
def monoFmt : Chunk where
  id := tagBytes "fmt "
  payload := littleEndian 2 1 ++ littleEndian 2 1 ++ littleEndian 4 16000 ++ littleEndian 4 32000 ++
    littleEndian 2 2 ++ littleEndian 2 16
  four := rfl
  small := by decide

def dataChunk (payload : List UInt8) (small : payload.length < 2 ^ 32) : Chunk where
  id := tagBytes "data"
  payload := payload
  four := rfl
  small := small

theorem wav_reader_exact_mono :
    decodePcm16Wav (wavFile 0 [dataChunk [1, 0, 0xFF, 0xFF] (by decide), monoFmt]) = .ok {
      sampleRateHz := number (slice monoFmt.payload 4 4)
      channels := number (slice monoFmt.payload 2 2)
      wavPcm := samplesOf [1, 0, 0xFF, 0xFF] } :=
  wav_reader_exact.2 0 _ monoFmt (dataChunk [1, 0, 0xFF, 0xFF] (by decide)) (by decide) (by decide)
    rfl rfl ⟨by decide, by decide, by decide, by decide⟩ (by decide)

/-- A data chunk of an odd size is refused. -/
theorem odd_data_refused :
    ValidFmt monoFmt ∧
    decodePcm16Wav (wavFile 0 [monoFmt, dataChunk [1, 2, 3] (by decide)]) =
      .error (.invalidArgument "voice sample WAV data size must be 16-bit aligned") :=
  ⟨⟨by decide, by decide, by decide, by decide⟩, by decide +kernel⟩

end InferenceServer.Audio
