import InferenceServer.Machine.Span

/-! The bytes of the control messages of a migration. All fields are written whatever the type
of the message is, strings and lists behind a 32-bit count; the receiver takes the counts from
the peer. -/
namespace InferenceServer.Transport

open Machine SpanReader

inductive KvControlType
  | tableExchange
  | beginMigration
  | doneMarker
  | ack
  | bounceReady
  | windowReady
  | windowAck
  deriving DecidableEq

namespace KvControlType

def toByte : KvControlType → UInt8
  | tableExchange => 1
  | beginMigration => 2
  | doneMarker => 3
  | ack => 4
  | bounceReady => 5
  | windowReady => 6
  | windowAck => 7

def ofByte (type : UInt8) : Option KvControlType :=
  match type with
  | 1 => some tableExchange
  | 2 => some beginMigration
  | 3 => some doneMarker
  | 4 => some ack
  | 5 => some bounceReady
  | 6 => some windowReady
  | 7 => some windowAck
  | _ => none

theorem ofByte_toByte (type : KvControlType) : ofByte type.toByte = some type := by
  cases type <;> rfl

theorem toByte_of_ofByte {byte : UInt8} {type : KvControlType} (known : ofByte byte = some type) :
    type.toByte = byte := by
  unfold ofByte at known
  split at known <;> cases known <;> rfl

end KvControlType

/-- A device that a section drains to. -/
structure DrainTarget where
  device : UInt32 := 0
  nocAddr : UInt64 := 0
  deriving DecidableEq

structure BounceSectionDescriptor where
  sectionOffset : UInt64 := 0
  size : UInt64 := 0
  targets : List DrainTarget := []
  deriving DecidableEq

structure KvControlMessage where
  type : KvControlType := .ack
  uuid : UInt64 := 0
  slot : UInt32 := 0
  layerBegin : UInt32 := 0
  layerEnd : UInt32 := 0
  positionBegin : UInt32 := 0
  positionEnd : UInt32 := 0
  segmentName : List UInt8 := []
  ok : Bool := true
  role : UInt8 := 0
  tableBlob : List UInt8 := []
  bounceSectionCount : UInt32 := 0
  bounceSectionSize : UInt64 := 0
  credits : UInt32 := 0
  window : List BounceSectionDescriptor := []
  deriving DecidableEq

def putU8 (v : UInt8) : List UInt8 := [v]

def putU32 (v : UInt32) : List UInt8 := littleEndian 4 v.toNat

def putU64 (v : UInt64) : List UInt8 := littleEndian 8 v.toNat

def putBytes (data : List UInt8) : List UInt8 := [putU32 (UInt32.ofNat data.length), data].flatten

def putTarget (t : DrainTarget) : List UInt8 := [putU32 t.device, putU64 t.nocAddr].flatten

def putDescriptor (d : BounceSectionDescriptor) : List UInt8 :=
  [putU64 d.sectionOffset, putU64 d.size, putU32 (UInt32.ofNat d.targets.length),
    d.targets.flatMap putTarget].flatten

namespace KvControlMessage

/-- The fields in their order, with the byte that stands for `ok`. -/
def fields (m : KvControlMessage) (ok : UInt8) : List UInt8 :=
  [putU8 m.type.toByte, putU64 m.uuid, putU32 m.slot, putU32 m.layerBegin, putU32 m.layerEnd,
    putU32 m.positionBegin, putU32 m.positionEnd, putBytes m.segmentName, putU8 ok,
    putU8 m.role, putBytes m.tableBlob, putU32 m.bounceSectionCount, putU64 m.bounceSectionSize,
    putU32 m.credits, putU32 (UInt32.ofNat m.window.length),
    m.window.flatMap putDescriptor].flatten

/-- Nothing for a name or a table that is too long for its count. -/
def serialize (m : KvControlMessage) : List UInt8 :=
  let maxLen := UInt32.size - 1
  if m.segmentName.length > maxLen ∨ m.tableBlob.length > maxLen then []
  else m.fields (if m.ok then 1 else 0)

/-- Every count of the message fits its field. -/
structure Representable (m : KvControlMessage) : Prop where
  segmentName : m.segmentName.length < UInt32.size
  tableBlob : m.tableBlob.length < UInt32.size
  window : m.window.length < UInt32.size
  targets : ∀ d ∈ m.window, d.targets.length < UInt32.size

end KvControlMessage

def getU8 : SpanReader UInt8 := do
  let taken ← bytes 1
  return taken.headD 0

def getU32 : SpanReader UInt32 := do
  let taken ← bytes 4
  return UInt32.ofNat (fromLittleEndian taken)

def getU64 : SpanReader UInt64 := do
  let taken ← bytes 8
  return UInt64.ofNat (fromLittleEndian taken)

def getBytes : SpanReader (List UInt8) := do
  let len ← getU32
  bytes len.toNat

def getTarget : SpanReader DrainTarget := do
  let device ← getU32
  let nocAddr ← getU64
  return { device, nocAddr }

def getDescriptor : SpanReader BounceSectionDescriptor := do
  let sectionOffset ← getU64
  let size ← getU64
  let targetLen ← getU32
  let targets ← many getTarget targetLen.toNat
  return { sectionOffset, size, targets }

def getMessage : SpanReader KvControlMessage := do
  let type ← getU8
  let some type := KvControlType.ofByte type | refuse
  let uuid ← getU64
  let slot ← getU32
  let layerBegin ← getU32
  let layerEnd ← getU32
  let positionBegin ← getU32
  let positionEnd ← getU32
  let segmentName ← getBytes
  let ok ← getU8
  let role ← getU8
  let tableBlob ← getBytes
  let bounceSectionCount ← getU32
  let bounceSectionSize ← getU64
  let credits ← getU32
  let windowLen ← getU32
  let window ← many getDescriptor windowLen.toNat
  return {
    type, uuid, slot, layerBegin, layerEnd, positionBegin, positionEnd, segmentName,
    ok := ok ≠ 0, role, tableBlob, bounceSectionCount, bounceSectionSize, credits, window }

def KvControlMessage.deserialize (span : List UInt8) : Option KvControlMessage :=
  match getMessage span 0 with
  | .ok (m, _) => some m
  | .error _ => none

theorem getU8_decodes (v : UInt8) : Decodes getU8 (putU8 v) v :=
  .made rfl fun taken => taken.headD 0

theorem getU32_decodes (v : UInt32) : Decodes getU32 (putU32 v) v := by
  have read := Decodes.made (length_littleEndian 4 v.toNat)
    fun taken => UInt32.ofNat (fromLittleEndian taken)
  rwa [fromLittleEndian, foldr_littleEndian 4 _ v.toNat_lt, UInt32.ofNat_toNat] at read

theorem getU64_decodes (v : UInt64) : Decodes getU64 (putU64 v) v := by
  have read := Decodes.made (length_littleEndian 8 v.toNat)
    fun taken => UInt64.ofNat (fromLittleEndian taken)
  rwa [fromLittleEndian, foldr_littleEndian 8 _ v.toNat_lt, UInt64.ofNat_toNat] at read

theorem getBytes_decodes {data : List UInt8} (counted : data.length < UInt32.size) :
    Decodes getBytes (putBytes data) data := by
  refine .part (getU32_decodes _) ?_
  rw [UInt32.toNat_ofNat_of_lt' counted, List.flatten_singleton]
  exact .bytes data

theorem getTarget_decodes (t : DrainTarget) : Decodes getTarget (putTarget t) t :=
  .part (getU32_decodes t.device) (.part (getU64_decodes t.nocAddr) (.done t))

theorem getDescriptor_decodes {d : BounceSectionDescriptor}
    (counted : d.targets.length < UInt32.size) : Decodes getDescriptor (putDescriptor d) d := by
  refine .part (getU64_decodes _) (.part (getU64_decodes _) (.part (getU32_decodes _) ?_))
  rw [UInt32.toNat_ofNat_of_lt' counted]
  exact .part (.many fun t _ => getTarget_decodes t) (.done d)

variable {m : KvControlMessage}

theorem getMessage_decodes (representable : m.Representable) :
    Decodes getMessage (m.fields (if m.ok then 1 else 0)) m := by
  refine .part (getU8_decodes _) ?_
  rw [KvControlType.ofByte_toByte]
  refine .part (getU64_decodes _) (.part (getU32_decodes _) (.part (getU32_decodes _)
    (.part (getU32_decodes _) (.part (getU32_decodes _) (.part (getU32_decodes _)
    (.part (getBytes_decodes representable.segmentName) (.part (getU8_decodes _)
    (.part (getU8_decodes _) (.part (getBytes_decodes representable.tableBlob)
    (.part (getU32_decodes _) (.part (getU64_decodes _) (.part (getU32_decodes _)
    (.part (getU32_decodes _) ?_)))))))))))))
  rw [UInt32.toNat_ofNat_of_lt' representable.window]
  refine .part (.many fun d member => getDescriptor_decodes (representable.targets d member)) ?_
  have ok : decide ((if m.ok then 1 else 0 : UInt8) ≠ 0) = m.ok := by cases m.ok <;> rfl
  rw [ok]
  exact .done m

theorem getU8_consumes : Consumes 1 getU8 := (Consumes.bytes 1).bind fun _ => .done _

theorem getU32_consumes : Consumes 4 getU32 := (Consumes.bytes 4).bind fun _ => .done _

theorem getU64_consumes : Consumes 8 getU64 := (Consumes.bytes 8).bind fun _ => .done _

theorem getBytes_consumes : Consumes 4 getBytes :=
  getU32_consumes.bind fun len => (Consumes.bytes len.toNat).weaken (Nat.zero_le _)

theorem getTarget_consumes : Consumes 12 getTarget :=
  getU32_consumes.bind fun _ => getU64_consumes.bind fun _ => .done _

theorem getDescriptor_consumes : Consumes 20 getDescriptor :=
  getU64_consumes.bind fun _ => getU64_consumes.bind fun _ => getU32_consumes.bind fun targetLen =>
    ((getTarget_consumes.many targetLen.toNat).weaken (Nat.zero_le _)).bind fun _ => .done _

theorem getMessage_consumes : Consumes (1 + 0) getMessage := by
  refine getU8_consumes.bind fun type => ?_
  cases KvControlType.ofByte type with
  | none => exact .refuse 0
  | some type =>
    refine (getU64_consumes.bind fun _ => getU32_consumes.bind fun _ => getU32_consumes.bind
      fun _ => getU32_consumes.bind fun _ => getU32_consumes.bind fun _ => getU32_consumes.bind
      fun _ => getBytes_consumes.bind fun _ => getU8_consumes.bind fun _ => getU8_consumes.bind
      fun _ => getBytes_consumes.bind fun _ => getU32_consumes.bind fun _ => getU64_consumes.bind
      fun _ => getU32_consumes.bind fun _ => getU32_consumes.bind fun windowLen =>
        ((getDescriptor_consumes.many windowLen.toNat).weaken (Nat.zero_le _)).bind
          fun _ => .done _).weaken (Nat.zero_le _)

theorem getU8_accepts : Accepts getU8 fun taken v => taken = putU8 v := by
  refine (Accepts.bytes 1).bind fun taken value read => .done ?_
  obtain ⟨rfl, length⟩ := read
  obtain ⟨byte, rfl⟩ := List.length_eq_one_iff.mp length
  rfl

theorem getU32_accepts : Accepts getU32 fun taken v => taken = putU32 v := by
  refine (Accepts.bytes 4).bind fun taken value read => .done ?_
  obtain ⟨rfl, length⟩ := read
  have bound := fromLittleEndian_lt taken
  rw [length] at bound
  rw [List.append_nil, putU32, UInt32.toNat_ofNat_of_lt' bound, ← length,
    littleEndian_fromLittleEndian]

theorem getU64_accepts : Accepts getU64 fun taken v => taken = putU64 v := by
  refine (Accepts.bytes 8).bind fun taken value read => .done ?_
  obtain ⟨rfl, length⟩ := read
  have bound := fromLittleEndian_lt taken
  rw [length] at bound
  rw [List.append_nil, putU64, UInt64.toNat_ofNat_of_lt' bound, ← length,
    littleEndian_fromLittleEndian]

theorem getBytes_accepts : Accepts getBytes fun taken data => taken = putBytes data := by
  refine getU32_accepts.bind fun counted len written => ?_
  intro span pos data after inside ran
  obtain ⟨ends, taken, split, rfl, length⟩ := Accepts.bytes len.toNat _ _ _ _ inside ran
  refine ⟨ends, taken, split, ?_⟩
  change counted ++ taken = putBytes taken
  rw [written, putBytes, length, UInt32.ofNat_toNat, List.flatten_cons, List.flatten_singleton]

theorem getTarget_accepts : Accepts getTarget fun taken t => taken = putTarget t := by
  refine getU32_accepts.bind fun _ device first => getU64_accepts.bind fun _ nocAddr second =>
    .done ?_
  rw [first, second]
  rfl

theorem getDescriptor_accepts : Accepts getDescriptor fun taken d => taken = putDescriptor d := by
  refine getU64_accepts.bind fun _ sectionOffset first => getU64_accepts.bind fun _ size second =>
    getU32_accepts.bind fun _ targetLen third =>
    (getTarget_accepts.many targetLen.toNat).bind fun _ targets fourth => .done ?_
  rw [first, second, third, fourth.1, putDescriptor, fourth.2, UInt32.ofNat_toNat]
  rfl

/-- A message that is accepted lies whole at the front of what was read, but for the value of a
byte that is set. -/
theorem getMessage_accepts : Accepts getMessage fun taken m =>
    ∃ ok : UInt8, m.ok = decide (ok ≠ 0) ∧ taken = m.fields ok := by
  refine getU8_accepts.bind fun _ type typed => ?_
  cases known : KvControlType.ofByte type with
  | none => exact .refuse
  | some kind =>
    refine getU64_accepts.bind fun _ uuid h1 => getU32_accepts.bind fun _ slot h2 =>
      getU32_accepts.bind fun _ layerBegin h3 => getU32_accepts.bind fun _ layerEnd h4 =>
      getU32_accepts.bind fun _ positionBegin h5 => getU32_accepts.bind fun _ positionEnd h6 =>
      getBytes_accepts.bind fun _ segmentName h7 => getU8_accepts.bind fun _ ok h8 =>
      getU8_accepts.bind fun _ role h9 => getBytes_accepts.bind fun _ tableBlob h10 =>
      getU32_accepts.bind fun _ sectionCount h11 => getU64_accepts.bind fun _ sectionSize h12 =>
      getU32_accepts.bind fun _ credits h13 => getU32_accepts.bind fun _ windowLen h14 =>
      (getDescriptor_accepts.many windowLen.toNat).bind fun _ window h15 =>
      .done ⟨ok, rfl, ?_⟩
    rw [typed, h1, h2, h3, h4, h5, h6, h7, h8, h9, h10, h11, h12, h13, h14, h15.1,
      KvControlMessage.fields, h15.2, UInt32.ofNat_toNat, KvControlType.toByte_of_ofByte known]
    rfl

section

variable (representable : m.Representable)
include representable

theorem KvControlMessage.serialize_eq : m.serialize = m.fields (if m.ok then 1 else 0) := by
  have name := representable.segmentName
  have blob := representable.tableBlob
  unfold serialize
  simp only
  rw [if_neg (by omega)]

theorem deserialize_serialize : KvControlMessage.deserialize m.serialize = some m := by
  have whole := getMessage_decodes representable [] []
  rw [List.nil_append, List.append_nil, List.length_nil] at whole
  rw [KvControlMessage.deserialize, KvControlMessage.serialize_eq representable, whole]

theorem deserialize_proper_prefix {before : List UInt8} (isPrefix : before <+: m.serialize)
    (proper : before ≠ m.serialize) : KvControlMessage.deserialize before = none := by
  rw [KvControlMessage.serialize_eq representable] at isPrefix proper
  rw [KvControlMessage.deserialize,
    (getMessage_decodes representable).refuses getMessage_consumes isPrefix proper]

end

/-- What is accepted is a message and then bytes that are not looked at. -/
theorem deserialize_whole {span : List UInt8}
    (accepted : KvControlMessage.deserialize span = some m) :
    ∃ (ok : UInt8) (rest : List UInt8), m.ok = decide (ok ≠ 0) ∧ span = m.fields ok ++ rest := by
  unfold KvControlMessage.deserialize at accepted
  split at accepted
  · rename_i read ran
    cases accepted
    obtain ⟨_, taken, split, ok, flag, rfl⟩ := getMessage_accepts _ _ _ _ (Nat.zero_le _) ran
    exact ⟨ok, _, flag, split⟩
  · cases accepted

/-- A string that is accepted is no longer than what follows its count. -/
theorem getBytes_counted {span data : List UInt8} {pos after : Nat} (inside : pos ≤ span.length)
    (ran : getBytes span pos = .ok (data, after)) :
    ∃ len, getU32 span pos = .ok (len, pos + 4) ∧ len.toNat ≤ span.length - (pos + 4) := by
  obtain ⟨len, middle, counted, taken⟩ := bind_ok ran
  have moved := getU32_consumes.moves inside counted
  have remain := (Consumes.bytes len.toNat).le_remaining moved.2 taken
  have four : middle = pos + 4 := by
    obtain ⟨read, stop, first, last⟩ := bind_ok counted
    rw [bytes_eq] at first
    split at first
    · cases first
    · cases first
      exact (congrArg Prod.snd (Except.ok.inj last)).symm
  subst four
  exact ⟨len, counted, remain⟩

/-- The codec of the control messages: what was written is read back in every field and no
proper prefix of it is; nothing is read outside the input; what is accepted lies whole at the
front of the input; and a string or list is accepted only with a count that the remaining bytes
can hold. -/
theorem control_message_codec :
    (∀ m : KvControlMessage, m.Representable →
      KvControlMessage.deserialize m.serialize = some m ∧
      ∀ before, before <+: m.serialize → before ≠ m.serialize →
        KvControlMessage.deserialize before = none) ∧
    (∀ span, getMessage span 0 ≠ .error .outside) ∧
    (∀ span m, KvControlMessage.deserialize span = some m →
      ∃ (ok : UInt8) (rest : List UInt8), m.ok = decide (ok ≠ 0) ∧ span = m.fields ok ++ rest) ∧
    ∀ (span : List UInt8) (pos after : Nat), pos ≤ span.length →
      (∀ data, getBytes span pos = .ok (data, after) →
        ∃ len, getU32 span pos = .ok (len, pos + 4) ∧ len.toNat ≤ span.length - (pos + 4)) ∧
      (∀ (windowLen : Nat) (window : List BounceSectionDescriptor),
        many getDescriptor windowLen span pos = .ok (window, after) →
        windowLen * 20 ≤ span.length - pos) ∧
      ∀ (targetLen : Nat) (targets : List DrainTarget),
        many getTarget targetLen span pos = .ok (targets, after) →
        targetLen * 12 ≤ span.length - pos := by
  refine ⟨fun m representable => ⟨deserialize_serialize representable,
    fun before => deserialize_proper_prefix representable⟩,
    fun span => getMessage_consumes.inside (Nat.zero_le _), fun span m => deserialize_whole,
    fun span pos after inside => ⟨fun data => getBytes_counted inside, ?_, ?_⟩⟩
  · intro windowLen window ran
    exact (getDescriptor_consumes.many windowLen).le_remaining inside ran
  · intro targetLen targets ran
    exact (getTarget_consumes.many targetLen).le_remaining inside ran

/-- A window of one section that two devices take, and a message cut inside its second. -/
def sampleWindow : KvControlMessage where
  type := .windowReady
  uuid := 7
  window := [{ sectionOffset := 64, size := 32, targets := [⟨1, 4096⟩, ⟨2, 8192⟩] }]

theorem control_message_codec_window :
    KvControlMessage.deserialize sampleWindow.serialize = some sampleWindow ∧
      KvControlMessage.deserialize sampleWindow.serialize.dropLast = none ∧
      KvControlMessage.deserialize (sampleWindow.serialize ++ [1]) = some sampleWindow := by
  have representable : sampleWindow.Representable := by
    refine ⟨by decide, by decide, by decide, ?_⟩
    intro d member
    obtain rfl := List.mem_singleton.mp member
    decide
  have codec := control_message_codec.1 sampleWindow representable
  exact ⟨codec.1, codec.2 _ (List.dropLast_prefix _) (by decide +kernel), by decide +kernel⟩

end InferenceServer.Transport
