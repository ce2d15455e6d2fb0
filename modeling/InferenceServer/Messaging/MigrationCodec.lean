import InferenceServer.Messaging.MigrationMessage

/-! What the parsers of migration messages accept, and when a conversion they have not checked
ends them. -/
namespace InferenceServer.Messaging

open Machine RemoteKv Json


variable {Number : Type} [JsonNumber Number]

/-- The number that is read as the id of the request. -/
def requestId? (members : Members Number) : Option Int :=
  if (members.lookup kKafkaRequestId).isSome then integer? members kKafkaRequestId
  else integer? members kMigrationId

/-- The number that is read as the parent. -/
def parentId? (members : Members Number) : Option Int :=
  if (members.lookup kKafkaRequestId).isSome then integer? members kMigrationId else none

/-- A parent, where there is one, is an integer. -/
def ParentIntegral (members : Members Number) : Prop :=
  (members.lookup kKafkaRequestId).isSome → (members.lookup kMigrationId).isSome →
    (integer? members kMigrationId).isSome

instance (members : Members Number) : Decidable (ParentIntegral members) :=
  inferInstanceAs (Decidable (_ → _))

variable {root : Document Number} {members : Members Number}

section

variable (known : root.members? = some members)
include known

theorem parseKafkaRequestId_of_members :
    parseKafkaRequestId root = (requestId? members).mapM toUInt64 := by
  simp only [parseKafkaRequestId, isMember_of_members known, get_of_members known, ok_bind,
    isIntegral_getD, requestId?]
  by_cases new : (members.lookup kKafkaRequestId).isSome
  · cases held : integer? members kKafkaRequestId with
    | none => simp [new]
    | some number => simp [new, asUInt64_getD held]
  · cases held : integer? members kMigrationId with
    | none => simp [new]
    | some number => simp [new, asUInt64_getD held, lookup_of_integer? held]

theorem parentRefused_of_members :
    parentRefused root = .ok (decide (¬ ParentIntegral members)) := by
  simp only [parentRefused, isMember_of_members known, get_of_members known, ok_bind,
    isIntegral_getD, ParentIntegral]
  refine congrArg Except.ok (Bool.eq_iff_iff.mpr ?_)
  simp only [Bool.and_eq_true, Bool.not_eq_true', decide_eq_true_eq, Classical.not_imp,
    Bool.not_eq_true, and_assoc]

theorem parseParentMigrationId_of_members :
    parseParentMigrationId root = (parentId? members).mapM toUInt64 := by
  simp only [parseParentMigrationId, isMember_of_members known, get_of_members known,
    ok_bind, isIntegral_getD, parentId?]
  by_cases new : (members.lookup kKafkaRequestId).isSome
  · cases held : integer? members kMigrationId with
    | none => simp [new]
    | some number => simp [new, asUInt64_getD held, lookup_of_integer? held]
  · simp [new]

theorem integralField_of_members (field : String) :
    integralField root field = .ok (integer? members field).isSome := by
  simp only [integralField, isMember_of_members known, get_of_members known, ok_bind,
    isIntegral_getD]
  refine congrArg Except.ok ?_
  cases held : integer? members field with
  | none => exact Bool.and_false _
  | some number => rw [lookup_of_integer? held, Option.isSome_some, Bool.and_self]

theorem readUInt_of_members {field : String} {number : Int}
    (held : integer? members field = some number) : readUInt root field = toUInt number := by
  simp only [readUInt, get_of_members known, ok_bind, asUInt_getD held]

theorem readUInt_eq_ok {field : String} (integral : (integer? members field).isSome)
    {value : UInt32} :
    readUInt root field = .ok value ↔ integer? members field = some (value.toNat : Int) := by
  obtain ⟨number, held⟩ := Option.isSome_iff_exists.mp integral
  rw [readUInt_of_members known held, toUInt_eq_ok, held, Option.some.injEq]

theorem readUInt_returns {field : String} (integral : (integer? members field).isSome) :
    (∃ value, readUInt root field = .ok value) ↔
      ∀ number, integer? members field = some number → 0 ≤ number ∧ number < UInt32.size := by
  obtain ⟨number, held⟩ := Option.isSome_iff_exists.mp integral
  rw [readUInt_of_members known held, toUInt_returns, held]
  exact ⟨fun range _ same => Option.some.inj same ▸ range, fun all => all number rfl⟩

end

namespace MigrationRequestMessage

/-- The document has the members of a request, all of the right type. -/
structure Checked (members : Members Number) : Prop where
  requestId : (requestId? members).isSome
  parent : ParentIntegral members
  fields : ∀ field ∈ requestFields, (integer? members field).isSome

/-- The fields of a request are members of the document. -/
structure FieldsIn (members : Members Number) (message : MigrationRequestMessage) : Prop where
  parent : parentId? members = message.migrationId.map fun id => (id.toNat : Int)
  srcSlot : integer? members "src_slot" = some (message.srcSlot.toNat : Int)
  dstSlot : integer? members "dst_slot" = some (message.dstSlot.toNat : Int)
  layerBegin : integer? members "layer_begin" = some (message.layerBegin.toNat : Int)
  layerEnd : integer? members "layer_end" = some (message.layerEnd.toNat : Int)
  srcPositionBegin :
    integer? members "src_position_begin" = some (message.srcPositionBegin.toNat : Int)
  srcPositionEnd : integer? members "src_position_end" = some (message.srcPositionEnd.toNat : Int)
  dstPositionBegin :
    integer? members "dst_position_begin" = some (message.dstPositionBegin.toNat : Int)
  dstPositionEnd : integer? members "dst_position_end" = some (message.dstPositionEnd.toNat : Int)

/-- The document is this request, in either layout. -/
structure CarriedBy (message : MigrationRequestMessage) (members : Members Number) : Prop where
  requestId : requestId? members = some (message.kafkaRequestId.toNat : Int)
  parentIntegral : ParentIntegral members
  fields : FieldsIn members message

variable {message : MigrationRequestMessage}

theorem read_eq_ok (known : root.members? = some members)
    (integral : ∀ field ∈ requestFields, (integer? members field).isSome) {id : UInt64} :
    MigrationRequestMessage.read root id = .ok message ↔
      message.kafkaRequestId = id ∧ FieldsIn members message := by
  simp only [requestFields, List.forall_mem_cons] at integral
  obtain ⟨srcSlot, dstSlot, layerBegin, layerEnd, srcBegin, srcEnd, dstBegin, dstEnd, _⟩ := integral
  simp only [MigrationRequestMessage.read, bind_eq_ok, parseParentMigrationId_of_members known,
    mapM_toUInt64_eq_ok, readUInt_eq_ok known srcSlot, readUInt_eq_ok known dstSlot,
    readUInt_eq_ok known layerBegin, readUInt_eq_ok known layerEnd, readUInt_eq_ok known srcBegin,
    readUInt_eq_ok known srcEnd, readUInt_eq_ok known dstBegin, readUInt_eq_ok known dstEnd]
  constructor
  · rintro ⟨_, parent, _, srcSlot, _, dstSlot, _, layerBegin, _, layerEnd, _, srcBegin, _, srcEnd,
      _, dstBegin, _, dstEnd, same⟩
    cases same
    exact ⟨rfl, parent, srcSlot, dstSlot, layerBegin, layerEnd, srcBegin, srcEnd, dstBegin, dstEnd⟩
  · rintro ⟨rfl, held⟩
    exact ⟨_, held.parent, _, held.srcSlot, _, held.dstSlot, _, held.layerBegin, _, held.layerEnd,
      _, held.srcPositionBegin, _, held.srcPositionEnd, _, held.dstPositionBegin, _,
      held.dstPositionEnd, rfl⟩

theorem FieldsIn.integral (held : FieldsIn members message) :
    ∀ field ∈ requestFields, (integer? members field).isSome := by
  simp only [requestFields, List.forall_mem_cons]
  refine ⟨?_, ?_, ?_, ?_, ?_, ?_, ?_, ?_, nofun⟩
  · rw [held.srcSlot, Option.isSome_some]
  · rw [held.dstSlot, Option.isSome_some]
  · rw [held.layerBegin, Option.isSome_some]
  · rw [held.layerEnd, Option.isSome_some]
  · rw [held.srcPositionBegin, Option.isSome_some]
  · rw [held.srcPositionEnd, Option.isSome_some]
  · rw [held.dstPositionBegin, Option.isSome_some]
  · rw [held.dstPositionEnd, Option.isSome_some]

section

variable (known : root.members? = some members)
include known

theorem fieldsChecked :
    requestFields.allM (integralField root) =
      .ok (requestFields.all fun field => (integer? members field).isSome) := by
  rw [show integralField root = fun field => pure (integer? members field).isSome from
    funext fun field => integralField_of_members known field]
  exact List.allM_pure

/-- A document that fails a check is refused, once its request id is converted. -/
theorem ofJson_unchecked (refused : ¬ Checked members) {id : Option UInt64}
    (converted : (requestId? members).mapM toUInt64 = .ok id) :
    MigrationRequestMessage.ofJson root = .ok none := by
  simp only [MigrationRequestMessage.ofJson, parseKafkaRequestId_of_members known, converted,
    ok_bind, parentRefused_of_members known, fieldsChecked known]
  cases id with
  | none => rfl
  | some id =>
    dsimp only
    by_cases parent : ParentIntegral members
    · have fields : ¬ ∀ field ∈ requestFields, (integer? members field).isSome := by
        refine fun fields => refused ⟨?_, parent, fields⟩
        rw [mapM_toUInt64_eq_ok.mp converted]
        rfl
      rw [← List.all_eq_true, Bool.not_eq_true] at fields
      simp only [parent, fields, not_true_eq_false, decide_false, Bool.false_eq_true, if_false,
        Bool.not_false, if_true]
      rfl
    · simp only [parent, not_false_eq_true, decide_true, if_true]
      rfl

theorem ofJson_checked (checked : Checked members) {id : UInt64}
    (converted : (requestId? members).mapM toUInt64 = .ok (some id)) :
    MigrationRequestMessage.ofJson root = some <$> MigrationRequestMessage.read root id := by
  simp only [MigrationRequestMessage.ofJson, parseKafkaRequestId_of_members known, converted,
    ok_bind, parentRefused_of_members known, fieldsChecked known,
    List.all_eq_true.mpr checked.fields, checked.parent, not_true_eq_false, decide_false,
    Bool.false_eq_true, if_false, Bool.not_true]
  exact (map_eq_pure_bind some _).symm

theorem ofJson_eq_ok_some :
    MigrationRequestMessage.ofJson root = .ok (some message) ↔ CarriedBy message members := by
  constructor
  · intro parsed
    cases converted : (requestId? members).mapM toUInt64 with
    | error raised =>
      rw [MigrationRequestMessage.ofJson, parseKafkaRequestId_of_members known, converted] at parsed
      cases parsed
    | ok id =>
      have held := mapM_toUInt64_eq_ok.mp converted
      by_cases checked : Checked members
      · cases id with
        | none => exact absurd checked.requestId (by rw [held]; exact Bool.false_ne_true)
        | some id =>
          rw [ofJson_checked known checked converted] at parsed
          cases reading : MigrationRequestMessage.read root id with
          | error raised =>
            rw [reading] at parsed
            cases parsed
          | ok read =>
            rw [reading] at parsed
            cases parsed
            obtain ⟨same, fields⟩ := (read_eq_ok known checked.fields).mp reading
            exact ⟨same ▸ held, checked.parent, fields⟩
      · rw [ofJson_unchecked known checked converted] at parsed
        cases parsed
  · intro carried
    have checked : Checked members :=
      ⟨carried.requestId ▸ rfl, carried.parentIntegral, carried.fields.integral⟩
    have converted : (requestId? members).mapM toUInt64 = .ok (some message.kafkaRequestId) :=
      mapM_toUInt64_eq_ok.mpr carried.requestId
    rw [ofJson_checked known checked converted,
      (read_eq_ok known checked.fields).mpr ⟨rfl, carried.fields⟩]
    rfl

end

/-- The numbers that the parser converts are in the range of their types. -/
structure Convertible (members : Members Number) : Prop where
  requestId : ∀ id, requestId? members = some id → 0 ≤ id ∧ id < UInt64.size
  parent : Checked members → ∀ id, parentId? members = some id → 0 ≤ id ∧ id < UInt64.size
  fields : Checked members → ∀ field ∈ requestFields, ∀ number,
    integer? members field = some number → 0 ≤ number ∧ number < UInt32.size

theorem read_returns (known : root.members? = some members)
    (integral : ∀ field ∈ requestFields, (integer? members field).isSome) (id : UInt64) :
    (∃ message, MigrationRequestMessage.read root id = .ok message) ↔
      (∀ id, parentId? members = some id → 0 ≤ id ∧ id < UInt64.size) ∧
      ∀ field ∈ requestFields, ∀ number, integer? members field = some number →
        0 ≤ number ∧ number < UInt32.size := by
  have ranges : (∀ field ∈ requestFields, ∀ number, integer? members field = some number →
      0 ≤ number ∧ number < UInt32.size) ↔
      ∀ field ∈ requestFields, ∃ value, readUInt root field = .ok value :=
    forall₂_congr fun field listed => (readUInt_returns known (integral field listed)).symm
  rw [ranges, ← mapM_toUInt64_returns, ← parseParentMigrationId_of_members known]
  simp only [requestFields, List.forall_mem_cons, MigrationRequestMessage.read, bind_eq_ok]
  constructor
  · rintro ⟨_, parent, parentRead, srcSlot, srcRead, dstSlot, dstRead, layerBegin, beginRead,
      layerEnd, endRead, srcBegin, srcBeginRead, srcEnd, srcEndRead, dstBegin, dstBeginRead, dstEnd,
      dstEndRead, _⟩
    exact ⟨⟨parent, parentRead⟩, ⟨srcSlot, srcRead⟩, ⟨dstSlot, dstRead⟩, ⟨layerBegin, beginRead⟩,
      ⟨layerEnd, endRead⟩, ⟨srcBegin, srcBeginRead⟩, ⟨srcEnd, srcEndRead⟩, ⟨dstBegin, dstBeginRead⟩,
      ⟨dstEnd, dstEndRead⟩, nofun⟩
  · rintro ⟨⟨parent, parentRead⟩, ⟨srcSlot, srcRead⟩, ⟨dstSlot, dstRead⟩, ⟨layerBegin, beginRead⟩,
      ⟨layerEnd, endRead⟩, ⟨srcBegin, srcBeginRead⟩, ⟨srcEnd, srcEndRead⟩, ⟨dstBegin, dstBeginRead⟩,
      ⟨dstEnd, dstEndRead⟩, _⟩
    exact ⟨_, parent, parentRead, srcSlot, srcRead, dstSlot, dstRead, layerBegin, beginRead,
      layerEnd, endRead, srcBegin, srcBeginRead, srcEnd, srcEndRead, dstBegin, dstBeginRead, dstEnd,
      dstEndRead, rfl⟩

theorem ofJson_returns (known : root.members? = some members) :
    (∃ result, MigrationRequestMessage.ofJson root = .ok result) ↔ Convertible members := by
  constructor
  · rintro ⟨result, parsed⟩
    cases converted : (requestId? members).mapM toUInt64 with
    | error raised =>
      rw [MigrationRequestMessage.ofJson, parseKafkaRequestId_of_members known, converted] at parsed
      cases parsed
    | ok id =>
      have returned : Checked members → (∀ id, parentId? members = some id →
          0 ≤ id ∧ id < UInt64.size) ∧ ∀ field ∈ requestFields, ∀ number,
            integer? members field = some number → 0 ≤ number ∧ number < UInt32.size := by
        intro checked
        have held := mapM_toUInt64_eq_ok.mp converted
        cases id with
        | none => exact absurd checked.requestId (by rw [held]; exact Bool.false_ne_true)
        | some id =>
          refine (read_returns known checked.fields id).mp ?_
          rw [ofJson_checked known checked converted] at parsed
          cases reading : MigrationRequestMessage.read root id with
          | error raised =>
            rw [reading] at parsed
            cases parsed
          | ok message => exact ⟨message, rfl⟩
      exact ⟨mapM_toUInt64_returns.mp ⟨id, converted⟩, fun checked => (returned checked).1,
        fun checked => (returned checked).2⟩
  · intro convertible
    obtain ⟨id, converted⟩ := mapM_toUInt64_returns.mpr convertible.requestId
    by_cases checked : Checked members
    · cases id with
      | none =>
        have held := mapM_toUInt64_eq_ok.mp converted
        exact absurd checked.requestId (by rw [held]; exact Bool.false_ne_true)
      | some id =>
        obtain ⟨message, reading⟩ := (read_returns known checked.fields id).mpr
          ⟨convertible.parent checked, convertible.fields checked⟩
        exact ⟨some message, by rw [ofJson_checked known checked converted, reading]; rfl⟩
    · exact ⟨none, ofJson_unchecked known checked converted⟩

end MigrationRequestMessage

namespace MigrationResponseMessage

/-- The document has the members of a response, all of the right type, and a known status. -/
structure Checked (members : Members Number) : Prop where
  requestId : (requestId? members).isSome
  parent : ParentIntegral members
  status : ∃ text status, members.lookup "status" = some (.string text) ∧
    fromWire text = some status

/-- The document is this response, in either layout. -/
structure CarriedBy (message : MigrationResponseMessage) (members : Members Number) : Prop where
  requestId : requestId? members = some (message.kafkaRequestId.toNat : Int)
  parentIntegral : ParentIntegral members
  parent : parentId? members = message.migrationId.map fun id => (id.toNat : Int)
  status : ∃ text, members.lookup "status" = some (.string text) ∧
    fromWire text = some message.status

section

variable (known : root.members? = some members)
include known

/-- A document that fails a check is refused, once its request id is converted. -/
theorem ofJson_unchecked (refused : ¬ Checked members) {id : Option UInt64}
    (converted : (requestId? members).mapM toUInt64 = .ok id) :
    MigrationResponseMessage.ofJson root = .ok none := by
  simp only [MigrationResponseMessage.ofJson, parseKafkaRequestId_of_members known, converted,
    ok_bind, get_of_members known, parentRefused_of_members known]
  split
  · rename_i requestId text present
    split
    · rfl
    · rename_i integral
      split
      · rfl
      · rename_i status named
        refine absurd ⟨?_, ?_, text, status, ?_, named⟩ refused
        · rw [mapM_toUInt64_eq_ok.mp converted]
          rfl
        · simpa using integral
        · cases held : members.lookup "status" with
          | none =>
            rw [held] at present
            cases present
          | some json =>
            rw [held] at present
            exact congrArg some present
  · rfl

theorem ofJson_checked {id : UInt64}
    (converted : (requestId? members).mapM toUInt64 = .ok (some id))
    (parent : ParentIntegral members) {text : String} {status : MigrationStatus}
    (held : members.lookup "status" = some (.string text)) (named : fromWire text = some status) :
    MigrationResponseMessage.ofJson root = (fun migrationId =>
      some { kafkaRequestId := id, migrationId := migrationId, status := status }) <$>
        (parentId? members).mapM toUInt64 := by
  simp only [MigrationResponseMessage.ofJson, parseKafkaRequestId_of_members known, converted,
    ok_bind, get_of_members known, held, Option.getD_some, parentRefused_of_members known, parent,
    not_true_eq_false, decide_false, Bool.false_eq_true, if_false, named,
    parseParentMigrationId_of_members known]
  exact (map_eq_pure_bind _ _).symm

theorem ofJson_eq_ok_some {message : MigrationResponseMessage} :
    MigrationResponseMessage.ofJson root = .ok (some message) ↔ CarriedBy message members := by
  constructor
  · intro parsed
    cases converted : (requestId? members).mapM toUInt64 with
    | error raised =>
      rw [MigrationResponseMessage.ofJson, parseKafkaRequestId_of_members known, converted] at parsed
      cases parsed
    | ok id =>
      have requestId := mapM_toUInt64_eq_ok.mp converted
      by_cases checked : Checked members
      · obtain ⟨text, status, held, named⟩ := checked.status
        cases id with
        | none => exact absurd checked.requestId (by rw [requestId]; exact Bool.false_ne_true)
        | some id =>
          rw [ofJson_checked known converted checked.parent held named] at parsed
          cases reading : (parentId? members).mapM toUInt64 with
          | error raised =>
            rw [reading] at parsed
            cases parsed
          | ok parent =>
            rw [reading] at parsed
            cases parsed
            exact ⟨requestId, checked.parent, mapM_toUInt64_eq_ok.mp reading, text, held, named⟩
      · rw [ofJson_unchecked known checked converted] at parsed
        cases parsed
  · intro carried
    obtain ⟨text, held, named⟩ := carried.status
    have converted : (requestId? members).mapM toUInt64 = .ok (some message.kafkaRequestId) :=
      mapM_toUInt64_eq_ok.mpr carried.requestId
    rw [ofJson_checked known converted carried.parentIntegral held named,
      mapM_toUInt64_eq_ok.mpr carried.parent]
    rfl

end

/-- The numbers that the parser converts are in the range of their types. -/
structure Convertible (members : Members Number) : Prop where
  requestId : ∀ id, requestId? members = some id → 0 ≤ id ∧ id < UInt64.size
  parent : Checked members → ∀ id, parentId? members = some id → 0 ≤ id ∧ id < UInt64.size

theorem ofJson_returns (known : root.members? = some members) :
    (∃ result, MigrationResponseMessage.ofJson root = .ok result) ↔ Convertible members := by
  constructor
  · rintro ⟨result, parsed⟩
    cases converted : (requestId? members).mapM toUInt64 with
    | error raised =>
      rw [MigrationResponseMessage.ofJson, parseKafkaRequestId_of_members known, converted] at parsed
      cases parsed
    | ok id =>
      refine ⟨mapM_toUInt64_returns.mp ⟨id, converted⟩, fun checked => ?_⟩
      obtain ⟨text, status, held, named⟩ := checked.status
      have requestId := mapM_toUInt64_eq_ok.mp converted
      cases id with
      | none => exact absurd checked.requestId (by rw [requestId]; exact Bool.false_ne_true)
      | some id =>
        rw [ofJson_checked known converted checked.parent held named] at parsed
        cases reading : (parentId? members).mapM toUInt64 with
        | error raised =>
          rw [reading] at parsed
          cases parsed
        | ok parent => exact mapM_toUInt64_returns.mp ⟨parent, reading⟩
  · intro convertible
    obtain ⟨id, converted⟩ := mapM_toUInt64_returns.mpr convertible.requestId
    by_cases checked : Checked members
    · obtain ⟨text, status, held, named⟩ := checked.status
      cases id with
      | none =>
        have requestId := mapM_toUInt64_eq_ok.mp converted
        exact absurd checked.requestId (by rw [requestId]; exact Bool.false_ne_true)
      | some id =>
        obtain ⟨parent, reading⟩ := mapM_toUInt64_returns.mpr (convertible.parent checked)
        refine ⟨some ⟨id, parent, status⟩, ?_⟩
        rw [ofJson_checked known converted checked.parent held named, reading]
        rfl
    · exact ⟨none, ofJson_unchecked known checked converted⟩

end MigrationResponseMessage

/-! ### Round trips -/

theorem writeIds_requestId (id : UInt64) (parent : Option UInt64) :
    (writeIds id parent : Members Number).lookup kKafkaRequestId = some (.whole id.toNat) := by
  cases parent <;> simp [writeIds, lookup_insertMember, kKafkaRequestId, kMigrationId]

theorem writeIds_parent (id : UInt64) (parent : Option UInt64) :
    integer? (writeIds id parent : Members Number) kMigrationId = parent.map fun id => (id.toNat : Int) := by
  cases parent <;>
    simp [writeIds, integer?_insertMember, integer?_nil, kKafkaRequestId, kMigrationId]

theorem integer?_writeUInt (name : String) (value : UInt32) (members : Members Number) (asked : String) :
    integer? (writeUInt name value members) asked =
      if asked = name then some (value.toNat : Int) else integer? members asked := by
  exact integer?_insertMember name value.toNat members asked

section Ids

variable {id : UInt64} {parent : Option UInt64}
variable (requestId : members.lookup kKafkaRequestId =
  (writeIds id parent : Members Number).lookup kKafkaRequestId)
variable (migrationId : members.lookup kMigrationId =
  (writeIds id parent : Members Number).lookup kMigrationId)

include requestId in
theorem requestId?_of_writeIds : requestId? members = some (id.toNat : Int) := by
  have held := requestId.trans (writeIds_requestId id parent)
  rw [requestId?, held, Option.isSome_some, if_pos rfl]
  exact integer?_whole held

include requestId migrationId in
theorem parentId?_of_writeIds : parentId? members = parent.map fun id => (id.toNat : Int) := by
  rw [parentId?, requestId, writeIds_requestId, Option.isSome_some, if_pos rfl,
    ← @writeIds_parent Number _ id parent, integer?, integer?, migrationId]

include migrationId in
theorem parentIntegral_of_writeIds : ParentIntegral members := by
  intro _ present
  have held := @writeIds_parent Number _ id parent
  rw [integer?, ← migrationId, ← integer?] at held
  rw [held]
  cases parent with
  | none =>
    rw [migrationId] at present
    simp [writeIds, lookup_insertMember, kKafkaRequestId, kMigrationId] at present
  | some parent => rfl

end Ids

theorem carriedBy_toJson (mrm : MigrationRequestMessage) : ∃ members : Members Number,
    mrm.toJson.members? = some members ∧ mrm.CarriedBy members := by
  have requestId : ∀ members : Members Number, mrm.toJson.members? = some members →
      members.lookup kKafkaRequestId =
        (writeIds mrm.kafkaRequestId mrm.migrationId).lookup kKafkaRequestId := by
    rintro _ ⟨⟩
    simp [writeUInt, lookup_insertMember, kKafkaRequestId, String.reduceEq]
  have migrationId : ∀ members : Members Number, mrm.toJson.members? = some members →
      members.lookup kMigrationId =
        (writeIds mrm.kafkaRequestId mrm.migrationId).lookup kMigrationId := by
    rintro _ ⟨⟩
    simp [writeUInt, lookup_insertMember, kMigrationId, String.reduceEq]
  refine ⟨_, rfl, requestId?_of_writeIds (requestId _ rfl),
    parentIntegral_of_writeIds (migrationId _ rfl), ?_⟩
  constructor
  case parent => exact parentId?_of_writeIds (requestId _ rfl) (migrationId _ rfl)
  all_goals simp only [integer?_writeUInt, String.reduceEq, if_true, if_false]

theorem responseCarriedBy_toJson (mrm : MigrationResponseMessage) : ∃ members : Members Number,
    mrm.toJson.members? = some members ∧ mrm.CarriedBy members := by
  have other : ∀ name, name ≠ "status" → (insertMember "status" (.string (toWire mrm.status))
      (writeIds mrm.kafkaRequestId mrm.migrationId : Members Number)).lookup name =
        (writeIds mrm.kafkaRequestId mrm.migrationId).lookup name :=
    fun name different => by rw [lookup_insertMember, if_neg different]
  have requestId := other kKafkaRequestId (by decide)
  have migrationId := other kMigrationId (by decide)
  exact ⟨_, rfl, requestId?_of_writeIds requestId, parentIntegral_of_writeIds migrationId,
    parentId?_of_writeIds requestId migrationId, toWire mrm.status,
    by rw [lookup_insertMember, if_pos rfl], fromWire_toWire mrm.status⟩

/-! ### Ranges -/

/-- The numeric members of a document, as far as it has them, fit their types. -/
def NumbersInRange (fields : List (String × Nat)) (members : Members Number) : Prop :=
  ∀ field ∈ fields, (members.lookup field.1).isSome → ∃ number,
    integer? members field.1 = some number ∧ 0 ≤ number ∧ number < field.2

def idFields : List (String × Nat) :=
  [(kKafkaRequestId, UInt64.size), (kMigrationId, UInt64.size)]

theorem idsInRange {id : UInt64} {parent : Option UInt64}
    (requestId : requestId? members = some (id.toNat : Int)) (integral : ParentIntegral members)
    (parentId : parentId? members = parent.map fun id => (id.toNat : Int)) :
    NumbersInRange idFields members := by
  have fits : ∀ id : UInt64, 0 ≤ (id.toNat : Int) ∧ (id.toNat : Int) < UInt64.size :=
    fun id => ⟨Int.natCast_nonneg _, Int.ofNat_lt.mpr id.toNat_lt⟩
  simp only [NumbersInRange, idFields, List.forall_mem_cons]
  refine ⟨fun present => ?_, fun present => ?_, nofun⟩
  · rw [requestId?, if_pos present] at requestId
    exact ⟨_, requestId, fits id⟩
  · by_cases new : (members.lookup kKafkaRequestId).isSome
    · obtain ⟨number, held⟩ := Option.isSome_iff_exists.mp (integral new present)
      rw [parentId?, if_pos new, held] at parentId
      cases parent with
      | none => cases parentId
      | some parent => exact ⟨number, held, Option.some.inj parentId ▸ fits parent⟩
    · rw [requestId?, if_neg new] at requestId
      exact ⟨_, requestId, fits id⟩

def MigrationRequestMessage.numericFields : List (String × Nat) :=
  idFields ++ requestFields.map fun field => (field, UInt32.size)

theorem MigrationRequestMessage.CarriedBy.inRange {message : MigrationRequestMessage}
    (carried : message.CarriedBy members) :
    NumbersInRange MigrationRequestMessage.numericFields members := by
  have fits : ∀ value : UInt32, 0 ≤ (value.toNat : Int) ∧ (value.toNat : Int) < UInt32.size :=
    fun value => ⟨Int.natCast_nonneg _, Int.ofNat_lt.mpr value.toNat_lt⟩
  have fields := carried.fields
  rintro field listed present
  rcases List.mem_append.mp listed with id | listed
  · exact idsInRange carried.requestId carried.parentIntegral fields.parent field id present
  · have held : ∀ name ∈ requestFields, ∃ number, integer? members name = some number ∧
        0 ≤ number ∧ number < UInt32.size := by
      simp only [requestFields, List.forall_mem_cons]
      exact ⟨⟨_, fields.srcSlot, fits _⟩, ⟨_, fields.dstSlot, fits _⟩,
        ⟨_, fields.layerBegin, fits _⟩, ⟨_, fields.layerEnd, fits _⟩,
        ⟨_, fields.srcPositionBegin, fits _⟩, ⟨_, fields.srcPositionEnd, fits _⟩,
        ⟨_, fields.dstPositionBegin, fits _⟩, ⟨_, fields.dstPositionEnd, fits _⟩, nofun⟩
    obtain ⟨name, known, rfl⟩ := List.mem_map.mp listed
    exact held name known

theorem MigrationResponseMessage.CarriedBy.inRange {message : MigrationResponseMessage}
    (carried : message.CarriedBy members) : NumbersInRange idFields members :=
  idsInRange carried.requestId carried.parentIntegral carried.parent

/-- In the old layout the one id is the request's. -/
theorem ids_of_old (old : members.lookup kKafkaRequestId = none) :
    requestId? members = integer? members kMigrationId ∧ ParentIntegral members ∧
      parentId? members = none := by
  refine ⟨?_, fun present => ?_, ?_⟩
  · rw [requestId?, old, Option.isSome_none, if_neg Bool.false_ne_true]
  · rw [old] at present
    cases present
  · rw [parentId?, old, Option.isSome_none, if_neg Bool.false_ne_true]

section Text

variable {Text : Type*} (parse : Text → Option (Document Number)) (write : Document Number → Text)

omit [JsonNumber Number] in
theorem parseMessage_of_reads {Message : Type} {ofJson : Document Number → Except JsonError (Option Message)}
    {json : Text} (reads : parse json = some root) :
    parseMessage parse ofJson json = ofJson root := by
  rw [parseMessage, reads]

theorem MigrationRequestMessage.ofJson_of_none (unknown : root.members? = none) :
    MigrationRequestMessage.ofJson root = .error .notObject := by
  rw [MigrationRequestMessage.ofJson, parseKafkaRequestId, isMember_of_none unknown]
  rfl

theorem MigrationResponseMessage.ofJson_of_none (unknown : root.members? = none) :
    MigrationResponseMessage.ofJson root = .error .notObject := by
  rw [MigrationResponseMessage.ofJson, parseKafkaRequestId, isMember_of_none unknown]
  rfl

section Parser

variable {Message : Type} {ofJson : Document Number → Except JsonError (Option Message)}
variable (raises : ∀ root : Document Number, root.members? = none → ofJson root = .error .notObject)

omit [JsonNumber Number] in
include raises in
/-- A message is read from an object. -/
theorem members_of_message {json : Text} {message : Message}
    (parsed : parseMessage parse ofJson json = .ok (some message)) : ∃ root members,
      parse json = some root ∧ root.members? = some members ∧ ofJson root = .ok (some message) := by
  unfold parseMessage at parsed
  split at parsed
  · cases parsed
  · rename_i root reads
    cases known : root.members? with
    | none =>
      rw [raises root known] at parsed
      cases parsed
    | some members => exact ⟨root, members, reads, known, parsed⟩

omit [JsonNumber Number] in
include raises in
theorem parseMessage_returns {convertible : Members Number → Prop}
    (returns : ∀ {root : Document Number} {members}, root.members? = some members →
      ((∃ result, ofJson root = .ok result) ↔ convertible members)) (json : Text) :
    (∃ result, parseMessage parse ofJson json = .ok result) ↔
      ∀ root, parse json = some root → ∃ members, root.members? = some members ∧
        convertible members := by
  unfold parseMessage
  split
  · rename_i unread
    constructor
    · intro _ root reads
      rw [unread] at reads
      cases reads
    · exact fun _ => ⟨none, rfl⟩
  · rename_i root reads
    constructor
    · rintro ⟨result, parsed⟩ other same
      rw [reads] at same
      cases same
      cases known : root.members? with
      | none =>
        rw [raises root known] at parsed
        cases parsed
      | some members => exact ⟨members, rfl, (returns known).mp ⟨result, parsed⟩⟩
    · intro all
      obtain ⟨members, known, fits⟩ := all root reads
      exact (returns known).mpr fits

end Parser

/-- The requests round trip, so do the responses; a message of the old layout is read with its id
and without a parent; a message is returned only if its numbers are in range. Each parser returns
exactly on what is no JSON and on an object whose numbers fit where they are converted. -/
theorem migration_messages_parse :
    (∀ mrm : MigrationRequestMessage, parse (write mrm.toJson) = some mrm.toJson →
      parseMigrationRequest parse (serializeRequest write mrm) = .ok (some mrm)) ∧
    (∀ mrm : MigrationResponseMessage, parse (write mrm.toJson) = some mrm.toJson →
      parseMigrationResponse parse (serializeResponse write mrm) = .ok (some mrm)) ∧
    (∀ json root members, parse json = some root → root.members? = some members →
      members.lookup kKafkaRequestId = none →
      (∀ message, parseMigrationRequest parse json = .ok (some message) ↔
        integer? members kMigrationId = some (message.kafkaRequestId.toNat : Int) ∧
          message.migrationId = none ∧ message.FieldsIn members) ∧
      ∀ message, parseMigrationResponse parse json = .ok (some message) ↔
        integer? members kMigrationId = some (message.kafkaRequestId.toNat : Int) ∧
          message.migrationId = none ∧ ∃ text, members.lookup "status" = some (.string text) ∧
            fromWire text = some message.status) ∧
    (∀ json message, parseMigrationRequest parse json = .ok (some message) →
      ∃ root members, parse json = some root ∧ root.members? = some members ∧
        NumbersInRange MigrationRequestMessage.numericFields members) ∧
    (∀ json message, parseMigrationResponse parse json = .ok (some message) →
      ∃ root members, parse json = some root ∧ root.members? = some members ∧
        NumbersInRange idFields members) ∧
    (∀ json, (∃ result, parseMigrationRequest parse json = .ok result) ↔
      ∀ root, parse json = some root → ∃ members, root.members? = some members ∧
        MigrationRequestMessage.Convertible members) ∧
    ∀ json, (∃ result, parseMigrationResponse parse json = .ok result) ↔
      ∀ root, parse json = some root → ∃ members, root.members? = some members ∧
        MigrationResponseMessage.Convertible members := by
  have requests := @MigrationRequestMessage.ofJson_of_none Number _
  have responses := @MigrationResponseMessage.ofJson_of_none Number _
  refine ⟨fun mrm reads => ?_, fun mrm reads => ?_, fun json root members reads known old =>
    ⟨fun message => ?_, fun message => ?_⟩, fun json message parsed => ?_,
    fun json message parsed => ?_, ?_, ?_⟩
  · obtain ⟨members, known, carried⟩ := @carriedBy_toJson Number _ mrm
    rw [parseMigrationRequest, serializeRequest, parseMessage_of_reads parse reads]
    exact (MigrationRequestMessage.ofJson_eq_ok_some known).mpr carried
  · obtain ⟨members, known, carried⟩ := @responseCarriedBy_toJson Number _ mrm
    rw [parseMigrationResponse, serializeResponse, parseMessage_of_reads parse reads]
    exact (MigrationResponseMessage.ofJson_eq_ok_some known).mpr carried
  · obtain ⟨requestId, integral, parentId⟩ := ids_of_old old
    rw [parseMigrationRequest, parseMessage_of_reads parse reads,
      MigrationRequestMessage.ofJson_eq_ok_some known, ← requestId]
    constructor
    · intro carried
      have parent := parentId.symm.trans carried.fields.parent
      exact ⟨carried.requestId, Option.map_eq_none_iff.mp parent.symm, carried.fields⟩
    · rintro ⟨held, _, fields⟩
      exact ⟨held, integral, fields⟩
  · obtain ⟨requestId, integral, parentId⟩ := ids_of_old old
    rw [parseMigrationResponse, parseMessage_of_reads parse reads,
      MigrationResponseMessage.ofJson_eq_ok_some known, ← requestId]
    constructor
    · intro carried
      have parent := parentId.symm.trans carried.parent
      exact ⟨carried.requestId, Option.map_eq_none_iff.mp parent.symm, carried.status⟩
    · rintro ⟨held, alone, status⟩
      exact ⟨held, integral, by rw [parentId, alone]; rfl, status⟩
  · obtain ⟨root, members, reads, known, parsed⟩ := members_of_message parse @requests parsed
    have carried := (MigrationRequestMessage.ofJson_eq_ok_some known).mp parsed
    exact ⟨root, members, reads, known, carried.inRange⟩
  · obtain ⟨root, members, reads, known, parsed⟩ := members_of_message parse @responses parsed
    have carried := (MigrationResponseMessage.ofJson_eq_ok_some known).mp parsed
    exact ⟨root, members, reads, known, carried.inRange⟩
  · exact parseMessage_returns parse @requests MigrationRequestMessage.ofJson_returns
  · exact parseMessage_returns parse @responses MigrationResponseMessage.ofJson_returns

end Text

/-- A producer that counts its requests in a signed number. -/
def negativeRequestId : Document Rat := .object [(kKafkaRequestId, .number (-1))]

def negativeText : String := "\x7b\"kafka_request_id\":-1\x7d"

def readsNegative (text : String) : Option (Document Rat) :=
  if text = negativeText then some negativeRequestId else none

theorem parser_throws :
    ¬ ∀ json, ∃ result, parseMigrationRequest readsNegative json = .ok result := by
  intro returns
  obtain ⟨result, parsed⟩ := returns negativeText
  rw [parseMigrationRequest, parseMessage_of_reads readsNegative (if_pos rfl)] at parsed
  have convertible := (MigrationRequestMessage.ofJson_returns rfl).mp ⟨result, parsed⟩
  have negative : requestId? ([(kKafkaRequestId, .number (-1))] : Members Rat) = some (-1) := by decide +kernel
  exact absurd (convertible.requestId _ negative).1 (by decide)

end InferenceServer.Messaging
