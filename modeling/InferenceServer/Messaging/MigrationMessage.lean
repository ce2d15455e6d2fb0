import InferenceServer.Machine.Json
import InferenceServer.RemoteKv.StatusTable

/-! The messages of a migration as JSON. Two layouts share a name: `migration_id` was the request
id once and is the parent of a request now. A number is checked to be integral and converted to
its machine type without a look at its range. -/
namespace InferenceServer.Messaging

open Machine RemoteKv

/-- A request of one layer; its positions are half-open ranges. -/
structure MigrationRequestMessage where
  kafkaRequestId : UInt64
  migrationId : Option UInt64
  srcSlot : UInt32
  dstSlot : UInt32
  layerBegin : UInt32
  layerEnd : UInt32
  srcPositionBegin : UInt32
  srcPositionEnd : UInt32
  dstPositionBegin : UInt32
  dstPositionEnd : UInt32

structure MigrationResponseMessage where
  kafkaRequestId : UInt64
  migrationId : Option UInt64
  status : MigrationStatus

abbrev Document (Number : Type) := Json Number String

abbrev Members (Number : Type) := Json.Members Number String

variable {Number : Type} [JsonNumber Number] (root : Document Number)

def kKafkaRequestId : String := "kafka_request_id"

def kMigrationId : String := "migration_id"

def toWire : MigrationStatus → String
  | .unknown => "UNKNOWN"
  | .inProgress => "IN_PROGRESS"
  | .successful => "SUCCESSFUL"
  | .failed => "FAILED"

theorem fromWire_toWire (status : MigrationStatus) : fromWire (toWire status) = some status := by
  cases status <;> rfl

/-- The ids that both messages start with. -/
def writeIds (kafkaRequestId : UInt64) (migrationId : Option UInt64) : Members Number :=
  let root := Json.insertMember kKafkaRequestId (.whole kafkaRequestId.toNat) []
  match migrationId with
  | some id => Json.insertMember kMigrationId (.whole id.toNat) root
  | none => root

def writeUInt (name : String) (value : UInt32) (root : Members Number) : Members Number :=
  Json.insertMember name (.whole value.toNat) root

def MigrationRequestMessage.toJson (mrm : MigrationRequestMessage) : Document Number :=
  .object <|
    writeUInt "dst_position_end" mrm.dstPositionEnd <|
    writeUInt "dst_position_begin" mrm.dstPositionBegin <|
    writeUInt "src_position_end" mrm.srcPositionEnd <|
    writeUInt "src_position_begin" mrm.srcPositionBegin <|
    writeUInt "layer_end" mrm.layerEnd <|
    writeUInt "layer_begin" mrm.layerBegin <|
    writeUInt "dst_slot" mrm.dstSlot <|
    writeUInt "src_slot" mrm.srcSlot <|
    writeIds mrm.kafkaRequestId mrm.migrationId

def MigrationResponseMessage.toJson (mrm : MigrationResponseMessage) : Document Number :=
  .object <| Json.insertMember "status" (.string (toWire mrm.status)) <|
    writeIds mrm.kafkaRequestId mrm.migrationId

/-- The id of the request: the old layout has it under the name of the parent. -/
def parseKafkaRequestId : Except JsonError (Option UInt64) := do
  if (← root.isMember kKafkaRequestId) && (← root.get kKafkaRequestId).isIntegral then
    return some (← (← root.get kKafkaRequestId).asUInt64)
  if !(← root.isMember kKafkaRequestId) && (← root.isMember kMigrationId) &&
      (← root.get kMigrationId).isIntegral then
    return some (← (← root.get kMigrationId).asUInt64)
  return none

/-- The parent, which only the new layout has. -/
def parseParentMigrationId : Except JsonError (Option UInt64) := do
  if !(← root.isMember kKafkaRequestId) || !(← root.isMember kMigrationId) then
    return none
  if !(← root.get kMigrationId).isIntegral then
    return none
  return some (← (← root.get kMigrationId).asUInt64)

/-- Both parsers refuse a parent that is no integer. -/
def parentRefused : Except JsonError Bool := do
  return (← root.isMember kKafkaRequestId) && (← root.isMember kMigrationId) &&
    !(← root.get kMigrationId).isIntegral

def requestFields : List String :=
  ["src_slot", "dst_slot", "layer_begin", "layer_end", "src_position_begin", "src_position_end",
    "dst_position_begin", "dst_position_end"]

def integralField (field : String) : Except JsonError Bool := do
  return (← root.isMember field) && (← root.get field).isIntegral

def readUInt (field : String) : Except JsonError UInt32 := do
  (← root.get field).asUInt

/-- The message, once every field is known to be an integer. -/
def MigrationRequestMessage.read (kafkaRequestId : UInt64) :
    Except JsonError MigrationRequestMessage := do
  return {
    kafkaRequestId := kafkaRequestId
    migrationId := ← parseParentMigrationId root
    srcSlot := ← readUInt root "src_slot"
    dstSlot := ← readUInt root "dst_slot"
    layerBegin := ← readUInt root "layer_begin"
    layerEnd := ← readUInt root "layer_end"
    srcPositionBegin := ← readUInt root "src_position_begin"
    srcPositionEnd := ← readUInt root "src_position_end"
    dstPositionBegin := ← readUInt root "dst_position_begin"
    dstPositionEnd := ← readUInt root "dst_position_end" }

def MigrationRequestMessage.ofJson :
    Except JsonError (Option MigrationRequestMessage) := do
  match ← parseKafkaRequestId root with
  | none => return none
  | some kafkaRequestId =>
    if ← parentRefused root then
      return none
    if !(← requestFields.allM (integralField root)) then
      return none
    return some (← MigrationRequestMessage.read root kafkaRequestId)

def MigrationResponseMessage.ofJson :
    Except JsonError (Option MigrationResponseMessage) := do
  match ← parseKafkaRequestId root, ← root.get "status" with
  | some kafkaRequestId, .string text =>
    if ← parentRefused root then
      return none
    match fromWire text with
    | none => return none
    | some status =>
      return some {
        kafkaRequestId := kafkaRequestId
        migrationId := ← parseParentMigrationId root
        status := status }
  | _, _ => return none

section Text

variable {Text : Type*} (parse : Text → Option (Document Number)) (write : Document Number → Text)

def serializeRequest (mrm : MigrationRequestMessage) : Text := write mrm.toJson

def serializeResponse (mrm : MigrationResponseMessage) : Text := write mrm.toJson

/-- A text that is no JSON is no message. -/
def parseMessage {Message : Type} (ofJson : Document Number → Except JsonError (Option Message))
    (json : Text) : Except JsonError (Option Message) :=
  match parse json with
  | none => .ok none
  | some root => ofJson root

def parseMigrationRequest : Text → Except JsonError (Option MigrationRequestMessage) :=
  parseMessage parse MigrationRequestMessage.ofJson

def parseMigrationResponse : Text → Except JsonError (Option MigrationResponseMessage) :=
  parseMessage parse MigrationResponseMessage.ofJson

end Text

end InferenceServer.Messaging
