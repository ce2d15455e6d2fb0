import InferenceServer.Machine.Dict
import InferenceServer.Machine.PythonValue

/-! Chat completions as the tool-call suite reads them: a streamed one is put together from its
deltas, a plain one is taken apart, and the arguments of the tool are selected in either. -/
namespace InferenceServer.ToolCallSchema
open Machine

inductive Cause
  | noToolCall
  | wrongToolName
  | invalidJson
  | httpError
  | malformedResponse
  deriving DecidableEq

/-- A `ResponseError`, or any other exception. -/
inductive Failure
  | responseError (cause : Cause) (message : String)
  | raised
  deriving DecidableEq

/-- What the language makes of bytes and of JSON; `loads` refuses with a message. -/
structure JsonTexts (Double : Type) where
  decode : List UInt8 → String
  loads : String → Except String (PyValue Double)
  dumps : PyValue Double → String
  dumpsUnicode : PyValue Double → String
  repr : PyValue Double → String

def toolName : String := "kvv_walle_case"

structure Slot where
  name : String := ""
  arguments : String := ""

structure Call (Double : Type) where
  name : PyValue Double
  arguments : PyValue Double

structure Completion (Double : Type) where
  content : PyValue Double
  toolCalls : List (Call Double)
  finishReason : PyValue Double
  chunks : Option Nat := none

inductive RawLine
  | bytes (raw : List UInt8)
  | text (raw : String)

variable {Double : Type}

/-- `value.get(key)`, which only a dictionary has. -/
def member (value : PyValue Double) (key : String) : Except Failure (PyValue Double) :=
  match value.entries? with
  | some entries => .ok ((entries.lookup key).getD .none)
  | none => .error .raised

/-- `value[0]` -/
def firstItem : PyValue Double → Except Failure (PyValue Double)
  | .list (item :: _) => .ok item
  | .str text =>
    match text.toList with
    | letter :: _ => .ok (.str (String.ofList [letter]))
    | [] => .error .raised
  | _ => .error .raised

variable [Python Double]

def items (value : PyValue Double) : Except Failure (List (PyValue Double)) :=
  match value.items? with
  | some items => .ok items
  | none => .error .raised

def toInt (value : PyValue Double) : Except Failure Int :=
  match value.whole? with
  | some whole => .ok whole
  | none => .error .raised

/-- Servers send a name in pieces or repeat it on every delta. -/
def mergeName (built : String) : PyValue Double → String
  | .str name => if name ≠ "" ∧ built ≠ name then built ++ name else built
  | _ => built

def mergeArguments (built : String) : PyValue Double → String
  | .str arguments => built ++ arguments
  | _ => built

/-- The body of the loop over the tool calls of a delta. -/
def mergeCall (toolCalls : Dict Int Slot) (tc : PyValue Double) : Except Failure (Dict Int Slot) := do
  let index ← toInt ((← member tc "index").orElse (.int 0))
  let slot := (toolCalls.lookup index).getD {}
  let fn := (← member tc "function").orElse (.mapping [])
  let name ← member fn "name"
  let arguments ← member fn "arguments"
  return toolCalls.set index
    { name := mergeName slot.name name, arguments := mergeArguments slot.arguments arguments }

structure Stream (Double : Type) where
  contentParts : List String := []
  toolCalls : Dict Int Slot := Dict.empty
  finishReason : PyValue Double := .none
  chunks : Nat := 0

def addContent (parts : List String) : PyValue Double → List String
  | .str text => parts ++ [text]
  | _ => parts

/-- The rest of the loop body once the chunk is an object without an error. -/
def readChunk (stream : Stream Double) (chunk : PyValue Double) : Except Failure (Stream Double) := do
  let stream := { stream with chunks := stream.chunks + 1 }
  let choices := (← member chunk "choices").orElse (.list [])
  if ¬ choices.truthy then return stream
  let choice ← firstItem choices
  let delta := (← member choice "delta").orElse (.mapping [])
  let contentParts := addContent stream.contentParts (← member delta "content")
  let calls ← items ((← member delta "tool_calls").orElse (.list []))
  let toolCalls ← calls.foldlM mergeCall stream.toolCalls
  let finishReason := (← member choice "finish_reason").orElse stream.finishReason
  return { stream with contentParts, toolCalls, finishReason }

variable (json : JsonTexts Double)

def RawLine.line : RawLine → String
  | .bytes raw => json.decode raw
  | .text raw => raw

variable (Double) in
/-- The data of an event; other lines are skipped. -/
def eventData (line : String) : Option String :=
  if "data:".toList <+: line.toList then
    some (Python.strip Double (String.ofList (line.toList.drop 5)))
  else none

def readLines (stream : Stream Double) : List RawLine → Except Failure (Stream Double)
  | [] => .ok stream
  | raw :: rest =>
    match eventData Double (RawLine.line json raw) with
    | none => readLines stream rest
    | some data =>
      if data = "[DONE]" then .ok stream
      else
        match json.loads data with
        | .error msg => .error (.responseError .malformedResponse
            ("stream chunk is not valid JSON (" ++ msg ++ "): " ++ data))
        | .ok chunk =>
          match chunk.entries? with
          | none => readLines stream rest
          | some _ =>
            if (chunk.get "error").truthy then
              .error (.responseError .httpError ("stream error event: " ++ json.dumps chunk))
            else do
              let stream ← readChunk stream chunk
              readLines stream rest

def reassembleStream (lines : List RawLine) : Except Failure (Completion Double) := do
  let stream ← readLines json {} lines
  let order := stream.toolCalls.keys.mergeSort (· ≤ ·)
  return {
    content := .str (String.join stream.contentParts)
    toolCalls := (order.filterMap stream.toolCalls.lookup).map fun slot =>
      ⟨.str slot.name, .str slot.arguments⟩
    finishReason := stream.finishReason
    chunks := some stream.chunks }

/-- A tool call of a message. -/
def parseCall (tc : PyValue Double) : Except Failure (Call Double) := do
  let fn := (← member (tc.orElse (.mapping [])) "function").orElse (.mapping [])
  return ⟨← member fn "name", ← member fn "arguments"⟩

def parseCompletion (body : PyValue Double) : Except Failure (Completion Double) := do
  if body.entries?.isNone then
    throw (.responseError .malformedResponse ("response body is not an object: " ++ json.repr body))
  let choices := (← member body "choices").orElse (.list [])
  let missing := Failure.responseError .malformedResponse
    ("response has no choices: " ++ json.dumpsUnicode body)
  if ¬ choices.truthy then throw missing
  let choice ← firstItem choices
  if choice.entries?.isNone then throw missing
  let message := (← member choice "message").orElse (.mapping [])
  let calls ← items ((← member message "tool_calls").orElse (.list []))
  let toolCalls ← calls.mapM parseCall
  return {
    content := (← member message "content").orElse (.str "")
    toolCalls
    finishReason := ← member choice "finish_reason" }

/-- The arguments of the first call of the tool. -/
def selectIn (toolCalls : List (Call Double)) : List (Call Double) → Except Failure String
  | [] => .error (.responseError .wrongToolName
      ("response did not call " ++ toolName ++ "; tool_calls names: " ++
        ", ".intercalate (toolCalls.map fun call => json.repr call.name)))
  | call :: rest =>
    if call.name.isText toolName then
      match call.arguments with
      | .none => .error (.responseError .invalidJson
          ("tool call " ++ toolName ++ " did not include function.arguments"))
      | .str arguments => .ok arguments
      | arguments => .ok (json.dumpsUnicode arguments)
    else selectIn toolCalls rest

def selectToolArguments (completion : Completion Double) : Except Failure String :=
  if completion.toolCalls.isEmpty then
    .error (.responseError .noToolCall
      ("response did not include tool_calls (finish_reason=" ++ completion.finishReason.text ++
        "); content=" ++ json.repr completion.content))
  else selectIn json completion.toolCalls completion.toolCalls

end InferenceServer.ToolCallSchema
