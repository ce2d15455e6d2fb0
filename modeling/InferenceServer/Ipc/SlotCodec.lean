import InferenceServer.Machine.ByteMemory
import InferenceServer.Machine.Span
import InferenceServer.Machine.Utf8
import Mathlib.Data.List.DropRight

/-! How the fields of a message are packed into a slot of the ring in shared memory, and read
from it. Strings are cut to the bytes of their field. -/
namespace InferenceServer.Ipc
open Machine Machine.Utf8

abbrev Characters := List CodePoint

/-- The buffer after the packing, or where the packing raised. -/
abbrev Packed := ByteMemory.Outcome

/-- What `struct` makes of a float in 32 bits, and of the bits; a float too large raises. -/
structure FloatFormat (Scale : Type) where
  pack : Scale → Option UInt32
  unpack : UInt32 → Scale

inductive VideoStatus
  | success
  | error
  deriving DecidableEq

def VideoStatus.toInt : VideoStatus → Int
  | .success => 0
  | .error => 1

def VideoStatus.ofWord : Nat → Option VideoStatus
  | 0 => some .success
  | 1 => some .error
  | _ => none

structure VideoRequest (Scale : Type) where
  taskId : Characters
  prompt : Characters
  negativePrompt : Characters
  numInferenceSteps : Int
  seed : Int
  height : Int
  width : Int
  numFrames : Int
  guidanceScale : Scale
  guidanceScale2 : Scale
  imagePath : Characters
  deriving DecidableEq

structure VideoResponse where
  taskId : Characters
  status : VideoStatus
  filePath : Characters
  errorMessage : Characters
  deriving DecidableEq

namespace SlotCodec

def taskIdSize : Nat := 36
def maxPromptLen : Nat := 2048
def maxNegPromptLen : Nat := 512
def maxErrorLen : Nat := 256
def maxFilePathLen : Nat := 256
def maxImagePathLen : Nat := 256

def empty : Nat := 0
def filled : Nat := 1

def inState : Nat := 0
def inTaskId : Nat := 4
def inPromptLen : Nat := 40
def inPrompt : Nat := 44
def inNegPromptLen : Nat := 2092
def inNegPrompt : Nat := 2096
def inNumInferenceSteps : Nat := 2608
def inSeed : Nat := 2612
def inHeight : Nat := 2620
def inWidth : Nat := 2624
def inNumFrames : Nat := 2628
def inGuidanceScale : Nat := 2632
def inGuidanceScale2 : Nat := 2636
def inImagePathLen : Nat := 2640
def inImagePath : Nat := 2644
def inputSlotSize : Nat := 2644 + maxImagePathLen

def outState : Nat := 0
def outTaskId : Nat := 4
def outStatus : Nat := 40
def outErrorLen : Nat := 44
def outError : Nat := 48
def outFilePathLen : Nat := 48 + maxErrorLen
def outFilePath : Nat := 48 + maxErrorLen + 4
def outputSlotSize : Nat := outFilePath + maxFilePathLen

/-- The bytes of `struct.pack("<I", value)`. -/
def uint32 (value : Int) : Option (List UInt8) :=
  if 0 ≤ value ∧ value < 2 ^ 32 then some (littleEndian 4 value.toNat) else none

/-- The bytes of `struct.pack("<q", value)`. -/
def int64 (value : Int) : Option (List UInt8) :=
  if -2 ^ 63 ≤ value ∧ value < 2 ^ 63 then some (littleEndian 8 (value % 2 ^ 64).toNat) else none

section Floats

variable {Scale : Type} (float : FloatFormat Scale)

/-- The bytes of `struct.pack("<f", value)`. -/
def float32 (value : Scale) : Option (List UInt8) :=
  (float.pack value).map fun bits => littleEndian 4 bits.toNat

def unpackFloat32 (buf : ByteMemory) (offset : Nat) : Scale :=
  float.unpack (UInt32.ofNat (fromLittleEndian (buf.read offset 4)))

end Floats

variable (buf : ByteMemory) (offset : Nat)

/-- `struct.pack_into` -/
def packInto : Option (List UInt8) → Packed
  | some bytes => .ok (buf.write offset bytes)
  | none => .error buf

def unpackUInt32 : Nat := fromLittleEndian (buf.read offset 4)

/-- Two's complement in 64 bits. -/
def unpackInt64 : Int :=
  let value : Int := fromLittleEndian (buf.read offset 8)
  if value < 2 ^ 63 then value else value - 2 ^ 64

/-- A string of the characters that were decoded. -/
def ofDecoded (values : List Nat) : Characters := values.map (Fin.ofNat _)

def packTaskId (taskId : Characters) : Packed :=
  packInto buf offset ((encode taskId).map fun raw => (raw.take taskIdSize).rightpad taskIdSize 0)

/-- `decode("utf-8").rstrip("\x00")` -/
def unpackTaskId : Option Characters :=
  (decodeStrict (buf.read offset taskIdSize)).map fun values =>
    (ofDecoded values).rdropWhile (· = 0)

/-- A string that is too long is cut and decoded again without what the cut left over. -/
def stringBytes (text : Characters) (maxLen : Nat) : Option (List UInt8) := do
  let raw ← encode text
  if raw.length > maxLen then encode (ofDecoded (decodeIgnore (raw.take maxLen))) else some raw

def packString (lenOffset dataOffset : Nat) (text : Characters) (maxLen : Nat) : Packed :=
  match stringBytes text maxLen with
  | none => .error buf
  | some raw => do
    let buf ← packInto buf lenOffset (uint32 raw.length)
    return buf.write dataOffset (raw.rightpad maxLen 0)

def unpackString (lenOffset dataOffset : Nat) : Option Characters :=
  (decodeStrict (buf.read dataOffset (unpackUInt32 buf lenOffset))).map ofDecoded

variable {Scale : Type} (float : FloatFormat Scale)

/-- The part of `write_request` between the wait for the slot and the flip of its state. -/
def packRequest (buf : ByteMemory) (off : Nat) (request : VideoRequest Scale) : Packed := do
  let buf ← packTaskId buf (off + inTaskId) request.taskId
  let buf ← packString buf (off + inPromptLen) (off + inPrompt) request.prompt maxPromptLen
  let buf ← packString buf (off + inNegPromptLen) (off + inNegPrompt) request.negativePrompt
    maxNegPromptLen
  let buf ← packInto buf (off + inNumInferenceSteps) (uint32 request.numInferenceSteps)
  let buf ← packInto buf (off + inSeed) (int64 request.seed)
  let buf ← packInto buf (off + inHeight) (uint32 request.height)
  let buf ← packInto buf (off + inWidth) (uint32 request.width)
  let buf ← packInto buf (off + inNumFrames) (uint32 request.numFrames)
  let buf ← packInto buf (off + inGuidanceScale) (float32 float request.guidanceScale)
  let buf ← packInto buf (off + inGuidanceScale2) (float32 float request.guidanceScale2)
  packString buf (off + inImagePathLen) (off + inImagePath) request.imagePath maxImagePathLen

def unpackRequest (buf : ByteMemory) (off : Nat) : Option (VideoRequest Scale) := do
  let taskId ← unpackTaskId buf (off + inTaskId)
  let prompt ← unpackString buf (off + inPromptLen) (off + inPrompt)
  let negativePrompt ← unpackString buf (off + inNegPromptLen) (off + inNegPrompt)
  let numInferenceSteps := unpackUInt32 buf (off + inNumInferenceSteps)
  let seed := unpackInt64 buf (off + inSeed)
  let height := unpackUInt32 buf (off + inHeight)
  let width := unpackUInt32 buf (off + inWidth)
  let numFrames := unpackUInt32 buf (off + inNumFrames)
  let guidanceScale := unpackFloat32 float buf (off + inGuidanceScale)
  let guidanceScale2 := unpackFloat32 float buf (off + inGuidanceScale2)
  let imagePath ← unpackString buf (off + inImagePathLen) (off + inImagePath)
  return { taskId, prompt, negativePrompt, numInferenceSteps, seed, height, width, numFrames,
           guidanceScale, guidanceScale2, imagePath }

def packResponse (buf : ByteMemory) (off : Nat) (response : VideoResponse) : Packed := do
  let buf ← packTaskId buf (off + outTaskId) response.taskId
  let buf ← packInto buf (off + outStatus) (uint32 response.status.toInt)
  let buf ← packString buf (off + outErrorLen) (off + outError) response.errorMessage maxErrorLen
  packString buf (off + outFilePathLen) (off + outFilePath) response.filePath maxFilePathLen

def unpackResponse (buf : ByteMemory) (off : Nat) : Option VideoResponse := do
  let taskId ← unpackTaskId buf (off + outTaskId)
  let status ← VideoStatus.ofWord (unpackUInt32 buf (off + outStatus))
  let errorMessage ← unpackString buf (off + outErrorLen) (off + outError)
  let filePath ← unpackString buf (off + outFilePathLen) (off + outFilePath)
  return { taskId, status, filePath, errorMessage }

end SlotCodec

end InferenceServer.Ipc
