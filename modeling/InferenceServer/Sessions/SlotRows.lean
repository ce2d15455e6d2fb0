import InferenceServer.PrefixCache.RegisteredBlocks
import InferenceServer.Sessions.Acquisition
import InferenceServer.Sessions.IndexAgreement

/-! What the slots hold while requests go on with sessions and copy slots. A request that goes on
with a session leaves valid what it has in common with it; its prefill writes the rest. The slot of
a new session is empty, or a copy of another. -/
namespace InferenceServer.Sessions
open Machine PrefixCache Pipeline

/-- A request that has got a slot: the blocks of its prompt, and how many of them it takes to be
there. -/
structure SlotTurn where
  number : Nat := 0
  sessionId : String
  slotId : UInt32
  blocks : List BlockHashInfo
  credited : Nat
  deriving DecidableEq

/-- The blocks whose KV rows each slot holds, up to the first that is not valid, and the last
request on each slot. Requests are numbered. -/
structure SlotRows where
  manager : SessionManager := {}
  rows : UInt32 → List BlockHashInfo := fun _ => []
  turns : Table UInt32 SlotTurn := ∅
  started : Nat := 0

/-- Calls of the session manager, the end of a prefill with the rows that it has written, and
what a request does with its session at its end. -/
inductive SlotEvent
  | call (operation : Operation)
  | prefillComplete (turn : SlotTurn) (written : List BlockHashInfo)
  | finalizeAndRegisterHashes (turn : SlotTurn) (allBlocks : List BlockHashInfo)
  | setResidentPrefixBlocks (turn : SlotTurn)

/-- What only the requests on a session do, and a creation that no caller asks for. -/
def Operation.Internal : Operation → Bool
  | registerPrefixHash .. | setResidentPrefixBlocks .. | finalizeAndRegisterHashes ..
  | createSession _ _ (some _) _ => true
  | _ => false

def Caller.copyMatchedTokens : Caller → Nat
  | other => 0
  | getSlot _ _ copyMatchedTokens | decodeDestinationSlot _ copyMatchedTokens
  | prefillSession _ copyMatchedTokens => copyMatchedTokens

/-- The session that a request has got, with its slot. -/
def Answer.slot? : Answer → Option (String × UInt32)
  | slot result => some (result.sessionId, result.slotId)
  | decodeSlot reserved => some (reserved.sessionId, reserved.slotId)
  | prefill acquired => some (acquired.sessionId, acquired.prefillSlotId)
  | session | inFlight | failed => none

namespace SessionManager

/-- How many blocks of a prompt are registered for the session. -/
def matchedBlocks (manager : SessionManager) (sessionId : String) (blocks : List BlockHashInfo) :
    Nat :=
  match blocks with
  | [] => 0
  | front :: _ => (computeMatchedBlocksForSession sessionId blocks
      (manager.prefixIndex.entries front.hash)).1

variable (config : SessionConfig)

/-- What a call answers a request with. -/
def answer (manager : SessionManager) : Operation → Option Answer
  | .getSlot blocks opts creation =>
    match (manager.getSlot config blocks opts creation).2 with
    | .resolved result => some (.slot result)
    | _ => none
  | .resolveDecodeDestinationSlot registrationHashes previousResponseId creation =>
    match (manager.resolveDecodeDestinationSlot config registrationHashes previousResponseId
        creation).2 with
    | .resolved slot => some (.decodeSlot slot)
    | _ => none
  | .resolvePrefillSession routingHashes promptTokens creation =>
    match (manager.resolvePrefillSession config routingHashes promptTokens creation).2 with
    | .resolved session => some (.prefill session)
    | _ => none
  | .runCallback sessionId => (manager.runCallback sessionId).2
  | _ => none

/-- The blocks of the request's prompt and how many are there: those that it has copied, or else
those that it has in common with the session. -/
def promptOf (manager : SessionManager) (sessionId : String) :
    Operation → List BlockHashInfo × Nat
  | .runCallback allocated =>
    match manager.allocations.lookup allocated with
    | none => ([], 0)
    | some allocation => (allocation.caller.blocks,
      tokensToBlocks config.sizes allocation.caller.copyMatchedTokens)
  | operation => (operation.blocks, manager.matchedBlocks sessionId operation.blocks)

def turnOf (manager : SessionManager) (operation : Operation) : Option SlotTurn :=
  ((manager.answer config operation).bind Answer.slot?).map fun (sessionId, slotId) =>
    { sessionId
      slotId
      blocks := (manager.promptOf config sessionId operation).1
      credited := (manager.promptOf config sessionId operation).2 }

/-- The slot that a new session gets, and the slot that it is a copy of. -/
def grantOf (manager : SessionManager) : Operation → Option (UInt32 × Option UInt32)
  | .handleMemoryResult sessionId (some slotId) =>
    match manager.allocations.lookup sessionId with
    | none => none
    | some allocation =>
      if allocation.stage = .requested ∧ slotId ≠ invalidSlotId then
        some (slotId, allocation.slotIdToCopyFrom)
      else none
  | _ => none

end SessionManager

/-- Rows are written from a block on. Behind a gap they do not count. -/
def overwrite (rows : List BlockHashInfo) (first : Nat) (written : List BlockHashInfo) :
    List BlockHashInfo :=
  if first ≤ rows.length then rows.take first ++ written.drop first else rows

/-- The think rows before the end of these blocks. -/
def thinkRows (blocks : List BlockHashInfo) : Nat :=
  (blocks.getLast?.map BlockHashInfo.accumulatedThinkTokens).getD 0

namespace SlotRows

variable (state : SlotRows) (turn : SlotTurn)

/-- The leading blocks of a prompt that the slot holds. -/
def heldBlocks (slotId : UInt32) (blocks : List BlockHashInfo) : Nat :=
  commonPrefix (blockHashes (state.rows slotId)) (blockHashes blocks)

def grant (slotId : UInt32) (slotIdToCopyFrom : Option UInt32) : SlotRows :=
  { state with
    rows := Function.update state.rows slotId ((slotIdToCopyFrom.map state.rows).getD [])
    turns := state.turns.erase slotId }

/-- The rows that the request is not credited with are going to be overwritten. -/
def start : SlotRows :=
  { state with
    rows := Function.update state.rows turn.slotId
      ((state.rows turn.slotId).take turn.credited)
    turns := state.turns.insert turn.slotId { turn with number := state.started }
    started := state.started + 1 }

def write (first : Nat) (written : List BlockHashInfo) : SlotRows :=
  { state with
    rows := Function.update state.rows turn.slotId
      (overwrite (state.rows turn.slotId) first written) }

/-- The request is over; it may no longer have been the last on its slot. -/
def finish : SlotRows :=
  if state.turns.lookup turn.slotId = some turn then
    { state with turns := state.turns.erase turn.slotId }
  else state

def perform (config : SessionConfig) (state : SlotRows) (operation : Operation) : SlotRows :=
  let granted := (state.manager.grantOf operation).elim state fun grant => state.grant grant.1 grant.2
  { (state.manager.turnOf config operation).elim granted granted.start with
    manager := state.manager.perform config operation }

/-- A prefill writes the blocks of its prompt. A generation goes on behind them, and its blocks
are hashed with those of the prompt. -/
def step (config : SessionConfig) (state : SlotRows) : SlotEvent → Option SlotRows
  | .call operation => if operation.Internal then none else some (state.perform config operation)
  | .prefillComplete turn written =>
    if blockHashes written = blockHashes turn.blocks then
      some (state.write turn turn.credited written)
    else none
  | .finalizeAndRegisterHashes turn allBlocks =>
    if blockHashes turn.blocks <+: blockHashes allBlocks then
      some { (state.write turn turn.blocks.length allBlocks).finish turn with
        manager := state.manager.finalizeAndRegisterHashes turn.sessionId allBlocks }
    else none
  | .setResidentPrefixBlocks turn =>
    some { state.finish turn with
      manager := state.manager.setResidentPrefixBlocks turn.sessionId turn.blocks.length }

end SlotRows

end InferenceServer.Sessions
