import InferenceServer.Disaggregation.DecodeStreams

/-! The streams of an LLM service and the depth of its queue. Requests register a callback, consumer
threads hand it the tokens of the workers, and an abort takes it away. The number of streams is kept
in a counter of its own. A step is one call of the map, one update of the counter, one push or one
call of a callback. -/
namespace InferenceServer.Services
open Machine
open Disaggregation (TaskId StreamCallback LLMErrorReason LLMStreamChunk makeErrorChunk
  makeAbortChunk)

structure SharedToken where
  taskId : TaskId
  tokenId : UInt32 := 0
  flags : UInt32 := 0
  deriving DecidableEq

namespace SharedToken

def flagFinal : UInt32 := 1
def flagError : UInt32 := 2
def flagAbort : UInt32 := 8
def flagTimeout : UInt32 := 16

variable (token : SharedToken)

def isFinal : Bool := token.flags &&& flagFinal ≠ 0
def isError : Bool := token.flags &&& flagError ≠ 0
def isAbort : Bool := token.flags &&& flagAbort ≠ 0
def isTimeout : Bool := token.flags &&& flagTimeout ≠ 0

end SharedToken

def errorReasonFromToken (token : SharedToken) : LLMErrorReason :=
  if token.isTimeout then .timeout else .generic

structure StreamCallbackEntry where
  callback : StreamCallback
  skipTextDecode : Bool := false
  deriving DecidableEq

variable (stopTokenSet : List UInt32)

def buildStreamChunk (token : SharedToken) (delta : String) :
    LLMStreamChunk where
  taskId := token.taskId
  text := delta
  finishReason :=
    if token.isFinal then some (if token.tokenId ∈ stopTokenSet then "stop" else "length")
    else none

/-- What a callback is given for a token. -/
def chunkFor (entry : StreamCallbackEntry) (token : SharedToken) (delta : String) :
    LLMStreamChunk :=
  if token.isAbort then makeAbortChunk token.taskId
  else if token.isError then
    makeErrorChunk token.taskId
      (if errorReasonFromToken token = .timeout then "runner timeout"
        else "runner reported error") (errorReasonFromToken token)
  else buildStreamChunk stopTokenSet token (if entry.skipTextDecode then "" else delta)

/-- A call of a callback. -/
structure Invocation where
  callback : StreamCallback
  chunk : LLMStreamChunk
  isFinal : Bool
  deriving DecidableEq

/-- Beside the source's fields, the task ids that were submitted, the number of callbacks that were
registered, and the calls of these. -/
structure LlmStreams where
  pendingTasks : UInt64 := 0
  streamCallbacks : Table TaskId StreamCallbackEntry := ∅
  taskQueue : List TaskId := []
  cancelQueue : List TaskId := []
  submitted : List TaskId := []
  registrations : Nat := 0
  invocations : List Invocation := []

/-- The text that a decoder makes of a token is given. -/
inductive StreamCall
  | produceStream (taskId : TaskId) (skipTextDecode : Bool)
  | token (token : SharedToken) (delta : String)
  | abortRequest (taskId : TaskId)
  deriving DecidableEq

/-- An operation between two of its steps. -/
inductive StreamFrame
  | inserting (taskId : TaskId) (entry : StreamCallbackEntry)
  | pushing (taskId : TaskId)
  /-- Has read a callback for an error and is to erase it. -/
  | erasing (taskId : TaskId) (callback : StreamCallback) (chunk : LLMStreamChunk)
  | decrementing (callback : StreamCallback) (chunk : LLMStreamChunk)
  | invoking (invocation : Invocation)
  | decrementingAbort (taskId : TaskId) (callback : StreamCallback)
  | invokingAbort (taskId : TaskId) (callback : StreamCallback)
  | cancelling (taskId : TaskId)
  deriving DecidableEq

namespace LlmStreams

/-- The limit on the queue, which `preProcess` looks at. -/
def enforceQueueCapacity (maxQueueSize : UInt64) (streams : LlmStreams) : Except String Unit :=
  if maxQueueSize ≤ streams.pendingTasks then .error "Request queue is full, please retry later"
  else .ok ()

def call (stopTokenSet : List UInt32) (streams : LlmStreams) :
    StreamCall → LlmStreams × Option StreamFrame
  | .produceStream taskId skipTextDecode =>
    if taskId = 0 then (streams, none)
    else
      ({ streams with
        pendingTasks := streams.pendingTasks + 1
        submitted := streams.submitted ++ [taskId]
        registrations := streams.registrations + 1 },
        some (.inserting taskId { callback := streams.registrations, skipTextDecode }))
  | .token token delta =>
    if token.isAbort && !token.isFinal then (streams, none)
    else if token.isFinal then
      match streams.streamCallbacks.take token.taskId with
      | (none, _) => (streams, none)
      | (some entry, streamCallbacks) =>
        ({ streams with streamCallbacks },
          some (.decrementing entry.callback (chunkFor stopTokenSet entry token delta)))
    else
      match streams.streamCallbacks.lookup token.taskId with
      | none => (streams, none)
      | some entry =>
        let chunk := chunkFor stopTokenSet entry token delta
        (streams, some (if token.isError then .erasing token.taskId entry.callback chunk
          else .invoking { callback := entry.callback, chunk, isFinal := false }))
  | .abortRequest taskId =>
    match streams.streamCallbacks.take taskId with
    | (none, _) => (streams, none)
    | (some entry, streamCallbacks) =>
      ({ streams with streamCallbacks }, some (.decrementingAbort taskId entry.callback))

/-- The next step of an operation. A push to the task queue may throw, and the callback stays
registered then. -/
def resume (streams : LlmStreams) (frame : StreamFrame) (throws : Bool) :
    LlmStreams × Option StreamFrame :=
  match frame with
  | .inserting taskId entry =>
    ({ streams with streamCallbacks := streams.streamCallbacks.insert taskId entry },
      some (.pushing taskId))
  | .pushing taskId =>
    (if throws then streams else { streams with taskQueue := streams.taskQueue ++ [taskId] }, none)
  | .erasing taskId callback chunk =>
    ({ streams with streamCallbacks := streams.streamCallbacks.erase taskId },
      some (.decrementing callback chunk))
  | .decrementing callback chunk =>
    ({ streams with pendingTasks := streams.pendingTasks - 1 },
      some (.invoking { callback, chunk, isFinal := true }))
  | .invoking invocation =>
    ({ streams with invocations := streams.invocations ++ [invocation] }, none)
  | .decrementingAbort taskId callback =>
    ({ streams with pendingTasks := streams.pendingTasks - 1 },
      some (.invokingAbort taskId callback))
  | .invokingAbort taskId callback =>
    ({ streams with
      invocations := streams.invocations ++
        [{ callback, chunk := makeAbortChunk taskId, isFinal := true }] },
      some (.cancelling taskId))
  | .cancelling taskId =>
    ({ streams with cancelQueue := streams.cancelQueue ++ [taskId] }, none)

end LlmStreams

def streamHandlers :
    Handlers LlmStreams StreamCall StreamFrame Bool where
  call := LlmStreams.call stopTokenSet
  resume := LlmStreams.resume

abbrev Streaming := Running LlmStreams StreamFrame

abbrev StreamTurn := Turn StreamCall StreamFrame Bool

end InferenceServer.Services

/-! The counter of an LLM service against its registered callbacks. An operation in the middle may
have counted a callback that is not in the map yet, or not any more, and no other operation takes
away what an error is about to erase. -/
namespace InferenceServer.Services
open Machine
open Disaggregation (TaskId StreamCallback LLMStreamChunk)

namespace StreamFrame

/-- One for a callback that is counted and not in the map. -/
def owed : StreamFrame → Nat
  | inserting .. => 1
  | decrementing .. => 1
  | decrementingAbort .. => 1
  | _ => 0

/-- The callback that an operation registers, or whose last chunk it brings. -/
def holds : StreamFrame → Option StreamCallback
  | inserting _ entry => some entry.callback
  | decrementing callback _ => some callback
  | invoking invocation => if invocation.isFinal then some invocation.callback else none
  | decrementingAbort _ callback => some callback
  | invokingAbort _ callback => some callback
  | _ => none

/-- The task whose callback is to be registered. -/
def inserts : StreamFrame → Option TaskId
  | inserting taskId _ => some taskId
  | _ => none

/-- The task whose callback is to be erased. -/
def erases : StreamFrame → Option TaskId
  | erasing taskId _ _ => some taskId
  | _ => none

end StreamFrame

/-- The callback that a last chunk goes to. -/
def Invocation.last (invocation : Invocation) : Option StreamCallback :=
  if invocation.isFinal then some invocation.callback else none

/-- How often a callback has been called with `isFinal`. -/
def LlmStreams.finals (streams : LlmStreams) (callback : StreamCallback) : Nat :=
  tally Invocation.last streams.invocations callback

variable (streaming : Streaming)

/-- When no operation is in the middle, the counter is the number of registered callbacks, and
`preProcess` rejects a request if and only if these are as many as the limit. No callback gets two
last chunks at any time. -/
def Streaming.Accounted : Prop :=
  (streaming.frames = [] →
    streaming.shared.pendingTasks.toNat = streaming.shared.streamCallbacks.entries.length ∧
    ∀ maxQueueSize, streaming.shared.enforceQueueCapacity maxQueueSize ≠ .ok () ↔
      maxQueueSize.toNat ≤ streaming.shared.streamCallbacks.entries.length) ∧
  ∀ callback, streaming.shared.finals callback ≤ 1

/-- No task id is submitted twice. -/
def Streaming.Distinct : StreamTurn → Prop
  | .call (.produceStream taskId _) => taskId ∉ streaming.shared.submitted
  | _ => True

/-- What a consumer has read for an error without `FLAG_FINAL` stays until it erases it: nobody else
takes or erases the callback of that task meanwhile. -/
def Streaming.Uncontested : StreamTurn → Prop
  | .call (.abortRequest taskId) => ∀ frame ∈ streaming.frames, frame.erases ≠ some taskId
  | .call (.token token _) =>
    token.isFinal → ∀ frame ∈ streaming.frames, frame.erases ≠ some token.taskId
  | .resume (.erasing taskId callback chunk) _ =>
    ∀ frame ∈ streaming.frames.erase (.erasing taskId callback chunk),
      frame.erases ≠ some taskId
  | _ => True

/-- Task ids are unique, and errors are dealt with undisturbed. -/
def Streaming.Orderly (turn : StreamTurn) : Prop :=
  Streaming.Distinct streaming turn ∧ Streaming.Uncontested streaming turn

/-- The counter counts the registered callbacks and those that are owed. A callback is in one place
until its last chunk, a task id in use once, and what is to be erased is there. -/
structure Counted (streams : LlmStreams) (frames : List StreamFrame) : Prop where
  depth : streams.pendingTasks =
    UInt64.ofNat (streams.streamCallbacks.entries.length + load StreamFrame.owed frames)
  once : ∀ callback, streams.finals callback +
      streams.streamCallbacks.total (fun _ entry => hits callback (some entry.callback)) +
      load (fun frame => hits callback frame.holds) frames ≤
    if callback < streams.registrations then 1 else 0
  ids : ∀ taskId, streams.streamCallbacks.total (fun key _ => hits taskId (some key)) +
      load (fun frame => hits taskId frame.inserts) frames ≤
    if taskId ∈ streams.submitted then 1 else 0
  reads : ∀ taskId callback chunk, .erasing taskId callback chunk ∈ frames →
    ∃ entry ∈ streams.streamCallbacks.lookup taskId, entry.callback = callback

namespace Counted

variable {streams : LlmStreams} {frames rest : List StreamFrame}
variable {frame : StreamFrame} {taskId : TaskId}

theorem perm (counted : Counted streams frames) (same : frames.Perm rest) :
    Counted streams rest where
  depth := by
    rw [counted.depth, load, load, (same.map _).sum_eq]
  once callback := by
    have once := counted.once callback
    rwa [load, (same.map _).sum_eq] at once
  ids taskId := by
    have ids := counted.ids taskId
    rwa [load, (same.map _).sum_eq] at ids
  reads taskId callback chunk member :=
    counted.reads taskId callback chunk (same.mem_iff.mpr member)

/-- An operation that owes nothing and holds no callback is left out. -/
theorem settle (counted : Counted streams (frame :: rest)) (owed : frame.owed = 0)
    (holds : frame.holds = none) (inserts : frame.inserts = none) :
    Counted streams rest where
  depth := by
    have depth := counted.depth
    rwa [load_cons, owed, Nat.zero_add] at depth
  once callback := by
    have once := counted.once callback
    rwa [load_cons, holds, hits_none, Nat.zero_add] at once
  ids taskId := by
    have ids := counted.ids taskId
    rwa [load_cons, inserts, hits_none, Nat.zero_add] at ids
  reads taskId callback chunk member :=
    counted.reads taskId callback chunk (List.mem_cons_of_mem _ member)

/-- An operation comes to wait that owes nothing and holds no callback. -/
theorem wait (counted : Counted streams rest) (owed : frame.owed = 0) (holds : frame.holds = none)
    (inserts : frame.inserts = none)
    (reads : ∀ taskId callback chunk, frame = .erasing taskId callback chunk →
      ∃ entry ∈ streams.streamCallbacks.lookup taskId, entry.callback = callback) :
    Counted streams (frame :: rest) where
  depth := by
    rw [load_cons, owed, Nat.zero_add]
    exact counted.depth
  once callback := by
    rw [load_cons, holds, hits_none, Nat.zero_add]
    exact counted.once callback
  ids taskId := by
    rw [load_cons, inserts, hits_none, Nat.zero_add]
    exact counted.ids taskId
  reads taskId callback chunk member := by
    obtain same | member := List.mem_cons.mp member
    · exact reads taskId callback chunk same.symm
    · exact counted.reads taskId callback chunk member

/-- A callback is taken off the map, and the operation that has it is to count it down. -/
theorem take {entry : StreamCallbackEntry} (counted : Counted streams rest)
    (found : streams.streamCallbacks.lookup taskId = some entry)
    (uncontested : ∀ frame ∈ rest, frame.erases ≠ some taskId) (owed : frame.owed = 1)
    (holds : frame.holds = some entry.callback) (inserts : frame.inserts = none)
    (erases : frame.erases = none) :
    Counted { streams with streamCallbacks := streams.streamCallbacks.erase taskId }
      (frame :: rest) where
  depth := by
    have one := Table.length_erase found
    have depth := counted.depth
    rw [one] at depth
    rw [load_cons, owed]
    exact depth.trans (congrArg UInt64.ofNat (by simp only; omega))
  once callback := by
    have once := counted.once callback
    rw [Table.total_erase _ found] at once
    simp only [LlmStreams.finals, load_cons, holds] at once ⊢
    omega
  ids other := by
    have ids := counted.ids other
    rw [Table.total_erase _ found] at ids
    simp [inserts]
    omega
  reads other callback chunk member := by
    obtain same | member := List.mem_cons.mp member
    · rw [← same] at erases
      cases erases
    · have different : other ≠ taskId := by
        rintro rfl
        exact uncontested _ member rfl
      rw [AList.lookup_erase_ne different]
      exact counted.reads other callback chunk member

theorem insert {entry : StreamCallbackEntry}
    (counted : Counted streams (.inserting taskId entry :: rest)) :
    Counted { streams with streamCallbacks := streams.streamCallbacks.insert taskId entry }
      (.pushing taskId :: rest) := by
  have new : streams.streamCallbacks.lookup taskId = none := by
    by_contra present
    obtain ⟨other, present⟩ := Option.ne_none_iff_exists'.mp present
    have ids := counted.ids taskId
    rw [Table.total_erase _ present, load_cons, hits_self, StreamFrame.inserts, hits_self] at ids
    split at ids <;> omega
  refine ⟨?_, fun callback => ?_, fun other => ?_, fun other callback chunk member => ?_⟩
  · rw [counted.depth, Table.length_insert_new new]
    simp only [load_cons, StreamFrame.owed]
    congr 1
    omega
  · have once := counted.once callback
    simp only [LlmStreams.finals, Table.total_insert_new _ new, load_cons, StreamFrame.holds,
      hits_none] at once ⊢
    omega
  · have ids := counted.ids other
    simp only [Table.total_insert_new _ new, load_cons, StreamFrame.inserts, hits_none] at ids ⊢
    omega
  · obtain same | member := List.mem_cons.mp member
    · cases same
    · obtain ⟨found, present, same⟩ :=
        counted.reads other callback chunk (List.mem_cons_of_mem _ member)
      have different : other ≠ taskId := by
        rintro rfl
        rw [new] at present
        cases present
      exact ⟨found, (AList.lookup_insert_ne different).trans present, same⟩

/-- The counter is counted down for an operation, which goes on to call the callback. -/
theorem decrement {next : StreamFrame} (counted : Counted streams (frame :: rest))
    (owed : frame.owed = 1) (paid : next.owed = 0) (holds : next.holds = frame.holds)
    (inserts : next.inserts = none) (erases : next.erases = none) :
    Counted { streams with pendingTasks := streams.pendingTasks - 1 } (next :: rest) where
  depth := by
    have one : streams.streamCallbacks.entries.length + (1 + load StreamFrame.owed rest) =
        streams.streamCallbacks.entries.length + (0 + load StreamFrame.owed rest) + 1 := by
      omega
    rw [counted.depth, load_cons, load_cons, owed, paid, one, UInt64.ofNat_add]
    exact UInt64.add_sub_cancel _ _
  once callback := by
    have once := counted.once callback
    simp only [LlmStreams.finals, load_cons, holds] at once ⊢
    exact once
  ids taskId := by
    have ids := counted.ids taskId
    simp only [load_cons, inserts, hits_none] at ids ⊢
    omega
  reads taskId callback chunk member := by
    obtain same | member := List.mem_cons.mp member
    · rw [← same] at erases
      cases erases
    · exact counted.reads taskId callback chunk (List.mem_cons_of_mem _ member)

/-- A callback is called by the operation that holds it. -/
theorem invoke (counted : Counted streams (frame :: rest)) (invocation : Invocation)
    (owed : frame.owed = 0) (inserts : frame.inserts = none) (holds : invocation.last = frame.holds) :
    Counted { streams with invocations := streams.invocations ++ [invocation] } rest where
  depth := by
    have depth := counted.depth
    rwa [load_cons, owed, Nat.zero_add] at depth
  once callback := by
    have once := counted.once callback
    simp only [LlmStreams.finals, load_cons, tally_append, tally_single, holds] at once ⊢
    omega
  ids taskId := by
    have ids := counted.ids taskId
    rwa [load_cons, inserts, hits_none, Nat.zero_add] at ids
  reads taskId callback chunk member :=
    counted.reads taskId callback chunk (List.mem_cons_of_mem _ member)

/-- A request counts itself, under a task id and with a callback that are new. -/
theorem produce (counted : Counted streams rest) (skipTextDecode : Bool)
    (distinct : taskId ∉ streams.submitted) :
    Counted
      { streams with
        pendingTasks := streams.pendingTasks + 1
        submitted := streams.submitted ++ [taskId]
        registrations := streams.registrations + 1 }
      (.inserting taskId { callback := streams.registrations, skipTextDecode } :: rest) where
  depth := by
    have one : streams.streamCallbacks.entries.length + (1 + load StreamFrame.owed rest) =
        streams.streamCallbacks.entries.length + load StreamFrame.owed rest + 1 := by
      omega
    rw [load_cons, StreamFrame.owed, one, UInt64.ofNat_add, ← counted.depth]
    rfl
  once callback := by
    have once := counted.once callback
    have new : hits callback (some streams.registrations) +
        (if callback < streams.registrations then 1 else 0) ≤
          if callback < streams.registrations + 1 then 1 else 0 := by
      by_cases same : streams.registrations = callback
      · rw [← same, hits_self, if_neg (Nat.lt_irrefl _), if_pos (Nat.lt_succ_self _)]
      · rw [hits, if_neg fun equal => same (Option.some.inj equal), Nat.zero_add]
        split
        · rename_i earlier
          rw [if_pos (Nat.lt_succ_of_lt earlier)]
        · exact Nat.zero_le _
    simp only [LlmStreams.finals, load_cons, StreamFrame.holds] at once ⊢
    omega
  ids other := by
    have ids := counted.ids other
    have new := hits_new distinct other
    simp only [load_cons, StreamFrame.inserts] at ids ⊢
    omega
  reads other callback chunk member := by
    obtain same | member := List.mem_cons.mp member
    · cases same
    · exact counted.reads other callback chunk member

theorem call {stopTokenSet : List UInt32} {streaming : Streaming} {call : StreamCall}
    (counted : Counted streaming.shared streaming.frames)
    (distinct : streaming.Distinct (.call call))
    (uncontested : streaming.Uncontested (.call call)) :
    Counted ((streamHandlers stopTokenSet).call streaming.shared call).1
      (((streamHandlers stopTokenSet).call streaming.shared call).2.toList ++
        streaming.frames) := by
  cases call with
  | produceStream taskId skipTextDecode =>
    simp only [streamHandlers, LlmStreams.call]
    split
    · exact counted
    · exact counted.produce skipTextDecode distinct
  | token token delta =>
    simp only [streamHandlers, LlmStreams.call]
    split
    · exact counted
    · split
      · rename_i last
        cases found : streaming.shared.streamCallbacks.lookup token.taskId with
        | none =>
          simp only [Table.take, found]
          exact counted
        | some entry =>
          simp only [Table.take, found]
          exact counted.take found (uncontested last) rfl rfl rfl rfl
      · cases found : streaming.shared.streamCallbacks.lookup token.taskId with
        | none => exact counted
        | some entry =>
          simp only
          split
          · refine counted.wait rfl rfl rfl fun taskId callback chunk same => ?_
            cases same
            exact ⟨entry, found, rfl⟩
          · refine counted.wait rfl rfl rfl fun taskId callback chunk same => ?_
            cases same
  | abortRequest taskId =>
    simp only [streamHandlers, LlmStreams.call]
    cases found : streaming.shared.streamCallbacks.lookup taskId with
    | none =>
      simp only [Table.take, found]
      exact counted
    | some entry =>
      simp only [Table.take, found]
      exact counted.take found uncontested rfl rfl rfl rfl

theorem resume {stopTokenSet : List UInt32} {streaming : Streaming} {throws : Bool}
    (counted : Counted streaming.shared streaming.frames) (waits : frame ∈ streaming.frames)
    (uncontested : streaming.Uncontested (.resume frame throws)) :
    Counted ((streamHandlers stopTokenSet).resume streaming.shared frame throws).1
      (((streamHandlers stopTokenSet).resume streaming.shared frame throws).2.toList ++
        streaming.frames.erase frame) := by
  have counted := counted.perm (List.perm_cons_erase waits)
  cases frame with
  | inserting taskId entry => exact counted.insert
  | pushing taskId =>
    have settled := counted.settle rfl rfl rfl
    simp only [streamHandlers, LlmStreams.resume]
    split
    · exact settled
    · exact ⟨settled.depth, settled.once, settled.ids, settled.reads⟩
  | erasing taskId callback chunk =>
    obtain ⟨entry, found, rfl⟩ := counted.reads taskId callback chunk List.mem_cons_self
    exact (counted.settle rfl rfl rfl).take found uncontested rfl rfl rfl rfl
  | decrementing callback chunk => exact counted.decrement rfl rfl rfl rfl rfl
  | invoking invocation => exact counted.invoke invocation rfl rfl rfl
  | decrementingAbort taskId callback => exact counted.decrement rfl rfl rfl rfl rfl
  | invokingAbort taskId callback =>
    have called := counted.invoke
      { callback, chunk := Disaggregation.makeAbortChunk taskId, isFinal := true } rfl rfl rfl
    exact called.wait rfl rfl rfl fun _ _ _ same => by cases same
  | cancelling taskId =>
    have settled := counted.settle rfl rfl rfl
    exact ⟨settled.depth, settled.once, settled.ids, settled.reads⟩

end Counted

theorem counted_initial : Counted {} [] :=
  ⟨rfl, fun _ => Nat.zero_le _, fun _ => Nat.zero_le _, nofun⟩

/-- The service keeps its accounts in every run in which errors are dealt with undisturbed. -/
theorem depth_counts_registered (stopTokenSet : List UInt32) {streaming : Streaming}
    (reached : Reaches (streamHandlers stopTokenSet).step Streaming.Orderly { shared := {} }
      streaming) : Streaming.Accounted streaming := by
  have counted : Counted streaming.shared streaming.frames :=
    Handlers.invariant (fun streaming => Counted streaming.shared streaming.frames) counted_initial
      (fun _ _ held orderly => held.call orderly.1 orderly.2)
      (fun _ _ _ held orderly waits => held.resume waits orderly.2) reached
  constructor
  · intro quiet
    have depth := counted.depth
    have bound := Table.length_le_size streaming.shared.streamCallbacks
    rw [quiet, load_nil, Nat.add_zero] at depth
    have counts : streaming.shared.pendingTasks.toNat =
        streaming.shared.streamCallbacks.entries.length := by
      rw [depth, UInt64.toNat_ofNat_of_lt']
      exact Nat.lt_of_le_of_lt bound (by decide)
    refine ⟨counts, fun maxQueueSize => ?_⟩
    rw [LlmStreams.enforceQueueCapacity, ← counts, ← UInt64.le_iff_toNat_le]
    split
    · rename_i full
      exact ⟨fun _ => full, fun _ => by simp⟩
    · rename_i room
      exact ⟨fun rejected => absurd rfl rejected, fun full => absurd full room⟩
  · intro callback
    have once := counted.once callback
    split at once <;> omega

section Runs

instance (streaming : Streaming) : DecidablePred (Streaming.Distinct streaming)
  | .call (.produceStream taskId _) =>
    inferInstanceAs (Decidable (taskId ∉ streaming.shared.submitted))
  | .call (.token ..) => inferInstanceAs (Decidable True)
  | .call (.abortRequest _) => inferInstanceAs (Decidable True)
  | .resume .. => inferInstanceAs (Decidable True)

instance (streaming : Streaming) : DecidablePred (Streaming.Uncontested streaming)
  | .call (.produceStream ..) => inferInstanceAs (Decidable True)
  | .call (.token token _) => inferInstanceAs (Decidable (token.isFinal →
    ∀ frame ∈ streaming.frames, frame.erases ≠ some token.taskId))
  | .call (.abortRequest taskId) =>
    inferInstanceAs (Decidable (∀ frame ∈ streaming.frames, frame.erases ≠ some taskId))
  | .resume (.erasing taskId callback chunk) _ =>
    inferInstanceAs (Decidable (∀ frame ∈
      streaming.frames.erase (.erasing taskId callback chunk), frame.erases ≠ some taskId))
  | .resume (.inserting ..) _ => inferInstanceAs (Decidable True)
  | .resume (.pushing _) _ => inferInstanceAs (Decidable True)
  | .resume (.decrementing ..) _ => inferInstanceAs (Decidable True)
  | .resume (.invoking _) _ => inferInstanceAs (Decidable True)
  | .resume (.decrementingAbort ..) _ => inferInstanceAs (Decidable True)
  | .resume (.invokingAbort ..) _ => inferInstanceAs (Decidable True)
  | .resume (.cancelling _) _ => inferInstanceAs (Decidable True)

instance (streaming : Streaming) : DecidablePred (Streaming.Orderly streaming) := fun turn =>
  inferInstanceAs (Decidable (Streaming.Distinct streaming turn ∧
    Streaming.Uncontested streaming turn))

def runnerError : LLMStreamChunk :=
  Disaggregation.makeErrorChunk 1 "runner reported error"

/-- A request whose worker reports an error without `FLAG_FINAL`, up to the read. -/
def errorRead : List StreamTurn :=
  [.call (.produceStream 1 false),
    .resume (.inserting 1 { callback := 0 }) false,
    .resume (.pushing 1) false,
    .call (.token { taskId := 1, flags := 2 } "")]

def errorErased : List StreamTurn :=
  [.resume (.erasing 1 0 runnerError) false, .resume (.decrementing 0 runnerError) false,
    .resume (.invoking { callback := 0, chunk := runnerError, isFinal := true }) false]

/-- An abort that comes once the error has been dealt with. -/
def lateAbort : List StreamTurn :=
  errorRead ++ errorErased ++ [.call (.abortRequest 1)]

theorem lateAbort_runs : (runWithin (streamHandlers []).step Streaming.Orderly { shared := {} }
    lateAbort).isSome = true := by
  decide +kernel

theorem depth_counts_registered_lateAbort : Streaming.Accounted
    ((runWithin (streamHandlers []).step Streaming.Orderly { shared := {} } lateAbort).get
      lateAbort_runs) :=
  depth_counts_registered [] (reaches_get lateAbort_runs)

/-- An abort that comes between the read of the callback and its erasure. -/
def abortBetween : List StreamTurn :=
  errorRead ++
    [.call (.abortRequest 1), .resume (.decrementingAbort 1 0) false,
      .resume (.invokingAbort 1 0) false, .resume (.cancelling 1) false] ++
    errorErased

theorem abortBetween_runs : (runWithin (streamHandlers []).step Streaming.Distinct
    { shared := {} } abortBetween).isSome = true := by
  decide +kernel

/-- The callback is counted down twice and gets two last chunks. -/
theorem not_depth_counts_registered : ¬∀ (stopTokenSet : List UInt32) (streaming : Streaming),
    Reaches (streamHandlers stopTokenSet).step Streaming.Distinct { shared := {} } streaming →
      Streaming.Accounted streaming := by
  intro accounted
  have held := accounted [] _ (reaches_get abortBetween_runs)
  have twice := held.2 0
  exact absurd twice (by decide +kernel)

end Runs

end InferenceServer.Services
