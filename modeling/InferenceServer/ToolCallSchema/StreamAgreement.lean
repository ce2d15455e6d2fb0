import InferenceServer.Machine.Json
import InferenceServer.ToolCallSchema.StreamedCalls

/-! What it is to stream a completion, and for which names the stream and the plain body give the
same tool calls. -/
namespace InferenceServer.ToolCallSchema
open Machine

variable {Double : Type} [Python Double]

def textOf : PyValue Double → Option String
  | .str text => some text
  | _ => none

/-- An object, perhaps without any members where there is none. -/
def IsObject (value : PyValue Double) : Prop := value.entries?.isSome

/-- A tool call of a delta; an index that is missing is that of the first call. -/
structure Shows (tc : PyValue Double) (delta : CallDelta) : Prop where
  object : IsObject tc
  index : ((tc.get "index").orElse (.int 0)).whole? = some (delta.index : Int)
  function : IsObject ((tc.get "function").orElse (.mapping []))
  name : textOf (((tc.get "function").orElse (.mapping [])).get "name") = delta.name
  arguments : textOf (((tc.get "function").orElse (.mapping [])).get "arguments") =
    delta.arguments

/-- The first choice of a chunk. -/
structure ChoiceShows (choice : PyValue Double) (deltas : List CallDelta) : Prop where
  object : IsObject choice
  delta : IsObject ((choice.get "delta").orElse (.mapping []))
  calls : ∃ items, (((choice.get "delta").orElse (.mapping [])).get "tool_calls").orElse
      (.list []) = .list items ∧ List.Forall₂ Shows items deltas

/-- A chunk that is no error: what is no object, or has no choices, says nothing. -/
inductive ChunkShows (chunk : PyValue Double) : List CallDelta → Prop
  | other : ¬ IsObject chunk → ChunkShows chunk []
  | empty : IsObject chunk → (chunk.get "error").truthy = false →
      (chunk.get "choices").truthy = false → ChunkShows chunk []
  | choice {choice : PyValue Double} {others : List (PyValue Double)} {deltas : List CallDelta} :
      IsObject chunk → (chunk.get "error").truthy = false →
      chunk.get "choices" = .list (choice :: others) → ChoiceShows choice deltas →
      ChunkShows chunk deltas

/-- The lines of a stream, up to its end or to the marker, and the deltas that they have. -/
inductive Streams (json : JsonTexts Double) : List RawLine → List CallDelta → Prop
  | ended : Streams json [] []
  | done {raw : RawLine} {rest : List RawLine} :
      eventData Double (RawLine.line json raw) = some "[DONE]" →
      Streams json (raw :: rest) []
  | skipped {raw : RawLine} {rest : List RawLine} {deltas : List CallDelta} :
      eventData Double (RawLine.line json raw) = none → Streams json rest deltas →
      Streams json (raw :: rest) deltas
  | chunk {raw : RawLine} {rest : List RawLine} {data : String} {chunk : PyValue Double}
      {deltas later : List CallDelta} :
      eventData Double (RawLine.line json raw) = some data → data ≠ "[DONE]" →
      json.loads data = .ok chunk → ChunkShows chunk deltas → Streams json rest later →
      Streams json (raw :: rest) (deltas ++ later)

/-- A tool call of a plain message, with texts for its name and its arguments. -/
structure Names (tc : PyValue Double) (call : ToolCall) : Prop where
  object : IsObject tc
  function : IsObject (tc.get "function")
  name : (tc.get "function").get "name" = .str call.name
  arguments : (tc.get "function").get "arguments" = .str call.arguments

/-- The body of a plain completion with these tool calls. -/
structure Body (body : PyValue Double) (calls : List ToolCall) : Prop where
  object : IsObject body
  choice : ∃ choice others items, body.get "choices" = .list (choice :: others) ∧
    IsObject choice ∧ IsObject ((choice.get "message").orElse (.mapping [])) ∧
    (((choice.get "message").orElse (.mapping [])).get "tool_calls").orElse (.list []) =
      .list items ∧ List.Forall₂ Names items calls

/-- On every delta of the call there is its full name. -/
def Repeated (deltas : List CallDelta) (name : String) : Prop :=
  ∀ delta ∈ deltas, delta.name = some name

def pieces (deltas : List CallDelta) : List String := deltas.filterMap CallDelta.name

/-- The deltas send the calls: each call has some, its arguments are cut at any points, and its
name is cut as well or repeated. -/
structure Sends (calls : List ToolCall) (deltas : List CallDelta) : Prop where
  indexed : ∀ delta ∈ deltas, delta.index < calls.length
  present : ∀ index < calls.length, deltasOf index deltas ≠ []
  arguments : ∀ index call, calls[index]? = some call →
    String.join ((deltasOf index deltas).filterMap CallDelta.arguments) = call.arguments
  name : ∀ index call, calls[index]? = some call →
    String.join (pieces (deltasOf index deltas)) = call.name ∨
      Repeated (deltasOf index deltas) call.name

/-- The arguments are the same, or the cause of the failure is. -/
def SameOutcome : Except Failure String → Except Failure String → Prop
  | .ok first, .ok second => first = second
  | .error (.responseError first _), .error (.responseError second _) => first = second
  | .error .raised, .error .raised => True
  | _, _ => False

section Reading

variable {json : JsonTexts Double}
variable {value : PyValue Double} {calls : List ToolCall} {deltas : List CallDelta}

omit [Python Double] in
theorem member_of_object (object : IsObject value) (key : String) :
    member value key = .ok (value.get key) := by
  obtain ⟨entries, is⟩ := Option.isSome_iff_exists.mp object
  rw [member, PyValue.get, is]
  rfl

omit [Python Double] in
theorem mergeName_eq (built : String) (value : PyValue Double) :
    mergeName built value = (textOf value).elim built (addPiece built) := by
  cases value <;> rfl

omit [Python Double] in
theorem mergeArguments_eq (built : String) (value : PyValue Double) :
    mergeArguments built value = addText built (textOf value) := by
  cases value <;> first | rfl | exact String.append_empty.symm

theorem mergeCall_shows {tc : PyValue Double} {delta : CallDelta} (shows_ : Shows tc delta)
    (toolCalls : Dict Int Slot) : mergeCall toolCalls tc = .ok (mergeDelta toolCalls delta) := by
  have index : toInt ((tc.get "index").orElse (.int 0)) = .ok (delta.index : Int) := by
    rw [toInt, shows_.index]
  simp only [mergeCall, member_of_object shows_.object, Json.ok_bind, index,
    member_of_object shows_.function, mergeName_eq, mergeArguments_eq, shows_.name,
    shows_.arguments]
  rfl

theorem mergeCalls_show {calls : List (PyValue Double)} (all : List.Forall₂ Shows calls deltas)
    (toolCalls : Dict Int Slot) :
    calls.foldlM mergeCall toolCalls = .ok (deltas.foldl mergeDelta toolCalls) := by
  induction all generalizing toolCalls with
  | nil => rfl
  | cons here _ ih =>
    rw [List.foldlM_cons, mergeCall_shows here, Json.ok_bind, ih, List.foldl_cons]

theorem orElse_of_false {other : PyValue Double} (falsy : value.truthy = false) :
    value.orElse other = other := by
  rw [PyValue.orElse, falsy]
  rfl

/-- What a chunk adds to the slots. -/
theorem readChunk_shows {chunk : PyValue Double} (shows_ : ChunkShows chunk deltas)
    (object : IsObject chunk) (stream : Stream Double) : ∃ next, readChunk stream chunk = .ok next ∧
      next.toolCalls = deltas.foldl mergeDelta stream.toolCalls := by
  cases shows_ with
  | other no => exact absurd object no
  | empty _ _ none_ =>
    refine ⟨{ stream with chunks := stream.chunks + 1 }, ?_, rfl⟩
    rw [readChunk, member_of_object object, Json.ok_bind, orElse_of_false none_]
    rfl
  | @choice choice others _ _ _ listed shown =>
    obtain ⟨items, calls, all⟩ := shown.calls
    have some_ : ((PyValue.list (choice :: others)).orElse (.list []) : PyValue Double) =
        .list (choice :: others) := rfl
    have truthy : (PyValue.list (choice :: others) : PyValue Double).truthy = true := rfl
    simp only [readChunk, member_of_object object, Json.ok_bind, listed, some_, truthy, not_true,
      if_false, firstItem, member_of_object shown.object, member_of_object shown.delta, calls,
      ToolCallSchema.items, PyValue.items?, mergeCalls_show all]
    exact ⟨_, rfl, rfl⟩

theorem readLines_streams {lines : List RawLine} (streams : Streams json lines deltas)
    (stream : Stream Double) : ∃ last, readLines json stream lines = .ok last ∧
      last.toolCalls = deltas.foldl mergeDelta stream.toolCalls := by
  induction streams generalizing stream with
  | ended => exact ⟨stream, rfl, rfl⟩
  | done marker =>
    refine ⟨stream, ?_, rfl⟩
    simp [readLines, marker]
  | skipped other _ ih =>
    simp only [readLines, other]
    exact ih stream
  | @chunk _ _ _ chunk deltas later event open_ loaded shown _ ih =>
    simp only [readLines, event, open_, if_false, loaded]
    by_cases object : IsObject chunk
    · obtain ⟨entries, is⟩ := Option.isSome_iff_exists.mp object
      have fine : (chunk.get "error").truthy = false := by
        cases shown with
        | other no => exact absurd object no
        | empty _ fine => exact fine
        | choice _ fine => exact fine
      obtain ⟨next, read, calls⟩ := readChunk_shows shown object stream
      obtain ⟨last, ran, merged⟩ := ih next
      refine ⟨last, ?_, ?_⟩
      · simp [is, fine, read, Json.ok_bind, ran]
      · rw [merged, calls, List.foldl_append]
    · have none_ : chunk.entries? = none := Option.not_isSome_iff_eq_none.mp object
      have nothing : deltas = [] := by
        cases shown with
        | other => rfl
        | empty yes => exact absurd yes object
        | choice yes => exact absurd yes object
      obtain ⟨last, ran, merged⟩ := ih stream
      refine ⟨last, ?_, ?_⟩
      · simp only [none_, ran]
      · rw [merged, nothing, List.nil_append]

/-- The slot of a call at the end of the stream. -/
def slotOf (deltas : List CallDelta) (index : Nat) : Slot :=
  (deltasOf index deltas).foldl mergeSlot {}

/-- The stream has a call for each index, with what its deltas merge to. -/
theorem reassembled {lines : List RawLine} (streams : Streams json lines deltas)
    (sends : Sends calls deltas) :
    ∃ streamed, reassembleStream json lines = .ok streamed ∧
      streamed.toolCalls = (List.range calls.length).map fun index =>
        ⟨.str (slotOf deltas index).name, .str (slotOf deltas index).arguments⟩ := by
  obtain ⟨last, ran, merged⟩ := readLines_streams streams {}
  have keys : ∀ key, key ∈ last.toolCalls.keys ↔ ∃ index < calls.length, key = (index : Int) := by
    intro key
    rw [merged]
    refine (mem_keys_merged deltas key).trans ⟨?_, ?_⟩
    · rintro ⟨delta, member, rfl⟩
      exact ⟨delta.index, sends.indexed delta member, rfl⟩
    · rintro ⟨index, bound, rfl⟩
      obtain ⟨delta, member⟩ := List.exists_mem_of_ne_nil _ (sends.present index bound)
      obtain ⟨there, here⟩ := List.mem_filter.mp member
      exact ⟨delta, there, congrArg Nat.cast (of_decide_eq_true here).symm⟩
  have found : ∀ index ∈ List.range calls.length,
      last.toolCalls.lookup (Int.ofNat index) = some (slotOf deltas index) := by
    intro index member
    rw [merged]
    refine (lookup_merged Dict.empty deltas index).trans ?_
    rw [if_neg (sends.present index (List.mem_range.mp member)), Dict.lookup_empty]
    rfl
  refine ⟨_, by rw [reassembleStream, ran, Json.ok_bind]; rfl, ?_⟩
  show ((last.toolCalls.keys.mergeSort (· ≤ ·)).filterMap last.toolCalls.lookup).map _ = _
  rw [sorted_keys keys, List.filterMap_map]
  have slots : (List.range calls.length).filterMap (last.toolCalls.lookup ∘ Int.ofNat) =
      (List.range calls.length).map (slotOf deltas) := by
    rw [← List.filterMap_eq_map]
    exact List.filterMap_congr found
  rw [slots, List.map_map]
  rfl

theorem orElse_object (object : IsObject value) : value.orElse (.mapping []) = value := by
  obtain ⟨entries, is⟩ := Option.isSome_iff_exists.mp object
  cases value <;> cases is
  cases entries <;> rfl

theorem parseCall_names {tc : PyValue Double} {call : ToolCall} (names : Names tc call) :
    parseCall tc = .ok ⟨.str call.name, .str call.arguments⟩ := by
  simp only [parseCall, orElse_object names.object, member_of_object names.object, Json.ok_bind,
    orElse_object names.function, member_of_object names.function, names.name, names.arguments]
  rfl

theorem parseCalls_names {items : List (PyValue Double)} (all : List.Forall₂ Names items calls) :
    items.mapM parseCall = .ok (calls.map fun call => ⟨.str call.name, .str call.arguments⟩) := by
  induction all with
  | nil => rfl
  | cons here _ ih =>
    rw [List.mapM_cons, parseCall_names here, Json.ok_bind, ih]
    rfl

variable (json) in
theorem parsed {body : PyValue Double} (plain : Body body calls) :
    ∃ completion, parseCompletion json body = .ok completion ∧
      completion.toolCalls = calls.map fun call => ⟨.str call.name, .str call.arguments⟩ := by
  obtain ⟨choice, others, items, listed, object, message, listedCalls, all⟩ := plain.choice
  have some_ : ((PyValue.list (choice :: others)).orElse (.list []) : PyValue Double) =
      .list (choice :: others) := rfl
  have truthy : (PyValue.list (choice :: others) : PyValue Double).truthy = true := rfl
  have whole : body.entries?.isNone = false := Option.isNone_eq_false_iff.mpr plain.object
  have choiceObject : choice.entries?.isNone = false := Option.isNone_eq_false_iff.mpr object
  refine ⟨⟨(((choice.get "message").orElse (.mapping [])).get "content").orElse (.str ""),
    calls.map fun call => ⟨.str call.name, .str call.arguments⟩, choice.get "finish_reason",
    none⟩, ?_, rfl⟩
  simp only [parseCompletion, whole, Bool.false_eq_true, if_false, member_of_object plain.object,
    listed, some_, truthy, not_true, firstItem, choiceObject, member_of_object object,
    member_of_object message, listedCalls, ToolCallSchema.items, PyValue.items?,
    parseCalls_names all, Json.ok_bind]
  rfl

end Reading

section Agreement

variable {json : JsonTexts Double} {calls : List ToolCall} {deltas : List CallDelta}

theorem sameOutcome_refl (outcome : Except Failure String) : SameOutcome outcome outcome := by
  cases outcome with
  | ok arguments => rfl
  | error failure => cases failure <;> trivial

/-- The same calls select the same arguments. -/
theorem sameOutcome_of_calls {first second : Completion Double}
    (same : first.toolCalls = second.toolCalls) :
    SameOutcome (selectToolArguments json first) (selectToolArguments json second) := by
  unfold selectToolArguments
  rw [same]
  split
  · rfl
  · exact sameOutcome_refl _

/-- No piece of the name is taken for the name repeated. -/
def Distinguished (deltas : List CallDelta) (name : String) : Prop :=
  Repeated deltas name ∨ ¬ Echoes "" (pieces deltas)

/-- What the deltas of a call merge to is the call, if no piece of its name is dropped. -/
theorem slotOf_eq_iff (sends : Sends calls deltas) {index : Nat} {call : ToolCall}
    (here : calls[index]? = some call) :
    ((slotOf deltas index).name = call.name ∧ (slotOf deltas index).arguments = call.arguments) ↔
      Distinguished (deltasOf index deltas) call.name := by
  have arguments : (slotOf deltas index).arguments = call.arguments :=
    (foldl_mergeSlot_arguments {} _).trans (sends.arguments index call here)
  have name : (slotOf deltas index).name = (pieces (deltasOf index deltas)).foldl addPiece "" :=
    foldl_mergeSlot_name {} _
  rw [name]
  refine (and_iff_left arguments).trans ?_
  by_cases repeated : Repeated (deltasOf index deltas) call.name
  · refine ⟨fun _ => .inl repeated, fun _ => merged_repeated ?_ ?_⟩
    · obtain ⟨delta, member⟩ := List.exists_mem_of_ne_nil _
        (sends.present index (List.getElem?_eq_some_iff.mp here).1)
      exact List.ne_nil_of_mem (List.mem_filterMap.mpr ⟨delta, member, repeated delta member⟩)
    · intro piece member
      obtain ⟨delta, there, is⟩ := List.mem_filterMap.mp member
      exact Option.some.inj (is.symm.trans (repeated delta there))
  · have cut := (sends.name index call here).resolve_right repeated
    have joined : (pieces (deltasOf index deltas)).foldl (· ++ ·) "" = call.name := cut
    rw [← joined, merged_eq_iff, Distinguished, joined, or_iff_right repeated]

omit [Python Double] in
variable (Double) in
theorem calls_eq_iff (sends : Sends calls deltas) :
    ((List.range calls.length).map fun index => (⟨.str (slotOf deltas index).name,
        .str (slotOf deltas index).arguments⟩ : Call Double)) =
      (calls.map fun call => ⟨.str call.name, .str call.arguments⟩) ↔
    ∀ index call, calls[index]? = some call →
      Distinguished (deltasOf index deltas) call.name := by
  constructor
  · intro same index call here
    refine (slotOf_eq_iff sends here).mp ?_
    have there := congrArg (·[index]?) same
    simp only [List.getElem?_map, here, Option.map_some,
      List.getElem?_range (List.getElem?_eq_some_iff.mp here).1] at there
    injection there with there
    injection there with name arguments
    injection name with name
    injection arguments with arguments
    exact ⟨name, arguments⟩
  · intro all
    refine List.ext_getElem? fun index => ?_
    rw [List.getElem?_map, List.getElem?_map]
    cases here : calls[index]? with
    | none =>
      rw [List.getElem?_eq_none (by rw [List.length_range]; exact List.getElem?_eq_none_iff.mp here)]
      rfl
    | some call =>
      obtain ⟨name, arguments⟩ := (slotOf_eq_iff sends here).mpr (all index call here)
      rw [List.getElem?_range (List.getElem?_eq_some_iff.mp here).1, Option.map_some,
        Option.map_some, name, arguments]

/-- The stream and the plain body of a completion have the same tool calls and select the same,
if and only if no piece of a name that is cut equals all that came before it. -/
theorem stream_agrees_iff {lines : List RawLine} {body : PyValue Double}
    (streams : Streams json lines deltas) (sends : Sends calls deltas) (plain : Body body calls) :
    (∃ streamed whole, reassembleStream json lines = .ok streamed ∧
      parseCompletion json body = .ok whole ∧ streamed.toolCalls = whole.toolCalls ∧
      SameOutcome (selectToolArguments json streamed) (selectToolArguments json whole)) ↔
    ∀ index call, calls[index]? = some call →
      Distinguished (deltasOf index deltas) call.name := by
  obtain ⟨streamed, ran, merged⟩ := reassembled streams sends
  obtain ⟨whole, read, listed⟩ := parsed json plain
  rw [← calls_eq_iff Double sends, ← merged, ← listed]
  constructor
  · rintro ⟨_, _, ran', read', same, -⟩
    cases ran.symm.trans ran'
    cases read.symm.trans read'
    exact same
  · exact fun same => ⟨streamed, whole, ran, read, same, sameOutcome_of_calls same⟩

end Agreement

section Examples

variable (piece : String × String) (sent : List (String × String)) (name arguments : String)

/-- A chunk with a piece of the name and of the arguments of the only call. -/
def pieceChunk : PyValue Rat :=
  .mapping [("choices", .list [.mapping [("delta", .mapping [("tool_calls", .list
    [.mapping [("index", .int 0), ("function", .mapping
      [("name", .str piece.1), ("arguments", .str piece.2)])]])])]])]

def pieceText : String :=
  "\x7b\"choices\": [\x7b\"delta\": \x7b\"tool_calls\": [\x7b\"index\": 0, " ++
    "\"function\": \x7b\"name\": \"" ++ piece.1 ++ "\", \"arguments\": \"" ++ piece.2 ++
    "\"\x7d\x7d]\x7d\x7d]\x7d"

/-- Reads the chunks of these pieces. -/
def pieceJson : JsonTexts Rat where
  decode _ := ""
  loads text :=
    match sent.find? fun piece => pieceText piece = text with
    | some piece => .ok (pieceChunk piece)
    | none => .error "Expecting value"
  dumps _ := "..."
  dumpsUnicode _ := "..."
  repr _ := "..."

def pieceDelta : CallDelta := ⟨0, some piece.1, some piece.2⟩

def pieceLines : List RawLine :=
  sent.map (fun piece => .text ("data: " ++ pieceText piece)) ++ [.text "data: [DONE]"]

/-- A plain body with one call. -/
def plainBody : PyValue Rat :=
  .mapping [("choices", .list [.mapping [("message", .mapping [("tool_calls", .list
    [.mapping [("function", .mapping [("name", .str name), ("arguments", .str arguments)])]])])]])]

theorem pieceChunk_shows : ChunkShows (pieceChunk piece) [pieceDelta piece] := by
  have shows_ : Shows (.mapping [("index", .int 0), ("function", .mapping
      [("name", .str piece.1), ("arguments", .str piece.2)])] : PyValue Rat) (pieceDelta piece) :=
    ⟨rfl, rfl, rfl, rfl, rfl⟩
  exact .choice rfl rfl rfl ⟨rfl, rfl, _, rfl, .cons shows_ .nil⟩

theorem plainBody_body : Body (plainBody name arguments) [⟨name, arguments⟩] :=
  ⟨rfl, _, _, _, rfl, rfl, rfl, rfl, .cons ⟨rfl, rfl, rfl, rfl⟩ .nil⟩

theorem piece_streams {sent : List (String × String)} {piece : String × String}
    {line data : String} {rest : List RawLine} {deltas : List CallDelta}
    (event : eventData Rat line = some data) (open_ : data ≠ "[DONE]")
    (found : sent.find? (fun piece => pieceText piece = data) = some piece)
    (later : Streams (pieceJson sent) rest deltas) :
    Streams (pieceJson sent) (.text line :: rest) ([pieceDelta piece] ++ deltas) := by
  have loaded : (pieceJson sent).loads data = .ok (pieceChunk piece) := by
    simp only [pieceJson, found]
  exact .chunk event open_ loaded (pieceChunk_shows piece) later

def toolPieces : List (String × String) := [("kvv_", "["), ("walle_case", "]")]

def toolCall : ToolCall := ⟨toolName, "[]"⟩

theorem toolPieces_stream :
    Streams (pieceJson toolPieces) (pieceLines toolPieces) (toolPieces.map pieceDelta) := by
  have first : eventData Rat ("data: " ++ pieceText ("kvv_", "[")) =
      some (pieceText ("kvv_", "[")) := by decide +kernel
  have second : eventData Rat ("data: " ++ pieceText ("walle_case", "]")) =
      some (pieceText ("walle_case", "]")) := by decide +kernel
  refine piece_streams first ?_ ?_ (piece_streams second ?_ ?_ (.done ?_)) <;> decide +kernel

/-- A call whose deltas are all of the first index. -/
theorem sends_single {call : ToolCall} {deltas : List CallDelta} (some_ : deltas ≠ [])
    (first : ∀ delta ∈ deltas, delta.index = 0)
    (arguments : String.join (deltas.filterMap CallDelta.arguments) = call.arguments)
    (name : String.join (pieces deltas) = call.name ∨ Repeated deltas call.name) :
    Sends [call] deltas := by
  have all : deltasOf 0 deltas = deltas :=
    List.filter_eq_self.mpr fun delta member => decide_eq_true (first delta member)
  have only : ∀ index found, [call][index]? = some found → index = 0 ∧ found = call := by
    intro index found here
    cases index with
    | zero => exact ⟨rfl, (Option.some.inj here).symm⟩
    | succ index => cases here
  constructor
  · exact fun delta member => (first delta member).symm ▸ Nat.succ_pos 0
  · intro index bound
    obtain rfl : index = 0 := Nat.lt_one_iff.mp bound
    rwa [all]
  · intro index found here
    obtain ⟨rfl, rfl⟩ := only index found here
    rwa [all]
  · intro index found here
    obtain ⟨rfl, rfl⟩ := only index found here
    rwa [all]

theorem stream_agrees_iff_tool : ∃ streamed whole,
    reassembleStream (pieceJson toolPieces) (pieceLines toolPieces) = .ok streamed ∧
      parseCompletion (pieceJson toolPieces) (plainBody toolName "[]") = .ok whole ∧
      streamed.toolCalls = whole.toolCalls ∧
      SameOutcome (selectToolArguments (pieceJson toolPieces) streamed)
        (selectToolArguments (pieceJson toolPieces) whole) := by
  have sends : Sends [toolCall] (toolPieces.map pieceDelta) := by
    refine sends_single (List.cons_ne_nil _ _) ?_ ?_ (.inl ?_) <;> decide +kernel
  refine (stream_agrees_iff toolPieces_stream sends (plainBody_body toolName "[]")).mpr ?_
  intro index call here
  refine .inr ?_
  cases index with
  | zero =>
    refine (merged_eq_iff "" _).mp ?_
    decide +kernel
  | succ index => cases here

def goPieces : List (String × String) := [("go", "["), ("go", "]")]

/-- One stream is that of a name in pieces and that of a shorter name repeated; it is read as
the second. -/
theorem cut_name_read_as_repeated :
    Streams (pieceJson goPieces) (pieceLines goPieces) (goPieces.map pieceDelta) ∧
      Sends [⟨"gogo", "[]"⟩] (goPieces.map pieceDelta) ∧
      Sends [⟨"go", "[]"⟩] (goPieces.map pieceDelta) ∧
      Body (plainBody "gogo" "[]") [⟨"gogo", "[]"⟩] ∧
      ∃ streamed whole, reassembleStream (pieceJson goPieces) (pieceLines goPieces) =
          .ok streamed ∧
        parseCompletion (pieceJson goPieces) (plainBody "gogo" "[]") = .ok whole ∧
        streamed.toolCalls = [⟨.str "go", .str "[]"⟩] ∧
        whole.toolCalls = [⟨.str "gogo", .str "[]"⟩] := by
  have streams : Streams (pieceJson goPieces) (pieceLines goPieces) (goPieces.map pieceDelta) := by
    have first : eventData Rat ("data: " ++ pieceText ("go", "[")) =
        some (pieceText ("go", "[")) := by decide +kernel
    have second : eventData Rat ("data: " ++ pieceText ("go", "]")) =
        some (pieceText ("go", "]")) := by decide +kernel
    refine piece_streams first ?_ ?_ (piece_streams second ?_ ?_ (.done ?_)) <;> decide +kernel
  have cut : Sends [⟨"gogo", "[]"⟩] (goPieces.map pieceDelta) := by
    refine sends_single (List.cons_ne_nil _ _) ?_ ?_ (.inl ?_) <;> decide +kernel
  have repeated : Sends [⟨"go", "[]"⟩] (goPieces.map pieceDelta) := by
    refine sends_single (List.cons_ne_nil _ _) ?_ ?_ (.inr ?_)
    · decide +kernel
    · decide +kernel
    · exact fun delta member => by
        rcases List.mem_cons.mp member with rfl | later
        · rfl
        · rw [List.mem_singleton.mp later]
          rfl
  have plain := plainBody_body "gogo" "[]"
  obtain ⟨streamed, ran, merged⟩ := reassembled streams repeated
  obtain ⟨whole, read, listed⟩ := parsed (pieceJson goPieces) plain
  refine ⟨streams, cut, repeated, plain, streamed, whole, ran, read, merged.trans ?_, listed⟩
  have name : (slotOf (goPieces.map pieceDelta) 0).name = "go" := by decide +kernel
  have arguments : (slotOf (goPieces.map pieceDelta) 0).arguments = "[]" := by decide +kernel
  show [(⟨.str (slotOf (goPieces.map pieceDelta) 0).name,
    .str (slotOf (goPieces.map pieceDelta) 0).arguments⟩ : Call Rat)] = _
  rw [name, arguments]

end Examples

end InferenceServer.ToolCallSchema
