import InferenceServer.Machine.Marks
import InferenceServer.PrefixCache.ConversationHasher

/-! What the rows of a slot's KV cache hold, and what the hashing loop has counted
after any number of them. A later prompt renders the rows without the reasoning and
without the markers that its chat template drops from history. -/
namespace InferenceServer.PrefixCache
open Machine

inductive RowKind where
  | ordinary
  | reasoning
  | startMarker
  | endMarker
  deriving DecidableEq

structure Row where
  kind : RowKind
  token : UInt32

def Row.ordinary (row : Row) : Bool := row.kind = .ordinary

def ThinkMarkersInHistory.drops (markersInHistory : ThinkMarkersInHistory) (row : Row) : Bool :=
  match row.kind with
  | .ordinary => false
  | .reasoning => true
  | .startMarker => !markersInHistory.start
  | .endMarker => !markersInHistory.end_

/-- A marker that comes back with a later prompt. -/
def ThinkMarkersInHistory.keepsMarker (markersInHistory : ThinkMarkersInHistory) (row : Row) :
    Bool :=
  !row.ordinary && !markersInHistory.drops row

variable (sizes : BlockSizes) (xxh64 : Xxh64) (ids : ThinkTokenIds)
variable (markersInHistory : ThinkMarkersInHistory) (tokens : List UInt32)

def kindOf (inThinking : Bool) (token : UInt32) : RowKind :=
  if ids.filterThinking then
    if token = ids.thinkStartId then .startMarker
    else if token = ids.thinkEndId then .endMarker
    else if inThinking then .reasoning
    else .ordinary
  else .ordinary

/-- Whether a think block is open after a token. -/
def thinkingNext (inThinking : Bool) (token : UInt32) : Bool :=
  match kindOf ids inThinking token with
  | .ordinary => false
  | .reasoning => true
  | .startMarker => true
  | .endMarker => false

def thinkingAfter : Bool := tokens.foldl (thinkingNext ids) false

def rowsFrom : Bool → List UInt32 → List Row
  | _, [] => []
  | inThinking, token :: rest =>
    ⟨kindOf ids inThinking token, token⟩ :: rowsFrom (thinkingNext ids inThinking token) rest

/-- The rows that these tokens fill. -/
def rows : List Row := rowsFrom ids false tokens

/-- What a later prompt supplies of the rows. -/
def render : List UInt32 :=
  ((rows ids tokens).filter fun row => !markersInHistory.drops row).map Row.token

/-- The rows that end with the ordinary row of this number. -/
def rowsUpTo (ordinary : Nat) : List Row :=
  (rows ids tokens).take (markEnd Row.ordinary (rows ids tokens) ordinary)

variable {sizes xxh64 ids markersInHistory}

@[simp] theorem rowsFrom_length (inThinking : Bool) (tokens : List UInt32) :
    (rowsFrom ids inThinking tokens).length = tokens.length := by
  induction tokens generalizing inThinking with
  | nil => rfl
  | cons token rest ih => simp [rowsFrom, ih]

@[simp] theorem rows_length (tokens : List UInt32) : (rows ids tokens).length = tokens.length :=
  rowsFrom_length ..

theorem rowsFrom_append (inThinking : Bool) (tokens more : List UInt32) :
    rowsFrom ids inThinking (tokens ++ more) = rowsFrom ids inThinking tokens ++
      rowsFrom ids (tokens.foldl (thinkingNext ids) inThinking) more := by
  induction tokens generalizing inThinking with
  | nil => rfl
  | cons token rest ih => simp [rowsFrom, ih]

theorem rows_append (tokens more : List UInt32) : rows ids (tokens ++ more) =
    rows ids tokens ++ rowsFrom ids (thinkingAfter ids tokens) more :=
  rowsFrom_append ..

theorem rows_take (tokens : List UInt32) (count : Nat) :
    rows ids (tokens.take count) = (rows ids tokens).take count := by
  by_cases short : tokens.length ≤ count
  · rw [List.take_of_length_le short, List.take_of_length_le (by simpa using short)]
  · conv => rhs; rw [← List.take_append_drop count tokens, rows_append]
    rw [List.take_left' (by simp; omega)]

theorem rows_concat (tokens : List UInt32) (token : UInt32) : rows ids (tokens ++ [token]) =
    rows ids tokens ++ [⟨kindOf ids (thinkingAfter ids tokens) token, token⟩] :=
  rows_append ..

theorem thinkingAfter_concat (tokens : List UInt32) (token : UInt32) :
    thinkingAfter ids (tokens ++ [token]) = thinkingNext ids (thinkingAfter ids tokens) token := by
  simp [thinkingAfter]

/-- Every row is ordinary, dropped or a kept marker. -/
theorem rows_partition (markersInHistory : ThinkMarkersInHistory) (list : List Row) :
    list.countP Row.ordinary +
    list.countP markersInHistory.drops + list.countP markersInHistory.keepsMarker = list.length := by
  induction list with
  | nil => rfl
  | cons row rest ih =>
    simp only [List.countP_cons, List.length_cons]
    obtain ⟨kind, token⟩ := row
    cases kind <;>
      simp only [Row.ordinary, ThinkMarkersInHistory.drops, ThinkMarkersInHistory.keepsMarker] <;>
      grind

theorem keepsMarker_none {start end_ : Bool} (dropped : start = false ∧ end_ = false)
    (list : List Row) : list.countP (ThinkMarkersInHistory.keepsMarker ⟨start, end_⟩) = 0 := by
  obtain ⟨rfl, rfl⟩ := dropped
  rw [List.countP_eq_zero]
  rintro ⟨kind, token⟩ _
  cases kind <;> simp [ThinkMarkersInHistory.keepsMarker, ThinkMarkersInHistory.drops, Row.ordinary]

/-- A round of the loop hashes an ordinary token and counts a dropped one. -/
theorem HashState.next_eq (state : HashState) (token : UInt32) :
    state.next sizes xxh64 ids markersInHistory token =
      let kind := kindOf ids state.inThinking token
      if kind = .ordinary then state.addToBlock sizes xxh64 token
      else
        { state with
          inThinking := thinkingNext ids state.inThinking token
          thinkCount := state.thinkCount + if markersInHistory.drops ⟨kind, token⟩ then 1 else 0 } := by
  by_cases filter : ids.filterThinking
  · by_cases isStart : token = ids.thinkStartId
    · cases kept : markersInHistory.start <;>
        simp [HashState.next, kindOf, thinkingNext, filter, isStart, ThinkMarkersInHistory.drops, kept]
    · by_cases isEnd : token = ids.thinkEndId
      · have isStart : ids.thinkEndId ≠ ids.thinkStartId := isEnd ▸ isStart
        cases kept : markersInHistory.end_ <;>
          simp [HashState.next, kindOf, thinkingNext, filter, isStart, isEnd,
            ThinkMarkersInHistory.drops, kept]
      · cases open_ : state.inThinking <;>
          simp [HashState.next, kindOf, thinkingNext, filter, isStart, isEnd, open_,
            ThinkMarkersInHistory.drops]
  · simp [HashState.next, kindOf, filter]

end InferenceServer.PrefixCache
