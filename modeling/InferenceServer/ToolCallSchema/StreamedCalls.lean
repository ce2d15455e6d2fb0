import InferenceServer.Machine.Attempts
import InferenceServer.ToolCallSchema.Completions

/-! The deltas of a stream merge to the tool calls of the plain completion, unless a piece of a
name is taken for the name repeated. -/
namespace InferenceServer.ToolCallSchema
open Machine

structure ToolCall where
  name : String
  arguments : String

/-- What a delta says about one tool call. -/
structure CallDelta where
  index : Nat
  name : Option String
  arguments : Option String

/-- The name of a call with a piece that another delta has. -/
def addPiece (built : String) (piece : String) : String :=
  if piece ≠ "" ∧ built ≠ piece then built ++ piece else built

def addText (built : String) (text : Option String) : String := built ++ text.getD ""

def mergeSlot (slot : Slot) (delta : CallDelta) : Slot where
  name := delta.name.elim slot.name (addPiece slot.name)
  arguments := addText slot.arguments delta.arguments

def mergeDelta (toolCalls : Dict Int Slot) (delta : CallDelta) : Dict Int Slot :=
  toolCalls.set delta.index (mergeSlot ((toolCalls.lookup delta.index).getD {}) delta)

def deltasOf (index : Nat) (deltas : List CallDelta) : List CallDelta :=
  deltas.filter (·.index = index)

section Names

variable (built : String) (pieces : List String)

/-- A piece that equals all that came before it. -/
def Echoes : Prop :=
  ∃ before piece, before ++ [piece] <+: pieces ∧ piece ≠ "" ∧ piece = before.foldl (· ++ ·) built

theorem echoes_cons {built piece : String} {rest : List String} :
    Echoes built (piece :: rest) ↔ (piece ≠ "" ∧ piece = built) ∨ Echoes (built ++ piece) rest := by
  constructor
  · rintro ⟨before, echo, part, some_, same⟩
    cases before with
    | nil =>
      obtain ⟨rfl, -⟩ := List.cons_prefix_cons.mp part
      exact .inl ⟨some_, same⟩
    | cons first before =>
      obtain ⟨rfl, later⟩ := List.cons_prefix_cons.mp part
      exact .inr ⟨before, echo, later, some_, same⟩
  · rintro (⟨some_, same⟩ | ⟨before, echo, part, some_, same⟩)
    · exact ⟨[], piece, List.cons_prefix_cons.mpr ⟨rfl, List.nil_prefix⟩, some_, same⟩
    · exact ⟨piece :: before, echo, List.cons_prefix_cons.mpr ⟨rfl, part⟩, some_, same⟩

theorem not_echoes_nil : ¬ Echoes built [] := by
  rintro ⟨before, piece, part, -⟩
  exact absurd (List.prefix_nil.mp part) (List.append_ne_nil_of_right_ne_nil _ (List.cons_ne_nil _ _))

theorem length_addPiece_le (built piece : String) :
    (addPiece built piece).length ≤ (built ++ piece).length := by
  unfold addPiece
  split
  · exact le_rfl
  · rw [String.length_append]
    exact Nat.le_add_right _ _

theorem length_joined :
    (pieces.foldl (· ++ ·) built).length = built.length + (pieces.map String.length).sum := by
  induction pieces generalizing built with
  | nil => rfl
  | cons piece rest ih =>
    rw [List.foldl_cons, ih, String.length_append, List.map_cons, List.sum_cons, Nat.add_assoc]

theorem length_merged_le :
    (pieces.foldl addPiece built).length ≤ built.length + (pieces.map String.length).sum := by
  induction pieces generalizing built with
  | nil => exact le_rfl
  | cons piece rest ih =>
    have first := length_addPiece_le built piece
    rw [String.length_append] at first
    rw [List.foldl_cons, List.map_cons, List.sum_cons]
    exact (ih _).trans (by omega)

/-- Pieces merge to what they make up together, just if none is taken for a repetition. -/
theorem merged_eq_iff :
    pieces.foldl addPiece built = pieces.foldl (· ++ ·) built ↔ ¬ Echoes built pieces := by
  induction pieces generalizing built with
  | nil => exact ⟨fun _ => not_echoes_nil built, fun _ => rfl⟩
  | cons piece rest ih =>
    rw [echoes_cons, not_or, ← ih, List.foldl_cons, List.foldl_cons]
    by_cases echo : piece ≠ "" ∧ piece = built
    · refine ⟨fun same => absurd (congrArg String.length same) ?_, fun both => absurd echo both.1⟩
      have kept : addPiece built piece = built := if_neg fun new => new.2 echo.2.symm
      have short := length_merged_le built rest
      have some_ : piece.length ≠ 0 := fun none_ => echo.1 (String.length_eq_zero_iff.mp none_)
      rw [kept, length_joined, String.length_append]
      omega
    · have added : addPiece built piece = built ++ piece := by
        unfold addPiece
        split
        · rfl
        · rename_i old
          have empty : piece = "" := by
            by_contra some_
            exact old ⟨some_, fun same => echo ⟨some_, same.symm⟩⟩
          rw [empty, String.append_empty]
      rw [added]
      exact ⟨fun same => ⟨echo, same⟩, fun both => both.2⟩

/-- A name that is repeated whole is kept once. -/
theorem merged_repeated {name : String} {pieces : List String} (some_ : pieces ≠ [])
    (all : ∀ piece ∈ pieces, piece = name) : pieces.foldl addPiece "" = name := by
  have stays : ∀ rest : List String, (∀ piece ∈ rest, piece = name) →
      rest.foldl addPiece name = name := by
    intro rest
    induction rest with
    | nil => exact fun _ => rfl
    | cons piece rest ih =>
      intro same
      rw [List.foldl_cons, same piece List.mem_cons_self, addPiece, if_neg fun new => new.2 rfl]
      exact ih fun other member => same other (List.mem_cons_of_mem _ member)
  cases pieces with
  | nil => exact absurd rfl some_
  | cons piece rest =>
    have first : addPiece "" name = name := by
      unfold addPiece
      split
      · exact String.empty_append
      · rename_i old
        by_contra different
        exact old ⟨fun empty => different empty.symm, different⟩
    rw [List.foldl_cons, all piece List.mem_cons_self, first]
    exact stays rest fun other member => all other (List.mem_cons_of_mem _ member)

end Names

section Slots

variable {index : Nat} {deltas : List CallDelta} {toolCalls : Dict Int Slot}

theorem foldl_mergeSlot_name (slot : Slot) (deltas : List CallDelta) :
    (deltas.foldl mergeSlot slot).name =
      (deltas.filterMap CallDelta.name).foldl addPiece slot.name := by
  induction deltas generalizing slot with
  | nil => rfl
  | cons delta rest ih =>
    rw [List.foldl_cons, ih, List.filterMap_cons, mergeSlot]
    cases delta.name <;> rfl

theorem foldl_mergeSlot_arguments (slot : Slot) (deltas : List CallDelta) :
    (deltas.foldl mergeSlot slot).arguments =
      (deltas.filterMap CallDelta.arguments).foldl (· ++ ·) slot.arguments := by
  induction deltas generalizing slot with
  | nil => rfl
  | cons delta rest ih =>
    rw [List.foldl_cons, ih, List.filterMap_cons, mergeSlot]
    cases delta.arguments with
    | none => exact congrArg (List.foldl _ · _) String.append_empty
    | some text => rfl

/-- What the deltas of a call merge to, whatever comes in between. -/
theorem lookup_merged (toolCalls : Dict Int Slot) (deltas : List CallDelta) (index : Nat) :
    (deltas.foldl mergeDelta toolCalls).lookup index =
      if deltasOf index deltas = [] then toolCalls.lookup index
      else some ((deltasOf index deltas).foldl mergeSlot ((toolCalls.lookup index).getD {})) := by
  induction deltas generalizing toolCalls with
  | nil => rfl
  | cons delta rest ih =>
    rw [List.foldl_cons, ih, mergeDelta, Dict.lookup_set]
    by_cases here : delta.index = index
    · have first : deltasOf index (delta :: rest) = delta :: deltasOf index rest :=
        List.filter_cons_of_pos (decide_eq_true here)
      have same : (index : Int) = delta.index := congrArg _ here.symm
      rw [first, if_pos same, if_neg (List.cons_ne_nil _ _), here,
        List.foldl_cons, Option.getD_some]
      split
      · rename_i none_
        rw [none_]
        rfl
      · rfl
    · have other : deltasOf index (delta :: rest) = deltasOf index rest :=
        List.filter_cons_of_neg (by simpa using here)
      have apart : (index : Int) ≠ delta.index := fun same => here (Int.ofNat_inj.mp same).symm
      rw [other, if_neg apart]

/-- The calls that a stream has slots for. -/
theorem mem_keys_merged (deltas : List CallDelta) (key : Int) :
    key ∈ (deltas.foldl mergeDelta Dict.empty).keys ↔ ∃ delta ∈ deltas, key = delta.index := by
  have keys : ∀ toolCalls : Dict Int Slot, key ∈ (deltas.foldl mergeDelta toolCalls).keys ↔
      key ∈ toolCalls.keys ∨ ∃ delta ∈ deltas, key = delta.index := by
    induction deltas with
    | nil => simp
    | cons delta rest ih =>
      intro toolCalls
      rw [List.foldl_cons, ih, mergeDelta, Dict.mem_keys_set]
      simp only [List.mem_cons, exists_eq_or_imp]
      tauto
  rw [keys]
  exact or_iff_right List.not_mem_nil

end Slots

section Order

/-- Sorted, the keys of the slots are the indexes of the calls. -/
theorem sorted_keys {toolCalls : Dict Int Slot} {count : Nat}
    (keys : ∀ key, key ∈ toolCalls.keys ↔ ∃ index < count, key = (index : Int)) :
    toolCalls.keys.mergeSort (· ≤ ·) = (List.range count).map Int.ofNat := by
  have sorted : (toolCalls.keys.mergeSort (· ≤ ·)).Pairwise (· ≤ ·) := by
    have ordered := @List.pairwise_mergeSort Int (fun first second => decide (first ≤ second))
      (fun a b c => by simp only [decide_eq_true_eq]; exact Int.le_trans)
      (fun a b => by simpa using Int.le_total a b) toolCalls.keys
    exact ordered.imp of_decide_eq_true
  have range : ((List.range count).map Int.ofNat).Pairwise (· ≤ ·) :=
    List.pairwise_map.mpr (List.pairwise_le_range.imp Int.ofNat_le.mpr)
  refine List.Perm.eq_of_pairwise (fun a b _ _ => Int.le_antisymm) sorted range ?_
  refine (List.mergeSort_perm _ _).trans ?_
  have distinct : ((List.range count).map Int.ofNat).Nodup :=
    List.nodup_range.map fun _ _ same => Int.ofNat_inj.mp same
  refine (List.perm_ext_iff_of_nodup toolCalls.distinct distinct).mpr fun key => ?_
  refine (keys key).trans ?_
  rw [List.mem_map]
  constructor
  · rintro ⟨index, bound, rfl⟩
    exact ⟨index, List.mem_range.mpr bound, rfl⟩
  · rintro ⟨index, member, rfl⟩
    exact ⟨index, List.mem_range.mp member, rfl⟩

end Order

end InferenceServer.ToolCallSchema
