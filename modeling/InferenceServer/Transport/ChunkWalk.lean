import InferenceServer.Transport.HostPlan
import InferenceServer.Transport.SlotTransfer

/-! The walk over the requested chunks against the count of the sender. Both compute in 32 bits:
the walk steps past the last chunk and the count rounds up, so near the top of the range either
may wrap around. -/
namespace InferenceServer.Transport

/-- How many steps cover a distance. -/
def stepsOver (distance step : Nat) : Nat := (distance + (step - 1)) / step

theorem stepsOver_zero {step : Nat} (forward : 0 < step) : stepsOver 0 step = 0 := by
  apply Nat.div_eq_of_lt
  omega

theorem stepsOver_succ {distance step : Nat} (forward : 0 < step) (ahead : 0 < distance) :
    stepsOver distance step = stepsOver (distance - step) step + 1 := by
  unfold stepsOver
  by_cases far : step ≤ distance
  · rw [← Nat.add_div_right _ forward]
    congr 1
    omega
  · rw [Nat.sub_eq_zero_of_le (by omega : distance ≤ step),
      Nat.div_eq_of_lt (by omega : 0 + (step - 1) < step)]
    exact Nat.div_eq_of_lt_le (by omega) (by omega)

theorem stepsOver_covers {distance step : Nat} (forward : 0 < step) :
    distance ≤ stepsOver distance step * step := by
  have rest := Nat.div_add_mod (distance + (step - 1)) step
  have small := Nat.mod_lt (distance + (step - 1)) forward
  unfold stepsOver
  rw [Nat.mul_comm]
  omega

theorem toNat_pos_of_ne_zero {step : UInt32} (walking : step ≠ 0) : 0 < step.toNat :=
  Nat.pos_of_ne_zero fun zero => walking (UInt32.toNat_inj.mp zero)

theorem chunkStart_toNat (start step : UInt32) :
    (chunkStart start step).toNat = start.toNat / step.toNat * step.toNat := by
  have rest := Nat.div_add_mod start.toNat step.toNat
  unfold chunkStart
  rw [UInt32.toNat_sub_of_le _ _ (by rw [UInt32.le_iff_toNat_le, UInt32.toNat_mod]; omega),
    UInt32.toNat_mod, Nat.mul_comm]
  omega

namespace KvSlice

variable {slice : KvSlice} {step : UInt32}

/-- What is left of the walk from a position on, in steps. -/
def stepsFrom (slice : KvSlice) (step pos : UInt32) : Nat :=
  stepsOver (slice.positionEnd.toNat - pos.toNat) step.toNat

section

variable (walking : step ≠ 0)
include walking

theorem stepsFrom_of_not_lt {pos : UInt32} (outside : ¬ pos < slice.positionEnd) :
    slice.stepsFrom step pos = 0 := by
  rw [UInt32.lt_iff_toNat_lt] at outside
  rw [stepsFrom, Nat.sub_eq_zero_of_le (by omega)]
  exact stepsOver_zero (toNat_pos_of_ne_zero walking)

theorem stepsFrom_of_lt {pos : UInt32} (inside : pos < slice.positionEnd)
    (forward : (pos + step).toNat = pos.toNat + step.toNat) :
    slice.stepsFrom step pos = slice.stepsFrom step (pos + step) + 1 := by
  rw [UInt32.lt_iff_toNat_lt] at inside
  rw [stepsFrom, stepsOver_succ (toNat_pos_of_ne_zero walking) (by omega), stepsFrom, forward,
    Nat.sub_sub]

/-- A walk that goes up never wraps around, the step past its last position included. -/
theorem fits_of_sorted {fuel : Nat} {pos : UInt32} {walked : List UInt32}
    (ended : slice.positionsFrom step fuel pos = some walked) (sorted : walked.Pairwise (· < ·)) :
    pos.toNat + slice.stepsFrom step pos * step.toNat < UInt32.size ∧
      walked.length = slice.stepsFrom step pos := by
  induction fuel generalizing pos walked with
  | zero => cases ended
  | succ fuel ih =>
    rw [positionsFrom] at ended
    split at ended
    · rename_i inside
      obtain ⟨others, rest, rfl⟩ := Option.map_eq_some_iff.mp ended
      obtain ⟨least, sorted⟩ := List.pairwise_cons.mp sorted
      have up : pos < pos + step := by
        by_cases again : pos + step < slice.positionEnd
        · cases fuel with
          | zero => cases rest
          | succ fuel =>
            rw [positionsFrom, if_pos again] at rest
            obtain ⟨_, _, rfl⟩ := Option.map_eq_some_iff.mp rest
            exact least _ List.mem_cons_self
        · exact UInt32.lt_of_lt_of_le inside (UInt32.not_lt.mp again)
      have forward : (pos + step).toNat = pos.toNat + step.toNat := by
        have small := step.toNat_lt
        have last := pos.toNat_lt
        rw [UInt32.lt_iff_toNat_lt, UInt32.toNat_add] at up
        rw [UInt32.toNat_add]
        omega
      obtain ⟨fits, counted⟩ := ih rest sorted
      rw [stepsFrom_of_lt walking inside forward, List.length_cons, counted]
      rw [forward] at fits
      exact ⟨by rw [Nat.succ_mul]; omega, rfl⟩
    · rename_i outside
      cases ended
      rw [stepsFrom_of_not_lt walking outside, Nat.zero_mul]
      exact ⟨pos.toNat_lt, rfl⟩

/-- A walk that does not wrap around ends, and goes up in steps until the end. -/
theorem sorted_of_fits {fuel : Nat} {pos : UInt32}
    (fits : pos.toNat + slice.stepsFrom step pos * step.toNat < UInt32.size)
    (enough : slice.stepsFrom step pos < fuel) :
    ∃ walked, slice.positionsFrom step fuel pos = some walked ∧ walked.Pairwise (· < ·) ∧
      ∀ target ∈ walked, target < slice.positionEnd ∧ pos ≤ target ∧
        target.toNat % step.toNat = pos.toNat % step.toNat := by
  induction fuel generalizing pos with
  | zero => cases enough
  | succ fuel ih =>
    rw [positionsFrom]
    split
    · rename_i inside
      have forward : (pos + step).toNat = pos.toNat + step.toNat := by
        rw [UInt32.toNat_add]
        apply Nat.mod_eq_of_lt
        have covers : slice.positionEnd.toNat - pos.toNat ≤ slice.stepsFrom step pos * step.toNat :=
          stepsOver_covers (toNat_pos_of_ne_zero walking)
        rw [UInt32.lt_iff_toNat_lt] at inside
        unfold UInt32.size at fits
        rcases Nat.eq_zero_or_pos (slice.stepsFrom step pos) with none_ | one
        · rw [none_] at covers
          omega
        · have := Nat.le_mul_of_pos_left step.toNat one
          omega
      have fewer := stepsFrom_of_lt walking inside forward
      rw [fewer] at fits enough
      rw [Nat.succ_mul] at fits
      obtain ⟨others, rest, sorted, each⟩ :=
        @ih (pos + step) (by rw [forward]; omega) (by omega)
      have later : ∀ target ∈ others, pos < target := by
        intro target member
        have after := (each target member).2.1
        rw [UInt32.le_iff_toNat_le, forward] at after
        rw [UInt32.lt_iff_toNat_lt]
        have := toNat_pos_of_ne_zero walking
        omega
      refine ⟨pos :: others, by rw [rest]; rfl, List.pairwise_cons.mpr ⟨later, sorted⟩, ?_⟩
      intro target member
      rcases List.mem_cons.mp member with rfl | member
      · exact ⟨inside, UInt32.le_refl _, rfl⟩
      · obtain ⟨before, _, aligned⟩ := each target member
        refine ⟨before, UInt32.le_of_lt (later target member), ?_⟩
        rw [aligned, forward, Nat.add_mod_right]
    · exact ⟨[], rfl, .nil, fun _ member => absurd member List.not_mem_nil⟩

end

/-- The chunk at a position has a token of the range. -/
def Meets (slice : KvSlice) (step pos : UInt32) : Prop :=
  ∃ token : Nat, pos.toNat ≤ token ∧ token < pos.toNat + step.toNat ∧
    slice.positionBegin.toNat ≤ token ∧ token < slice.positionEnd.toNat

/-- The positions where the walk should be. -/
def Requests (slice : KvSlice) (step pos : UInt32) : Prop :=
  pos.toNat % step.toNat = 0 ∧ slice.Meets step pos

/-- Neither the walk nor the count wraps around, or there is nothing to walk over. -/
def Fits (slice : KvSlice) (step : UInt32) : Prop :=
  let start := chunkStart slice.positionBegin step
  slice.layerEnd ≤ slice.layerBegin ∨ slice.positionEnd ≤ start ∨
    start.toNat + slice.stepsFrom step start * step.toNat < UInt32.size ∧
      slice.positionEnd.toNat - start.toNat + (step.toNat - 1) < UInt32.size

theorem layers_eq_nil : slice.layers = [] ↔ slice.layerEnd ≤ slice.layerBegin := by
  rw [layers, List.map_eq_nil_iff, List.range'_eq_nil_iff, UInt32.le_iff_toNat_le]
  omega

theorem chunkStart_aligned (start step : UInt32) :
    (chunkStart start step).toNat % step.toNat = 0 := by
  rw [chunkStart_toNat, Nat.mul_mod_left]

theorem before_of_meets {pos : UInt32} (meets : slice.Meets step pos) :
    pos < slice.positionEnd := by
  obtain ⟨token, low, -, -, high⟩ := meets
  rw [UInt32.lt_iff_toNat_lt]
  omega

/-- A requested position is so many steps from the start. -/
theorem ordinal_of_requests (walking : step ≠ 0) {pos : UInt32} (requests : slice.Requests step pos) :
    ∃ ordinal : Nat, pos.toNat =
      (chunkStart slice.positionBegin step).toNat + ordinal * step.toNat := by
  obtain ⟨aligned, token, low, high, first, -⟩ := requests
  have forward := toNat_pos_of_ne_zero walking
  have place := Nat.div_mul_cancel (Nat.dvd_of_mod_eq_zero aligned)
  have reached : slice.positionBegin.toNat / step.toNat ≤ pos.toNat / step.toNat := by
    apply Nat.le_of_lt_succ
    rw [Nat.div_lt_iff_lt_mul forward, Nat.succ_mul, place]
    omega
  refine ⟨pos.toNat / step.toNat - slice.positionBegin.toNat / step.toNat, ?_⟩
  rw [chunkStart_toNat, ← Nat.add_mul, Nat.add_sub_cancel' reached, place]

/-- A chunk from the start on meets the range if the range has a token at all. -/
theorem meets_of_range (walking : step ≠ 0) {pos : UInt32}
    (range : slice.positionBegin < slice.positionEnd)
    (after : chunkStart slice.positionBegin step ≤ pos) (before : pos < slice.positionEnd) :
    slice.Meets step pos := by
  have rest := Nat.div_add_mod slice.positionBegin.toNat step.toNat
  have small := Nat.mod_lt slice.positionBegin.toNat (toNat_pos_of_ne_zero walking)
  rw [UInt32.lt_iff_toNat_lt] at range before
  rw [UInt32.le_iff_toNat_le, chunkStart_toNat, Nat.mul_comm] at after
  have forward := toNat_pos_of_ne_zero walking
  exact ⟨max pos.toNat slice.positionBegin.toNat, by omega, by omega, by omega, by omega⟩

/-- The count of the sender is right where it has not wrapped around. -/
theorem numChunks_eq_iff (walking : step ≠ 0) :
    (numChunks slice.positionBegin slice.positionEnd step).toNat =
        slice.stepsFrom step (chunkStart slice.positionBegin step) ↔
      slice.positionEnd ≤ chunkStart slice.positionBegin step ∨
        slice.positionEnd.toNat - (chunkStart slice.positionBegin step).toNat +
          (step.toNat - 1) < UInt32.size := by
  have forward := toNat_pos_of_ne_zero walking
  have small := step.toNat_lt
  have last := slice.positionEnd.toNat_lt
  rw [numChunks, if_neg walking]
  split
  · rename_i none_
    rw [stepsFrom_of_not_lt walking (UInt32.not_lt.mpr none_)]
    exact ⟨fun _ => .inl none_, fun _ => rfl⟩
  · rename_i some_
    have ahead := UInt32.le_of_lt (UInt32.not_le.mp some_)
    rw [UInt32.toNat_div, UInt32.toNat_sub, UInt32.toNat_add, UInt32.toNat_sub_of_le _ _ ahead,
      stepsFrom, stepsOver]
    have bound : slice.positionEnd.toNat - (chunkStart slice.positionBegin step).toNat <
        UInt32.size := Nat.lt_of_le_of_lt (Nat.sub_le _ _) last
    generalize slice.positionEnd.toNat - (chunkStart slice.positionBegin step).toNat = distance
      at bound
    have value : (2 ^ 32 - (1 : UInt32).toNat + (distance + step.toNat) % 2 ^ 32) % 2 ^ 32 =
        (distance + (step.toNat - 1)) % UInt32.size := by
      unfold UInt32.size
      rw [UInt32.toNat_one]
      omega
    rw [value]
    constructor
    · intro counted
      right
      by_contra wraps
      have below : (distance + (step.toNat - 1)) % UInt32.size + step.toNat ≤
          distance + (step.toNat - 1) := by
        unfold UInt32.size at *
        omega
      have fewer := Nat.div_le_div_right (c := step.toNat) below
      rw [Nat.add_div_right _ forward] at fewer
      omega
    · rintro (none_ | fits)
      · exact absurd none_ some_
      · rw [Nat.mod_eq_of_lt fits]

end KvSlice

/-- The positions that a walk visits in a layer, in order. -/
def positionsIn (layer : UInt32) (chunks : List (UInt32 × UInt32)) : List UInt32 :=
  (chunks.filter fun chunk => chunk.1 = layer).map Prod.snd

theorem positionsIn_flatMap {positions layers : List UInt32} {layer : UInt32}
    (once : layers.Nodup) (member : layer ∈ layers) :
    positionsIn layer (layers.flatMap fun layer => positions.map fun pos => (layer, pos)) =
      positions := by
  induction layers with
  | nil => cases member
  | cons first rest ih =>
    obtain ⟨fresh, once⟩ := List.nodup_cons.mp once
    rw [positionsIn, List.flatMap_cons, List.filter_append, List.map_append]
    by_cases same : first = layer
    · subst same
      have others : positionsIn first (rest.flatMap fun layer =>
          positions.map fun pos => (layer, pos)) = [] := by
        rw [positionsIn, List.map_eq_nil_iff, List.filter_eq_nil_iff]
        intro chunk chunkIn
        obtain ⟨layer, layerIn, inner⟩ := List.mem_flatMap.mp chunkIn
        obtain ⟨_, _, rfl⟩ := List.mem_map.mp inner
        rw [decide_eq_true_eq]
        rintro rfl
        exact fresh layerIn
      rw [positionsIn] at others
      rw [others, List.append_nil, List.filter_eq_self.mpr (by simp), List.map_map]
      exact List.map_id positions
    · have here : (positions.map fun pos => (first, pos)).filter
          (fun chunk => decide (chunk.1 = layer)) = [] := by
        rw [List.filter_eq_nil_iff]
        intro chunk chunkIn
        obtain ⟨_, _, rfl⟩ := List.mem_map.mp chunkIn
        rwa [decide_eq_true_eq]
      rw [here, List.map_nil, List.nil_append]
      exact ih once ((List.mem_cons.mp member).resolve_left (Ne.symm same))

/-- The walk ends and has been, in each layer and going up, at every chunk of the range, as often
as the sender counts. -/
structure WalksChunks (table : KvTable) (slice : KvSlice) (chunks : List (UInt32 × UInt32)) :
    Prop where
  ended : table.requestedChunks slice = some chunks
  visits : ∀ layer ∈ slice.layers, ∀ pos, slice.Requests table.chunkNTokens pos →
    pos ∈ positionsIn layer chunks
  sorted : ∀ layer ∈ slice.layers, (positionsIn layer chunks).Pairwise (· < ·)
  counted : ∀ layer ∈ slice.layers, (positionsIn layer chunks).length =
    (numChunks slice.positionBegin slice.positionEnd table.chunkNTokens).toNat

variable {table : KvTable} {slice : KvSlice}

section

variable (walking : table.chunkNTokens ≠ 0)
include walking

theorem KvTable.requestedChunks_of_positions {positions : List UInt32}
    (ended : slice.positions table.chunkNTokens = some positions) :
    table.requestedChunks slice =
      some (slice.layers.flatMap fun layer => positions.map fun pos => (layer, pos)) := by
  have all : slice.layers.mapM (m := Option) (fun layer =>
      some (positions.map fun pos => (layer, pos))) =
        some (slice.layers.map fun layer => positions.map fun pos => (layer, pos)) :=
    List.mapM_pure (m := Option)
  rw [requestedChunks, if_neg walking, ended, List.flatMap_def]
  exact congrArg (Option.map List.flatten) all

/-- Without a layer there is nothing to walk over. -/
theorem walksChunks_nil (none_ : slice.layers = []) : WalksChunks table slice [] := by
  refine ⟨?_, ?_, ?_, ?_⟩
  · rw [KvTable.requestedChunks, if_neg walking, none_]
    rfl
  all_goals
    rw [none_]
    rintro _ ⟨⟩

theorem WalksChunks.fits {chunks : List (UInt32 × UInt32)} (walks : WalksChunks table slice chunks)
    : slice.Fits table.chunkNTokens := by
  by_cases none_ : slice.layers = []
  · exact .inl (KvSlice.layers_eq_nil.mp none_)
  · obtain ⟨layer, member⟩ := List.exists_mem_of_ne_nil _ none_
    obtain ⟨positions, ended, rfl⟩ :=
      (KvTable.requestedChunks_cases walking walks.ended).resolve_left fun empty => none_ empty.1
    have here : positionsIn layer (slice.layers.flatMap fun layer => positions.map fun pos =>
        (layer, pos)) = positions := positionsIn_flatMap slice.nodup_layers member
    have sorted := walks.sorted layer member
    have counted := walks.counted layer member
    rw [here] at sorted counted
    obtain ⟨fits, length⟩ := KvSlice.fits_of_sorted walking ended sorted
    rw [length] at counted
    rcases (KvSlice.numChunks_eq_iff walking).mp counted.symm with none_ | counts
    · exact .inr (.inl none_)
    · exact .inr (.inr ⟨fits, counts⟩)

/-- Where nothing wraps around, the walk visits what is requested, and only chunks from the start
to the end of the range. -/
theorem walksChunks_of_fits (fits : slice.Fits table.chunkNTokens) :
    ∃ chunks, WalksChunks table slice chunks ∧ ∀ chunk ∈ chunks,
      chunkStart slice.positionBegin table.chunkNTokens ≤ chunk.2 ∧
        chunk.2 < slice.positionEnd ∧ chunk.2.toNat % table.chunkNTokens.toNat = 0 := by
  by_cases none_ : slice.layers = []
  · exact ⟨[], walksChunks_nil walking none_, nofun⟩
  · have counts := (@KvSlice.numChunks_eq_iff slice _ walking).mpr <| by
      rcases fits with empty | empty | ⟨-, counts⟩
      · exact absurd (KvSlice.layers_eq_nil.mpr empty) none_
      · exact .inl empty
      · exact .inr counts
    have stays : (chunkStart slice.positionBegin table.chunkNTokens).toNat +
        slice.stepsFrom table.chunkNTokens (chunkStart slice.positionBegin table.chunkNTokens) *
          table.chunkNTokens.toNat < UInt32.size := by
      rcases fits with empty | empty | ⟨stays, -⟩
      · exact absurd (KvSlice.layers_eq_nil.mpr empty) none_
      · rw [KvSlice.stepsFrom_of_not_lt walking (UInt32.not_lt.mpr empty), Nat.zero_mul]
        exact UInt32.toNat_lt _
      · exact stays
    have forward := toNat_pos_of_ne_zero walking
    have enough := Nat.le_mul_of_pos_right (slice.stepsFrom table.chunkNTokens
      (chunkStart slice.positionBegin table.chunkNTokens)) forward
    obtain ⟨positions, ended, sorted, each⟩ :=
      @KvSlice.sorted_of_fits slice _ walking (UInt32.size + 1) _ stays (by omega)
    obtain ⟨-, length⟩ := KvSlice.fits_of_sorted walking ended sorted
    have here := fun layer member =>
      @positionsIn_flatMap positions _ layer slice.nodup_layers member
    refine ⟨_, ⟨KvTable.requestedChunks_of_positions walking ended, ?_, ?_, ?_⟩, ?_⟩
    · intro layer member pos requests
      rw [here layer member]
      obtain ⟨ordinal, place⟩ := KvSlice.ordinal_of_requests walking requests
      exact KvSlice.mem_positionsFrom ordinal ended place (KvSlice.before_of_meets requests.2)
    · intro layer member
      rw [here layer member]
      exact sorted
    · intro layer member
      rw [here layer member, length, counts]
    · intro chunk member
      obtain ⟨_, _, inner⟩ := List.mem_flatMap.mp member
      obtain ⟨pos, positioned, rfl⟩ := List.mem_map.mp inner
      obtain ⟨before, after, aligned⟩ := each pos positioned
      exact ⟨after, before, aligned.trans (KvSlice.chunkStart_aligned _ _)⟩

end

/-- The walk and the count do what is requested exactly where neither wraps around. They visit
nothing else, but that a range without a token still has the chunk that it begins in. -/
theorem walksChunks_iff (walking : table.chunkNTokens ≠ 0) :
    ((∃ chunks, WalksChunks table slice chunks) ↔ slice.Fits table.chunkNTokens) ∧
    ((∃ chunks, WalksChunks table slice chunks ∧
        ∀ chunk ∈ chunks, slice.Requests table.chunkNTokens chunk.2) ↔
      slice.Fits table.chunkNTokens ∧ (slice.layerEnd ≤ slice.layerBegin ∨
        slice.positionEnd ≤ chunkStart slice.positionBegin table.chunkNTokens ∨
          slice.positionBegin < slice.positionEnd)) := by
  constructor
  · constructor
    · rintro ⟨chunks, walks⟩
      exact walks.fits walking
    · intro fits
      obtain ⟨chunks, walks, -⟩ := walksChunks_of_fits walking fits
      exact ⟨chunks, walks⟩
  · constructor
    · rintro ⟨chunks, walks, only⟩
      refine ⟨walks.fits walking, ?_⟩
      by_contra missing
      simp only [not_or] at missing
      obtain ⟨layered, ahead, range⟩ := missing
      obtain ⟨layer, member⟩ := List.exists_mem_of_ne_nil _ (mt KvSlice.layers_eq_nil.mp layered)
      obtain ⟨low, high⟩ := KvSlice.mem_layers.mp member
      have first : (layer, chunkStart slice.positionBegin table.chunkNTokens) ∈ chunks :=
        KvTable.mem_requestedChunks walking walks.ended
          ⟨low, high, 0, by omega, UInt32.not_le.mp ahead⟩
      obtain ⟨-, token, -, -, after, before⟩ := only _ first
      rw [UInt32.lt_iff_toNat_lt] at range
      omega
    · rintro ⟨fits, range⟩
      obtain ⟨chunks, walks, each⟩ := walksChunks_of_fits walking fits
      refine ⟨chunks, walks, fun chunk member => ?_⟩
      obtain ⟨after, before, aligned⟩ := each chunk member
      rcases range with empty | empty | range
      · rcases KvTable.requestedChunks_cases walking walks.ended with ⟨-, rfl⟩ | ⟨_, -, rfl⟩
        · cases member
        · rw [KvSlice.layers_eq_nil.mpr empty] at member
          cases member
      · exact absurd (UInt32.lt_of_le_of_lt after before) (UInt32.not_lt.mpr empty)
      · exact ⟨aligned, KvSlice.meets_of_range walking range after before⟩

section LastToken

/-- All but the last token of a sequence of `2 ^ 32`. -/
def wholeSlice : KvSlice := { layerEnd := 1, positionEnd := 0xFFFFFFFF }

/-- A table of which every chunk has two tokens. -/
def pairTable : KvTable where
  chunkNTokens := 2
  deviceGroup := fun _ => []
  hostOf := fun _ => ""
  lookup := fun _ _ _ => none

theorem walksChunks_iff_pairs :
    ((∃ chunks, WalksChunks pairTable { layerEnd := 1, positionEnd := 5 } chunks) ↔
      KvSlice.Fits { layerEnd := 1, positionEnd := 5 } 2) :=
  (@walksChunks_iff pairTable _ (by decide)).1

/-- The step past the last chunk wraps around to the first. -/
theorem wholeSlice_never_walked : ¬ ∃ chunks, WalksChunks pairTable wholeSlice chunks := by
  rintro ⟨chunks, walks⟩
  rcases walks.fits (by decide) with none_ | none_ | ⟨stays, -⟩
  · exact absurd none_ (by decide)
  · exact absurd none_ (by decide)
  · exact absurd stays (by decide)

end LastToken

end InferenceServer.Transport
