import InferenceServer.Machine.Utf8

/-! Tokens that are decoded one at a time. Text that ends in a replacement character is held
back, for the next token may complete its last character. -/
namespace InferenceServer.Tokenizers
open Machine

/-- A loaded tokenizer; `decodeIds` is the decoder of the tokenizers library. -/
structure Tokenizer where
  decodeIds : List Int32 → List UInt8
  specialTokenIds : List UInt32

def toI32 (tokenIds : List UInt32) : List Int32 := tokenIds.map UInt32.toInt32

def Tokenizer.decode (tokenizer : Tokenizer) (tokenIds : List UInt32) (skipSpecialTokens : Bool) :
    List UInt8 :=
  if tokenIds.isEmpty then []
  else if !skipSpecialTokens || tokenizer.specialTokenIds.isEmpty then
    tokenizer.decodeIds (toI32 tokenIds)
  else
    match tokenIds with
    | [token] => if token ∈ tokenizer.specialTokenIds then [] else tokenizer.decodeIds (toI32 [token])
    | tokenIds =>
      let filtered := tokenIds.filter (· ∉ tokenizer.specialTokenIds)
      if filtered.isEmpty then [] else tokenizer.decodeIds (toI32 filtered)

def endsWithReplacementChar (text : List UInt8) : Bool :=
  3 ≤ text.length ∧ text.drop (text.length - 3) = [0xEF, 0xBF, 0xBD]

/-- The tokens that are held back. -/
structure StreamDecoder where
  tokenizer : Tokenizer
  skipSpecialTokens : Bool
  pending : List UInt32 := []

def StreamDecoder.step (decoder : StreamDecoder) (tokenId : UInt32) :
    StreamDecoder × List UInt8 :=
  if decoder.pending.isEmpty then
    let decoded := decoder.tokenizer.decode [tokenId] decoder.skipSpecialTokens
    if !endsWithReplacementChar decoded then (decoder, decoded)
    else ({ decoder with pending := decoder.pending ++ [tokenId] }, [])
  else
    let pending := decoder.pending ++ [tokenId]
    let decoded := decoder.tokenizer.decode pending decoder.skipSpecialTokens
    if !endsWithReplacementChar decoded then ({ decoder with pending := [] }, decoded)
    else ({ decoder with pending := pending }, [])

def StreamDecoder.flush (decoder : StreamDecoder) : StreamDecoder × List UInt8 :=
  if decoder.pending.isEmpty then (decoder, [])
  else ({ decoder with pending := [] },
    decoder.tokenizer.decode decoder.pending decoder.skipSpecialTokens)

/-- The decoder after some tokens, and the piece that each of them gave. -/
def StreamDecoder.steps (decoder : StreamDecoder) : List UInt32 → StreamDecoder × List (List UInt8)
  | [] => (decoder, [])
  | tokenId :: rest =>
    let stepped := decoder.step tokenId
    let later := stepped.1.steps rest
    (later.1, stepped.2 :: later.2)

/-- The library decodes ids to the text of their bytes. -/
def Tokenizer.Decodes (tokenizer : Tokenizer) (bytes : Int32 → List UInt8) : Prop :=
  ∀ ids, tokenizer.decodeIds ids = Utf8.lossy (ids.flatMap bytes)

section Decodes

variable {tokenizer : Tokenizer} {bytes : Int32 → List UInt8} {skip : Bool} {tokenIds : List UInt32}

/-- The bytes of a token; a special token has none where it is skipped. -/
def tokenBytes (tokenizer : Tokenizer) (bytes : Int32 → List UInt8) (skip : Bool) (token : UInt32) :
    List UInt8 :=
  if skip ∧ token ∈ tokenizer.specialTokenIds then [] else bytes token.toInt32

theorem tokenBytes_filter (tokenIds : List UInt32) :
    tokenIds.flatMap (tokenBytes tokenizer bytes true) =
      (toI32 (tokenIds.filter (· ∉ tokenizer.specialTokenIds))).flatMap bytes := by
  induction tokenIds with
  | nil => rfl
  | cons token rest ih =>
    rw [List.flatMap_cons, ih, tokenBytes]
    by_cases special : token ∈ tokenizer.specialTokenIds
    · rw [if_pos ⟨rfl, special⟩, List.filter_cons_of_neg (by simpa using special), List.nil_append]
    · rw [if_neg fun both => special both.2, List.filter_cons_of_pos (by simpa using special)]
      rfl

theorem tokenBytes_all (kept : skip = false ∨ tokenizer.specialTokenIds = []) (tokenIds : List UInt32) :
    tokenIds.flatMap (tokenBytes tokenizer bytes skip) = (toI32 tokenIds).flatMap bytes := by
  rw [toI32, List.flatMap_map]
  refine List.flatMap_congr fun token _ => if_neg ?_
  rintro ⟨skipped, special⟩
  rcases kept with kept | none_
  · exact absurd (kept.symm.trans skipped) Bool.false_ne_true
  · rw [none_] at special
    cases special

/-- Tokens are decoded to the text of their bytes on every path. -/
theorem decode_eq (decodes : tokenizer.Decodes bytes) (tokenIds : List UInt32) (skip : Bool) :
    tokenizer.decode tokenIds skip =
      Utf8.lossy (tokenIds.flatMap (tokenBytes tokenizer bytes skip)) := by
  unfold Tokenizer.decode
  by_cases kept : skip = false ∨ tokenizer.specialTokenIds = []
  · rw [if_pos (show (!skip || tokenizer.specialTokenIds.isEmpty) = true by simpa using kept),
      tokenBytes_all kept, decodes]
    cases tokenIds with
    | nil => rfl
    | cons token rest => rfl
  · rw [if_neg (show ¬ (!skip || tokenizer.specialTokenIds.isEmpty) = true by simpa using kept)]
    obtain ⟨skipped, _⟩ := not_or.mp kept
    rw [Bool.not_eq_false] at skipped
    rw [skipped, tokenBytes_filter]
    match tokenIds with
    | [] => rfl
    | [token] =>
      by_cases special : token ∈ tokenizer.specialTokenIds
      · rw [List.filter_cons_of_neg (by simpa using special)]
        exact if_pos special
      · rw [List.filter_cons_of_pos (by simpa using special), ← decodes]
        exact if_neg special
    | first :: second :: rest =>
      cases none_ : (first :: second :: rest).filter (· ∉ tokenizer.specialTokenIds) with
      | nil => simp only [none_]; rfl
      | cons token others =>
        simp only [none_]
        exact decodes _

theorem endsWithReplacementChar_append (text : List UInt8) :
    endsWithReplacementChar (text ++ Utf8.replacement) = true := by
  rw [endsWithReplacementChar, decide_eq_true_eq, List.length_append]
  refine ⟨Nat.le_add_left _ _, ?_⟩
  rw [show text.length + Utf8.replacement.length - 3 = text.length from rfl, List.drop_left]
  rfl

/-- Text that does not end in a replacement character ends with a whole character. -/
theorem whole_of_not_endsWith {text : List UInt8}
    (ends : endsWithReplacementChar (Utf8.lossy text) = false) :
    (Utf8.run .start text).1 = .start := by
  by_contra within
  obtain ⟨before, same⟩ := Utf8.lossy_within within
  rw [same, endsWithReplacementChar_append] at ends
  cases ends

/-- What the decoder has given is the text of some tokens that end with a whole character,
and it holds back the tokens after them. -/
structure Streamed (bytes : Int32 → List UInt8) (decoder : StreamDecoder) (given : List UInt32)
    (pieces : List (List UInt8)) : Prop where
  split : ∃ done, given = done ++ decoder.pending ∧
    (Utf8.run .start
      (done.flatMap (tokenBytes decoder.tokenizer bytes decoder.skipSpecialTokens))).1 = .start ∧
    pieces.flatten =
      Utf8.lossy (done.flatMap (tokenBytes decoder.tokenizer bytes decoder.skipSpecialTokens))

variable {decoder : StreamDecoder} {given : List UInt32} {pieces : List (List UInt8)}

theorem step_eq (decoder : StreamDecoder) (tokenId : UInt32) :
    decoder.step tokenId =
      if endsWithReplacementChar (decoder.tokenizer.decode (decoder.pending ++ [tokenId])
          decoder.skipSpecialTokens) then
        ({ decoder with pending := decoder.pending ++ [tokenId] }, [])
      else ({ decoder with pending := [] },
        decoder.tokenizer.decode (decoder.pending ++ [tokenId]) decoder.skipSpecialTokens) := by
  unfold StreamDecoder.step
  cases held : decoder.pending with
  | nil =>
    simp only [List.isEmpty_nil, ↓reduceIte, List.nil_append, Bool.not_eq_true']
    split
    · rename_i ends
      rw [if_neg (by rw [ends]; exact Bool.false_ne_true), ← held]
    · rename_i ends
      rw [if_pos (by simpa using ends)]
  | cons first rest =>
    simp only [List.isEmpty_cons, Bool.false_eq_true, ↓reduceIte, Bool.not_eq_true']
    split
    · rename_i ends
      rw [if_neg (by rw [ends]; exact Bool.false_ne_true)]
    · rename_i ends
      rw [if_pos (by simpa using ends)]

/-- Text that a piece is given of ends with a whole character, and so the pieces go on each
other. -/
theorem Streamed.step (decodes : decoder.tokenizer.Decodes bytes)
    (streamed : Streamed bytes decoder given pieces) (tokenId : UInt32) :
    Streamed bytes (decoder.step tokenId).1 (given ++ [tokenId])
      (pieces ++ [(decoder.step tokenId).2]) := by
  obtain ⟨done, rfl, whole, text⟩ := streamed.split
  rw [step_eq, decode_eq decodes, List.append_assoc]
  cases ends : endsWithReplacementChar (Utf8.lossy ((decoder.pending ++ [tokenId]).flatMap
      (tokenBytes decoder.tokenizer bytes decoder.skipSpecialTokens))) with
  | true =>
    refine ⟨done, rfl, whole, ?_⟩
    rw [if_pos rfl, List.flatten_append, List.flatten_singleton, List.append_nil]
    exact text
  | false =>
    refine ⟨done ++ (decoder.pending ++ [tokenId]), (List.append_nil _).symm, ?_, ?_⟩
    · rw [if_neg Bool.false_ne_true, List.flatMap_append, Utf8.run_append, whole]
      exact whole_of_not_endsWith ends
    · rw [if_neg Bool.false_ne_true, List.flatten_append, List.flatten_singleton, text,
        @List.flatMap_append _ _ done]
      exact (Utf8.lossy_append whole _).symm

theorem step_keeps (decoder : StreamDecoder) (tokenId : UInt32) :
    (decoder.step tokenId).1.tokenizer = decoder.tokenizer ∧
      (decoder.step tokenId).1.skipSpecialTokens = decoder.skipSpecialTokens := by
  rw [step_eq]
  split <;> exact ⟨rfl, rfl⟩

theorem steps_keep (decoder : StreamDecoder) (tokenIds : List UInt32) :
    (decoder.steps tokenIds).1.tokenizer = decoder.tokenizer ∧
      (decoder.steps tokenIds).1.skipSpecialTokens = decoder.skipSpecialTokens := by
  induction tokenIds generalizing decoder with
  | nil => exact ⟨rfl, rfl⟩
  | cons tokenId rest ih =>
    obtain ⟨tokenizer, skip⟩ := step_keeps decoder tokenId
    obtain ⟨later, also⟩ := ih (decoder.step tokenId).1
    exact ⟨later.trans tokenizer, also.trans skip⟩

theorem Streamed.steps (decodes : decoder.tokenizer.Decodes bytes)
    (streamed : Streamed bytes decoder given pieces) (tokenIds : List UInt32) :
    Streamed bytes (decoder.steps tokenIds).1 (given ++ tokenIds)
      (pieces ++ (decoder.steps tokenIds).2) := by
  induction tokenIds generalizing decoder given pieces with
  | nil => rwa [List.append_nil, show (decoder.steps []).2 = [] from rfl, List.append_nil]
  | cons tokenId rest ih =>
    have next := streamed.step decodes tokenId
    rw [← (step_keeps decoder tokenId).1] at decodes
    have whole := ih decodes next
    rw [List.append_assoc, List.append_assoc] at whole
    exact whole

theorem streamed_start (bytes : Int32 → List UInt8) (tokenizer : Tokenizer) (skip : Bool) :
    Streamed bytes ⟨tokenizer, skip, []⟩ [] [] :=
  ⟨[], rfl, rfl, rfl⟩

/-- The text that is left is that of the tokens held back. -/
theorem Streamed.flush (decodes : decoder.tokenizer.Decodes bytes)
    (streamed : Streamed bytes decoder given pieces) : pieces.flatten ++ decoder.flush.2 =
      decoder.tokenizer.decode given decoder.skipSpecialTokens := by
  obtain ⟨done, rfl, whole, text⟩ := streamed.split
  rw [decode_eq decodes, List.flatMap_append, Utf8.lossy_append whole, text]
  refine congrArg _ ?_
  unfold StreamDecoder.flush
  cases held : decoder.pending with
  | nil => rfl
  | cons first rest =>
    rw [if_neg (show ¬ (first :: rest).isEmpty = true from Bool.false_ne_true)]
    show decoder.tokenizer.decode (first :: rest) decoder.skipSpecialTokens = _
    rw [decode_eq decodes]

/-- The pieces of a stream and what is flushed are together the text of all tokens, so every
piece is what the whole text has at its place. -/
theorem stream_equals_decode (tokenizer : Tokenizer) (bytes : Int32 → List UInt8)
    (decodes : tokenizer.Decodes bytes) (skip : Bool) (tokenIds : List UInt32) :
    ((StreamDecoder.mk tokenizer skip []).steps tokenIds).2.flatten ++
        ((StreamDecoder.mk tokenizer skip []).steps tokenIds).1.flush.2 =
      tokenizer.decode tokenIds skip ∧
    ∀ before piece after,
      ((StreamDecoder.mk tokenizer skip []).steps tokenIds).2 = before ++ piece :: after →
        ∃ rest, tokenizer.decode tokenIds skip = before.flatten ++ (piece ++ rest) := by
  have streamed := (streamed_start bytes tokenizer skip).steps decodes tokenIds
  obtain ⟨same, kept⟩ := steps_keep ⟨tokenizer, skip, []⟩ tokenIds
  have decodesLater : (StreamDecoder.steps ⟨tokenizer, skip, []⟩ tokenIds).1.tokenizer.Decodes bytes := by
    rw [same]
    exact decodes
  have whole := streamed.flush decodesLater
  rw [same, kept] at whole
  refine ⟨whole, fun before piece after split => ⟨after.flatten ++
    (StreamDecoder.steps ⟨tokenizer, skip, []⟩ tokenIds).1.flush.2, ?_⟩⟩
  refine whole.symm.trans ?_
  rw [List.nil_append, split, List.flatten_append, List.flatten_cons, List.append_assoc,
    List.append_assoc]

/-- Tokens are held back only while their text ends in a replacement character. -/
def StreamDecoder.Waits (decoder : StreamDecoder) : Prop :=
  decoder.pending ≠ [] → endsWithReplacementChar
    (decoder.tokenizer.decode decoder.pending decoder.skipSpecialTokens) = true

theorem waits_step (decoder : StreamDecoder) (tokenId : UInt32) : (decoder.step tokenId).1.Waits := by
  rw [step_eq]
  split
  · rename_i ends
    exact fun _ => ends
  · exact fun held => absurd rfl held

theorem StreamDecoder.Waits.steps (waits : decoder.Waits) (tokenIds : List UInt32) :
    (decoder.steps tokenIds).1.Waits := by
  induction tokenIds generalizing decoder with
  | nil => exact waits
  | cons tokenId rest ih => exact ih (waits_step decoder tokenId)

/-- As soon as the text of the tokens so far does not end in a replacement character, all of it has
been given and nothing is held back. -/
theorem given_at_once (decodes : tokenizer.Decodes bytes)
    (whole : endsWithReplacementChar (tokenizer.decode tokenIds skip) = false) :
    ((StreamDecoder.mk tokenizer skip []).steps tokenIds).1.pending = [] ∧
      ((StreamDecoder.mk tokenizer skip []).steps tokenIds).2.flatten =
        tokenizer.decode tokenIds skip := by
  have waits := @StreamDecoder.Waits.steps ⟨tokenizer, skip, []⟩ (fun held => absurd rfl held) tokenIds
  obtain ⟨done, split, ended, text⟩ :=
    ((streamed_start bytes tokenizer skip).steps decodes tokenIds).split
  obtain ⟨same, kept⟩ := steps_keep ⟨tokenizer, skip, []⟩ tokenIds
  rw [StreamDecoder.Waits, same, kept, decode_eq decodes] at waits
  rw [same, kept] at ended text
  rw [List.nil_append] at split text
  generalize (StreamDecoder.steps ⟨tokenizer, skip, []⟩ tokenIds).1.pending = pending at *
  have nothing : pending = [] := by
    by_contra held
    have ends := waits held
    rw [decode_eq decodes, split, List.flatMap_append, Utf8.lossy_append ended,
      endsWithReplacementChar, decide_eq_false_iff_not] at whole
    rw [endsWithReplacementChar, decide_eq_true_eq] at ends
    rw [List.length_append, Nat.add_sub_assoc ends.1, List.drop_length_add_append] at whole
    exact whole ⟨Nat.le_trans ends.1 (Nat.le_add_left _ _), ends.2⟩
  rw [nothing, List.append_nil] at split
  refine ⟨nothing, text.trans ?_⟩
  rw [split, decode_eq decodes]

end Decodes

/-- A tokenizer of the two parts of a euro sign and a special token. -/
def euroTokenizer : Tokenizer where
  decodeIds ids := Utf8.lossy (ids.flatMap fun id =>
    if id = 0 then [0xE2, 0x82] else if id = 1 then [0xAC] else [0x3C, 0x3E])
  specialTokenIds := [2]

theorem stream_equals_decode_euro :
    ((StreamDecoder.mk euroTokenizer true []).steps [0, 2, 1]).2.flatten ++
        ((StreamDecoder.mk euroTokenizer true []).steps [0, 2, 1]).1.flush.2 =
      [0xE2, 0x82, 0xAC] :=
  (stream_equals_decode euroTokenizer _ (fun _ => rfl) true [0, 2, 1]).1.trans (by decide +kernel)

theorem given_at_once_euro :
    ((StreamDecoder.mk euroTokenizer true []).steps [0, 2, 1]).2.flatten = [0xE2, 0x82, 0xAC] :=
  (@given_at_once _ _ true [0, 2, 1] (fun _ => rfl) (by decide +kernel)).2.trans (by decide +kernel)

end InferenceServer.Tokenizers
