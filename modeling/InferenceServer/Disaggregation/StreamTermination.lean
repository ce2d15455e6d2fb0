import InferenceServer.Disaggregation.DecodeStreams

/-! How a registered stream ends. Its callback is in the map, in the hands of one handler,
or has had its end; two handlers get hold of one callback only where a second one comes
between a read and the erasure, or between the last round of a lost connection and its
clearing of the map. -/
namespace InferenceServer.Disaggregation
open Machine

namespace Delivery

def callback : Delivery → StreamCallback
  | chunk callback _ _ | submitted callback _ | thrown callback => callback

/-- The callback whose request is over for this service. -/
def ends : Delivery → Option StreamCallback
  | chunk callback _ isFinal => if isFinal then some callback else none
  | submitted callback _ | thrown callback => some callback

def finals : Delivery → Option StreamCallback
  | chunk callback _ isFinal => if isFinal then some callback else none
  | submitted _ _ | thrown _ => none

theorem callback_of_ends {delivery : Delivery} {callback : StreamCallback}
    (ended : delivery.ends = some callback) : delivery.callback = callback := by
  cases delivery with
  | chunk own sent isFinal =>
    cases isFinal with
    | false => cases ended
    | true => exact Option.some.inj ended
  | submitted own request => exact Option.some.inj ended
  | thrown own => exact Option.some.inj ended

theorem hits_finals_le (delivery : Delivery) (callback : StreamCallback) :
    hits callback delivery.finals ≤ hits callback delivery.ends := by
  cases delivery with
  | chunk own sent isFinal => exact Nat.le_refl _
  | submitted own request => exact Nat.zero_le _
  | thrown own => exact Nat.zero_le _

end Delivery

/-- The deliveries about a callback. -/
def about (callback : StreamCallback) (trace : List Delivery) : Nat :=
  tally (fun delivery => some delivery.callback) trace callback

def endings (callback : StreamCallback) (trace : List Delivery) : Nat :=
  tally Delivery.ends trace callback

namespace Frame

/-- Whether the handler is to end the callback's stream. -/
def holds (callback : StreamCallback) : Frame → Nat
  | answering own _ | continuing own _ | cancelling own _ | aborting own _ =>
    hits callback (some own)
  | sending _ _ | unsent _ _ | erasing _ _ | clearing => 0

/-- The task whose entry the handler has read and is to erase. -/
def erases : Frame → Option TaskId
  | erasing _ message => some message.taskId
  | _ => none

end Frame

abbrev Serving := Running DecodeStreams Frame

/-- A registered stream gets at most one final chunk and nothing after an abort; when it is
out of the map and no handler has it, it has had one end: a final chunk, the submission of
its decoding or the exception of its registration. -/
structure Terminates (serving : Serving) (callback : StreamCallback) : Prop where
  one_final : tally Delivery.finals serving.shared.trace callback ≤ 1
  nothing_after_abort : ∀ before after taskId, serving.shared.trace =
    before ++ .chunk callback (makeAbortChunk taskId) true :: after → about callback after = 0
  one_end : endings callback serving.shared.trace ≤ 1
  ended : callback < serving.shared.registrations →
    (∀ entry ∈ serving.shared.streamCallbacks.entries, entry.2 ≠ callback) →
    (∀ frame ∈ serving.frames, frame.holds callback = 0) →
    endings callback serving.shared.trace = 1

namespace Serving

variable (serving : Serving)

/-- No handler is about to erase the task's entry, alone or with all others. -/
def Untouched (taskId : TaskId) : Prop :=
  ∀ frame ∈ serving.frames, frame ≠ .clearing ∧ frame.erases ≠ some taskId

instance (serving : Serving) (taskId : TaskId) : Decidable (serving.Untouched taskId) :=
  inferInstanceAs (Decidable (∀ frame ∈ serving.frames, _ ∧ _))

/-- No handler reads or takes an entry that another one is about to erase, none adds an
entry over another one or before the map is cleared, a failed registration finds its own
entry, and the service takes the request it is given. -/
def Undisturbed : Turn Call Frame Bool → Prop
  | .call (.handleStreamingRequest taskId) =>
    .clearing ∉ serving.frames ∧ serving.shared.streamCallbacks.lookup taskId = none
  | .call (.onPrefillComplete message) =>
    serving.shared.streamCallbacks.lookup message.taskId ≠ none →
      serving.Untouched message.taskId
  | .call (.abortRequest taskId) =>
    serving.shared.streamCallbacks.lookup taskId ≠ none → serving.Untouched taskId
  | .call .connectionLost =>
    ∀ entry ∈ serving.shared.streamCallbacks.entries, serving.Untouched entry.1
  | .resume (.unsent callback taskId) _ =>
    serving.shared.streamCallbacks.lookup taskId = some callback ∧ serving.Untouched taskId
  | .resume (.continuing _ message) accepted => continueDecode message → accepted
  | .resume _ _ => True

instance (serving : Serving) (turn : Turn Call Frame Bool) :
    Decidable (serving.Undisturbed turn) := by
  unfold Undisturbed
  split <;> infer_instance

/-- The callback's entries that are still to be answered: those a lost connection has
answered wait for its clearing only. -/
def waiting (callback : StreamCallback) : Nat :=
  if .clearing ∈ serving.frames then 0
  else Table.total (fun _ own => hits callback (some own)) serving.shared.streamCallbacks

def share (callback : StreamCallback) : Nat :=
  endings callback serving.shared.trace + load (Frame.holds callback) serving.frames +
    serving.waiting callback

end Serving

/-- After a callback's end there is nothing more about it. -/
def EndIsLast (callback : StreamCallback) (trace : List Delivery) : Prop :=
  ∀ before after, trace = before ++ after → 0 < endings callback before → about callback after = 0

theorem endings_le_about (callback : StreamCallback) (trace : List Delivery) :
    endings callback trace ≤ about callback trace := by
  induction trace with
  | nil => exact Nat.le_refl 0
  | cons delivery rest ih =>
    have first : hits callback delivery.ends ≤ hits callback (some delivery.callback) := by
      by_cases ended : delivery.ends = some callback
      · rw [delivery.callback_of_ends ended, hits_self]
        exact hits_le_one _ _
      · simp [hits, ended]
    simp only [endings, about, tally_cons] at ih ⊢
    omega

theorem finals_le_endings (callback : StreamCallback) (trace : List Delivery) :
    tally Delivery.finals trace callback ≤ endings callback trace := by
  induction trace with
  | nil => exact Nat.le_refl 0
  | cons delivery rest ih =>
    have first := delivery.hits_finals_le callback
    simp only [endings, tally_cons] at ih ⊢
    omega

/-- At most one delivery about a callback is added, and only while it has not ended. -/
theorem EndIsLast.append {callback : StreamCallback} {trace more : List Delivery}
    (last : EndIsLast callback trace) (single : about callback more ≤ 1)
    (live : 0 < about callback more → endings callback trace = 0) :
    EndIsLast callback (trace ++ more) := by
  intro before after split ended
  rcases List.append_eq_append_iff.mp split with ⟨added, rfl, rfl⟩ | ⟨rest, rfl, rfl⟩
  · -- the split lies in what is added
    simp only [about, endings, tally_append] at single live ended ⊢
    have counted := endings_le_about callback added
    simp only [about, endings] at counted
    omega
  · have quiet := last before rest rfl ended
    simp only [about, endings, tally_append] at quiet live ended ⊢
    omega

/-- Every registered callback is in one place, and the entry that a handler has read and is
to erase stays its own until then. -/
structure Settled (serving : Serving) : Prop where
  balanced : ∀ callback, serving.share callback =
    if callback < serving.shared.registrations then 1 else 0
  erasing : ∀ callback message, .erasing callback message ∈ serving.frames →
    serving.shared.streamCallbacks.lookup message.taskId = some callback ∧
      .clearing ∉ serving.frames
  erases_once : ∀ taskId, load (fun frame => hits taskId frame.erases) serving.frames ≤ 1
  last : ∀ callback, EndIsLast callback serving.shared.trace

namespace Settled

variable {serving : Serving}

section

variable (settled : Settled serving) (rest : Option Frame)
include settled

theorem share_le_one (callback : StreamCallback) : serving.share callback ≤ 1 := by
  rw [settled.balanced]
  split <;> omega

theorem terminates (callback : StreamCallback) : Terminates serving callback := by
  have bounded := settled.share_le_one callback
  have finals := finals_le_endings callback serving.shared.trace
  unfold Serving.share at bounded
  refine ⟨by omega, ?_, by omega, ?_⟩
  · intro before after taskId split
    refine settled.last callback (before ++ [.chunk callback (makeAbortChunk taskId) true]) after
      (by simp [split]) ?_
    simp [endings, tally_single, Delivery.ends, hits_self]
  · intro registered absent idle
    have whole := settled.balanced callback
    rw [if_pos registered] at whole
    have notWaiting : serving.waiting callback = 0 := by
      unfold Serving.waiting
      split
      · rfl
      · refine List.sum_eq_zero fun count member => ?_
        obtain ⟨entry, present, rfl⟩ := List.mem_map.mp member
        simp [hits, absent entry present]
    have notHeld : load (Frame.holds callback) serving.frames = 0 := load_eq_zero _ idle
    unfold Serving.share at whole
    omega

/-- A handler takes a further step without the map. -/
theorem goes_on {frame : Frame} (more : List Delivery) (waits : frame ∈ serving.frames)
    (plain : frame ≠ .clearing) (next : ∀ later ∈ rest, later ≠ .clearing ∧ later.erases = none)
    (balance : ∀ callback, endings callback more + load (Frame.holds callback) rest.toList =
      frame.holds callback) (own : ∀ callback, about callback more ≤ frame.holds callback) :
    Settled { shared := { serving.shared with trace := serving.shared.trace ++ more }
              frames := rest.toList ++ serving.frames.erase frame } := by
  have clears : Frame.clearing ∈ rest.toList ++ serving.frames.erase frame ↔
      Frame.clearing ∈ serving.frames := by
    rw [List.mem_append, List.mem_erase_of_ne plain.symm]
    refine ⟨fun either => either.resolve_left fun member => ?_, .inr⟩
    exact (next _ (Option.mem_toList.mp member)).1 rfl
  have still : ∀ later : Frame, later.erases ≠ none →
      later ∈ rest.toList ++ serving.frames.erase frame → later ∈ serving.frames := by
    intro later erasing member
    rcases List.mem_append.mp member with new | old
    · exact absurd (next _ (Option.mem_toList.mp new)).2 erasing
    · exact List.mem_of_mem_erase old
  constructor
  · intro callback
    have whole := settled.balanced callback
    have split := load_erase (Frame.holds callback) waits
    have change := balance callback
    simp only [Serving.share, Serving.waiting, endings, clears, load_append, tally_append]
      at whole change ⊢
    omega
  · intro callback message member
    have old := settled.erasing callback message (still _ (by simp [Frame.erases]) member)
    exact ⟨old.1, fun clearing => old.2 (clears.mp clearing)⟩
  · intro taskId
    have bound := settled.erases_once taskId
    rw [load_erase _ waits] at bound
    have none : load (fun frame => hits taskId frame.erases) rest.toList = 0 :=
      load_eq_zero _ fun later member => by simp [(next later (Option.mem_toList.mp member)).2]
    rw [load_append, none]
    omega
  · intro callback
    have held := own callback
    have whole := settled.share_le_one callback
    have split := load_erase (Frame.holds callback) waits
    unfold Serving.share at whole
    exact (settled.last callback).append (by omega) fun _ => by omega

/-- A handler takes the task's callback off the map. -/
theorem takes {taskId : TaskId} {callback : StreamCallback} {left : List Frame}
    (more : List Delivery) (found : serving.shared.streamCallbacks.lookup taskId = some callback)
    (closed : .clearing ∉ serving.frames) (sublist : left.Sublist serving.frames)
    (kept : ∀ own, load (Frame.holds own) serving.frames = load (Frame.holds own) left)
    (untouched : ∀ frame ∈ left, frame.erases ≠ some taskId)
    (next : ∀ later ∈ rest, later ≠ .clearing ∧ later.erases = none)
    (balance : ∀ own, endings own more + load (Frame.holds own) rest.toList =
      hits own (some callback)) (about_le : ∀ own, about own more ≤ hits own (some callback)) :
    Settled { shared := { serving.shared with
                streamCallbacks := serving.shared.streamCallbacks.erase taskId
                trace := serving.shared.trace ++ more }
              frames := rest.toList ++ left } := by
  have stillClosed : Frame.clearing ∉ rest.toList ++ left := by
    intro member
    rcases List.mem_append.mp member with new | old
    · exact (next _ (Option.mem_toList.mp new)).1 rfl
    · exact closed (sublist.subset old)
  have split := fun own =>
    Table.total_erase (fun _ later => hits own (some later)) found
  constructor
  · intro own
    have whole := settled.balanced own
    have change := balance own
    have here := split own
    have same := kept own
    simp only [Serving.share, Serving.waiting, endings, closed, stillClosed, load_append,
      tally_append, if_false] at whole change ⊢
    omega
  · intro own message member
    rcases List.mem_append.mp member with new | old
    · exact absurd (next _ (Option.mem_toList.mp new)).2 (by simp [Frame.erases])
    · have other : message.taskId ≠ taskId :=
        fun same => untouched _ old (congrArg some same)
      refine ⟨?_, stillClosed⟩
      rw [AList.lookup_erase_ne other]
      exact (settled.erasing own message (sublist.subset old)).1
  · intro other
    have none : load (fun frame => hits other frame.erases) rest.toList = 0 :=
      load_eq_zero _ fun later member => by simp [(next later (Option.mem_toList.mp member)).2]
    rw [load_append, none, Nat.zero_add]
    exact ((sublist.map _).sum_le_sum fun _ _ => Nat.zero_le _).trans (settled.erases_once other)
  · intro own
    have whole := settled.share_le_one own
    have here := split own
    have held := about_le own
    simp only [Serving.share, Serving.waiting, closed, if_false] at whole
    exact (settled.last own).append (by have := hits_le_one own (some callback); omega)
      fun _ => by omega

end

theorem initial : Settled { shared := {} } where
  balanced _ := rfl
  erasing _ _ member := absurd member List.not_mem_nil
  erases_once _ := Nat.zero_le 1
  last _ before after split _ := by
    obtain ⟨rfl, rfl⟩ := List.append_eq_nil_iff.mp split.symm
    rfl

theorem registers {taskId : TaskId} (settled : Settled serving)
    (closed : .clearing ∉ serving.frames)
    (new : serving.shared.streamCallbacks.lookup taskId = none) :
    Settled { shared := { serving.shared with
                streamCallbacks :=
                  serving.shared.streamCallbacks.insert taskId serving.shared.registrations
                registrations := serving.shared.registrations + 1 }
              frames := .sending serving.shared.registrations taskId :: serving.frames } := by
  have stillClosed : Frame.clearing ∉
      Frame.sending serving.shared.registrations taskId :: serving.frames := by
    simp [closed]
  constructor
  · intro callback
    have whole := settled.balanced callback
    have added := Table.total_insert_new (fun _ own => hits callback (some own)) new
      serving.shared.registrations
    simp only [Serving.share, Serving.waiting, closed, stillClosed, if_false, load_cons,
      Frame.holds, added] at whole ⊢
    by_cases fresh : callback = serving.shared.registrations
    · subst fresh
      simp only [hits_self, Nat.lt_irrefl, if_false, Nat.lt_succ_self, if_true] at whole ⊢
      omega
    · have none : hits callback (some serving.shared.registrations) = 0 :=
        if_neg fun same => fresh (Option.some.inj same).symm
      rw [none, Nat.add_zero, Nat.zero_add, whole]
      exact if_congr (Nat.lt_succ_iff_lt_or_eq.trans (or_iff_left fresh)).symm rfl rfl
  · intro callback message member
    have old := settled.erasing callback message
      ((List.mem_cons.mp member).resolve_left fun same => by cases same)
    have other : message.taskId ≠ taskId := by
      intro same
      rw [same, new] at old
      cases old.1
    exact ⟨(AList.lookup_insert_ne other).trans old.1, stillClosed⟩
  · intro other
    simpa [Frame.erases] using settled.erases_once other
  · exact settled.last

/-- A result's handler has read a callback. -/
theorem reads {callback : StreamCallback} {message : PrefillResultMessage}
    (settled : Settled serving)
    (found : serving.shared.streamCallbacks.lookup message.taskId = some callback)
    (untouched : serving.Untouched message.taskId) :
    Settled { shared := serving.shared
              frames := .erasing callback message :: serving.frames } := by
  have closed : Frame.clearing ∉ serving.frames :=
    fun member => (untouched _ member).1 rfl
  have stillClosed : Frame.clearing ∉ Frame.erasing callback message :: serving.frames := by
    simp [closed]
  constructor
  · intro own
    have whole := settled.balanced own
    simp only [Serving.share, Serving.waiting, closed, stillClosed, if_false] at whole ⊢
    simpa [Frame.holds] using whole
  · intro own other member
    rcases List.mem_cons.mp member with same | old
    · cases same
      exact ⟨found, stillClosed⟩
    · exact ⟨(settled.erasing own other old).1, stillClosed⟩
  · intro taskId
    have bound := settled.erases_once taskId
    by_cases same : message.taskId = taskId
    · subst same
      have none : load (fun frame => hits message.taskId frame.erases) serving.frames = 0 :=
        load_eq_zero _ fun frame member => if_neg (untouched frame member).2
      rw [load_cons, none]
      exact hits_le_one _ _
    · have none : hits taskId (Frame.erasing callback message).erases = 0 :=
        if_neg fun read => same (Option.some.inj read)
      rw [load_cons, none, Nat.zero_add]
      exact bound
  · exact settled.last

/-- What a lost connection tells a callback. -/
theorem about_lost (table : Table TaskId StreamCallback) (callback : StreamCallback) :
    about callback (table.entries.map fun entry =>
      .chunk entry.2 (makeErrorChunk entry.1 "connection lost") true) =
      Table.total (fun _ own => hits callback (some own)) table ∧
    endings callback (table.entries.map fun entry =>
      .chunk entry.2 (makeErrorChunk entry.1 "connection lost") true) =
      Table.total (fun _ own => hits callback (some own)) table := by
  unfold about endings Table.total
  induction table.entries with
  | nil => exact ⟨rfl, rfl⟩
  | cons entry rest ih =>
    simp only [List.map_cons, List.sum_cons, tally_cons, ih.1, ih.2]
    exact ⟨rfl, rfl⟩

section

variable (settled : Settled serving)
include settled

/-- All callbacks of the map are told that the connection is lost. -/
theorem loses
    (untouched : ∀ entry ∈ serving.shared.streamCallbacks.entries, serving.Untouched entry.1) :
    Settled { shared := { serving.shared with
                trace := serving.shared.trace ++ serving.shared.streamCallbacks.entries.map
                  fun entry => .chunk entry.2 (makeErrorChunk entry.1 "connection lost") true }
              frames := .clearing :: serving.frames } := by
  have waits : ∀ callback, serving.waiting callback =
      Table.total (fun _ own => hits callback (some own)) serving.shared.streamCallbacks := by
    intro callback
    unfold Serving.waiting
    split
    · rename_i clearing
      refine (List.sum_eq_zero fun count member => ?_).symm
      obtain ⟨entry, present, rfl⟩ := List.mem_map.mp member
      exact absurd rfl (untouched entry present _ clearing).1
    · rfl
  constructor
  · intro callback
    have whole := settled.balanced callback
    have told := (about_lost serving.shared.streamCallbacks callback).2
    simp only [Serving.share, waits] at whole
    simp only [Serving.share, Serving.waiting, endings, tally_append, List.mem_cons, true_or,
      if_true, load_cons, Frame.holds] at whole told ⊢
    omega
  · intro callback message member
    have old := (List.mem_cons.mp member).resolve_left fun same => by cases same
    have found := (settled.erasing callback message old).1
    exact absurd rfl (untouched _ (Table.mem_entries.mpr found) _ old).2
  · intro taskId
    simpa [Frame.erases] using settled.erases_once taskId
  · intro callback
    have whole := settled.share_le_one callback
    have told := (about_lost serving.shared.streamCallbacks callback).1
    simp only [Serving.share, waits] at whole
    exact (settled.last callback).append (by omega) fun _ => by omega

theorem clears (waits : .clearing ∈ serving.frames) :
    Settled { shared := { serving.shared with streamCallbacks := ∅ }
              frames := serving.frames.erase .clearing } := by
  constructor
  · intro callback
    have whole := settled.balanced callback
    have split := load_erase (Frame.holds callback) waits
    simp only [Serving.share, Serving.waiting, waits, if_true, Table.total_empty, ite_self,
      Frame.holds] at whole split ⊢
    omega
  · intro callback message member
    exact absurd waits (settled.erasing callback message (List.mem_of_mem_erase member)).2
  · intro taskId
    have bound := settled.erases_once taskId
    rw [load_erase _ waits] at bound
    simp only at bound ⊢
    omega
  · exact settled.last

theorem called (call : Call) (undisturbed : serving.Undisturbed (.call call)) :
    Settled { shared := (serving.shared.call call).1
              frames := (serving.shared.call call).2.toList ++ serving.frames } := by
  cases call with
  | handleStreamingRequest taskId => exact settled.registers undisturbed.1 undisturbed.2
  | onPrefillComplete message =>
    simp only [DecodeStreams.call]
    cases found : serving.shared.streamCallbacks.lookup message.taskId with
    | none => exact settled
    | some callback => exact settled.reads found (undisturbed (by simp [found]))
  | abortRequest taskId =>
    simp only [DecodeStreams.call]
    cases found : serving.shared.streamCallbacks.lookup taskId with
    | none => exact settled
    | some callback =>
      have untouched := undisturbed (by simp [found])
      have taken := settled.takes (some (.cancelling callback taskId)) [] found
        (fun clearing => (untouched _ clearing).1 rfl) (List.Sublist.refl _) (fun _ => rfl)
        (fun frame member => (untouched frame member).2) (by simp [Frame.erases])
        (fun own => by simp [Frame.holds, endings]) (fun own => by simp [about])
      simpa using taken
  | connectionLost => exact settled.loses undisturbed

theorem erases_other {callback : StreamCallback} {message : PrefillResultMessage}
    (waits : .erasing callback message ∈ serving.frames) :
    ∀ frame ∈ serving.frames.erase (.erasing callback message),
      frame.erases ≠ some message.taskId := by
  intro frame member same
  have bound := settled.erases_once message.taskId
  have here : hits message.taskId (Frame.erasing callback message).erases = 1 := hits_self _
  have there := le_load (fun frame => hits message.taskId frame.erases) member
  rw [load_erase _ waits, here] at bound
  simp only [same, hits_self] at there
  omega

theorem resumed {frame : Frame} {accepted : Bool} (waits : frame ∈ serving.frames)
    (undisturbed : serving.Undisturbed (.resume frame accepted)) :
    Settled { shared := (serving.shared.resume frame accepted).1
              frames := (serving.shared.resume frame accepted).2.toList ++
                serving.frames.erase frame } := by
  cases frame with
  | sending callback taskId =>
    have went := fun rest => settled.goes_on rest [] waits (by simp)
    simp only [List.append_nil] at went
    cases accepted with
    | true => exact went none (by simp) (fun _ => rfl) (fun _ => Nat.zero_le _)
    | false =>
      exact went (some (.unsent callback taskId)) (by simp [Frame.erases]) (fun _ => rfl)
        (fun _ => Nat.zero_le _)
  | unsent callback taskId =>
    obtain ⟨found, untouched⟩ := undisturbed
    refine settled.takes none _ found (fun clearing => (untouched _ clearing).1 rfl)
      List.erase_sublist (fun own => ?_) (fun other member => ?_) (by simp) ?_ ?_
    · rw [load_erase _ waits]
      exact Nat.zero_add _
    · exact (untouched other (List.mem_of_mem_erase member)).2
    · exact fun own => tally_single _ _
    · exact fun own => (tally_single _ _).le
  | erasing callback message =>
    obtain ⟨found, closed⟩ := settled.erasing callback message waits
    have taken := settled.takes (some (.answering callback message)) [] found
      closed List.erase_sublist
      (fun own => by rw [load_erase _ waits]; exact Nat.zero_add _) (settled.erases_other waits)
      (by simp [Frame.erases]) (fun own => by simp [endings, Frame.holds])
      (fun own => Nat.zero_le _)
    simp only [List.append_nil] at taken
    exact taken
  | answering callback message =>
    simp only [DecodeStreams.resume]
    split
    · refine settled.goes_on none _ waits (by simp) (by simp) ?_ ?_
      · exact fun own => tally_single _ _
      · exact fun own => (tally_single _ _).le
    · refine settled.goes_on (some (.continuing callback message)) _ waits (by simp)
        (by simp [Frame.erases]) (fun own => ?_) ?_
      · simp [endings, tally_single, Delivery.ends, Frame.holds]
      · exact fun own => (tally_single _ _).le
  | continuing callback message =>
    simp only [DecodeStreams.resume]
    split
    · rename_i continues
      simp only [undisturbed continues, if_true]
      refine settled.goes_on none _ waits (by simp) (by simp) ?_ ?_
      · exact fun own => tally_single _ _
      · exact fun own => (tally_single _ _).le
    · refine settled.goes_on none _ waits (by simp) (by simp) ?_ ?_
      · exact fun own => tally_single _ _
      · exact fun own => (tally_single _ _).le
  | cancelling callback taskId =>
    have went := settled.goes_on (some (.aborting callback taskId)) [] waits
      (by simp) (by simp [Frame.erases]) (fun own => by simp [endings, Frame.holds])
      (fun own => Nat.zero_le _)
    simp only [List.append_nil] at went
    exact went
  | aborting callback taskId =>
    refine settled.goes_on none _ waits (by simp) (by simp) ?_ ?_
    · exact fun own => tally_single _ _
    · exact fun own => (tally_single _ _).le
  | clearing => exact settled.clears waits

end

end Settled

/-- In every run in which no handler comes between another one's reading or failing of an
entry and its erasure, each stream ends once. -/
theorem streams_terminate {serving : Serving}
    (reached : Reaches decodeHandlers.step Serving.Undisturbed { shared := {} } serving)
    (callback : StreamCallback) : Terminates serving callback := by
  refine (decodeHandlers.invariant Settled .initial ?_ ?_ reached).terminates callback
  · exact fun before call settled undisturbed => settled.called call undisturbed
  · exact fun before frame accepted settled undisturbed waits =>
      settled.resumed waits undisturbed

/-- A prefill of one token, which leaves tokens to decode. -/
def prefilled : PrefillResultMessage where
  taskId := 7
  tokenIds := [11, 12]
  remainingTokens := some 5
  slotId := some 3

/-- A stream is registered, prefilled and handed on; the client's abort comes too late. -/
def handedOn : List (Turn Call Frame Bool) :=
  [.call (.handleStreamingRequest 7), .resume (.sending 0 7) true,
    .call (.onPrefillComplete prefilled), .resume (.erasing 0 prefilled) true,
    .call (.abortRequest 7), .resume (.answering 0 prefilled) true,
    .resume (.continuing 0 prefilled) true]

theorem handedOn_runs :
    (runWithin decodeHandlers.step Serving.Undisturbed { shared := {} }
      handedOn).isSome = true := by
  decide +kernel

theorem streams_terminate_handedOn : Terminates
    ((runWithin decodeHandlers.step Serving.Undisturbed { shared := {} } handedOn).get
      handedOn_runs) 0 :=
  streams_terminate (reaches_get handedOn_runs) 0

/-- The abort comes between the reading of the callback and its erasure. -/
def abortedBetween : List (Turn Call Frame Bool) :=
  [.call (.handleStreamingRequest 7), .resume (.sending 0 7) true,
    .call (.onPrefillComplete prefilled), .call (.abortRequest 7), .resume (.cancelling 0 7) true,
    .resume (.aborting 0 7) true, .resume (.erasing 0 prefilled) true,
    .resume (.answering 0 prefilled) true, .resume (.continuing 0 prefilled) true]

theorem abortedBetween_runs : (runWithin decodeHandlers.step (fun _ _ => True) { shared := {} }
    abortedBetween).isSome = true := by
  decide +kernel

/-- What follows the abort then. -/
def afterAbort : List Delivery :=
  [.chunk 0 { taskId := 7, cachedPromptTokens := some 0 } false,
    .submitted 0 (decodeRequest prefilled)]

theorem stream_goes_on_after_abort : ¬∀ (serving : Serving) (callback : StreamCallback),
    Reaches decodeHandlers.step (fun _ _ => True) { shared := {} } serving →
      Terminates serving callback := by
  intro claim
  have split : ((runWithin decodeHandlers.step (fun _ _ => True) { shared := {} }
      abortedBetween).get abortedBetween_runs).shared.trace =
        [] ++ .chunk 0 (makeAbortChunk 7) true :: afterAbort := by
    decide +kernel
  have quiet : about 0 afterAbort = 0 :=
    (claim _ 0 (reaches_get abortedBetween_runs)).nothing_after_abort _ _ 7 split
  have twice : about 0 afterAbort = 2 := rfl
  omega

end InferenceServer.Disaggregation
