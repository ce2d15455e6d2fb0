import InferenceServer.Machine.Run
import Mathlib.Data.List.Nodup

/-! How senders hand their requests to the thread that owns the socket, and how this thread takes
leave of them when the transport is stopped. Each access to a flag is a step, and so is each
critical section of the queue; what the socket makes of a message and whether one has come in is
left open. -/
namespace InferenceServer.Sockets
open Machine

/-- Where a call of `sendRawData` is. A call that is refused returns false as well. -/
inductive SendProgress
  | checkingRunning
  | checkingIo
  | pushing
  | refused
  | flagging
  | waiting
  | told (ok : Bool)
  deriving DecidableEq

/-- Where the IO thread is: at the condition of its loop, in one of its three parts, or in the last
drain. -/
inductive IoThread
  | checkingIo
  | checkingStop
  | popping (processed : Bool)
  | sending (request : Nat)
  | handing (request : Nat)
  | answering (request : Nat) (ok : Bool)
  | receiving (sent : Bool)
  | waiting
  | failing
  | failingOne (request : Nat)
  | exited
  deriving DecidableEq

/-- Where the call of `stop` is. -/
inductive Stopper
  | checking
  | clearingRunning
  | clearingIo
  | notifying
  | requesting
  | joining
  | stopped
  deriving DecidableEq

/-- What happens to a request: the queue accepts it, it is handed to the socket, and its sender is
told. -/
inductive SendEvent
  | accepted (request : Nat)
  | handed (request : Nat)
  | told (request : Nat) (ok : Bool)
  deriving DecidableEq

def SendEvent.accepted? : SendEvent → Option Nat
  | accepted request => some request
  | _ => none

def SendEvent.handed? : SendEvent → Option Nat
  | handed request => some request
  | _ => none

/-- A transport that has been started. The request of a call has its number, and the results are
those that have been set, in order. -/
structure ZmqTransport where
  running : Bool := true
  ioActive : Bool := true
  stopRequested : Bool := false
  hasItems : Bool := false
  items : List Nat := []
  senders : List SendProgress := []
  io : IoThread := .checkingIo
  stopper : Stopper := .checking
  results : List (Nat × Bool) := []
  events : List SendEvent := []

/-- A new call, a step of a call, of the IO thread (which is told what is left open) or of the call
of `stop`. -/
inductive SendLabel
  | sendRawData
  | sender (request : Nat)
  | io (outcome : Bool)
  | stop

namespace ZmqTransport

variable (transport : ZmqTransport) (request : Nat)

def move (sender : SendProgress) : ZmqTransport :=
  { transport with senders := transport.senders.set request sender }

def note (event : SendEvent) : ZmqTransport :=
  { transport with events := transport.events ++ [event] }

def setValue (ok : Bool) : ZmqTransport :=
  { transport with results := transport.results ++ [(request, ok)] }

def refuse : ZmqTransport :=
  (transport.move request .refused).note (.told request false)

def sendStep : Option ZmqTransport :=
  match transport.senders[request]? with
  | some .checkingRunning =>
    if transport.running then some (transport.move request .checkingIo)
    else some (transport.refuse request)
  | some .checkingIo =>
    if transport.ioActive then some (transport.move request .pushing)
    else some (transport.refuse request)
  | some .pushing =>
    if transport.running && transport.ioActive then
      some ({ transport with items := transport.items ++ [request] }.move request
        .flagging |>.note (.accepted request))
    else some (transport.refuse request)
  | some .flagging => some ({ transport with hasItems := true }.move request .waiting)
  | some .waiting => (transport.results.lookup request).map fun ok =>
    (transport.move request (.told ok)).note (.told request ok)
  | _ => none

def ioStep (outcome : Bool) : Option ZmqTransport :=
  match transport.io with
  | .checkingIo =>
    some { transport with io := if transport.ioActive then .checkingStop else .failing }
  | .checkingStop =>
    some { transport with io := if transport.stopRequested then .failing else .popping false }
  | .popping processed => match transport.items with
    | [] => some { transport with hasItems := false, io := .receiving processed }
    | request :: items => some { transport with items, io := .sending request }
  | .sending request => some {
      transport with
      io := if transport.running then .handing request else .answering request false }
  | .handing request =>
    some ({ transport with io := .answering request outcome }.note (.handed request))
  | .answering request ok =>
    some ({ transport with io := .popping true }.setValue request ok)
  | .receiving sent =>
    some { transport with io := if sent || outcome then .checkingIo else .waiting }
  | .waiting => some { transport with io := .checkingIo }
  | .failing => match transport.items with
    | [] => some { transport with hasItems := false, io := .exited }
    | request :: items => some { transport with items, io := .failingOne request }
  | .failingOne request =>
    some ({ transport with io := .failing }.setValue request false)
  | .exited => none

def stopStep : Option ZmqTransport :=
  match transport.stopper with
  | .checking => some { transport with stopper := .clearingRunning }
  | .clearingRunning => some { transport with running := false, stopper := .clearingIo }
  | .clearingIo => some { transport with ioActive := false, stopper := .notifying }
  | .notifying => some { transport with hasItems := false, stopper := .requesting }
  | .requesting => some { transport with stopRequested := true, stopper := .joining }
  | .joining => if transport.io = .exited then some { transport with stopper := .stopped } else none
  | .stopped => none

def step : SendLabel → Option ZmqTransport
  | .sendRawData => some { transport with senders := transport.senders ++ [.checkingRunning] }
  | .sender request => transport.sendStep request
  | .io outcome => transport.ioStep outcome
  | .stop => transport.stopStep

/-- The requests that the queue has accepted, in order. -/
def accepted : List Nat :=
  transport.events.filterMap SendEvent.accepted?

/-- The requests that have been handed to the socket, in order. -/
def handed : List Nat :=
  transport.events.filterMap SendEvent.handed?

/-- The requests whose results have been set, in order. -/
def answered : List Nat := transport.results.map Prod.fst

end ZmqTransport

/-- The request that the thread has taken out of the queue. -/
def IoThread.request? : IoThread → Option Nat
  | sending request | handing request | answering request _ | failingOne request => some request
  | _ => none

/-- The request that the thread has taken and may still hand to the socket. -/
def IoThread.unsent? : IoThread → Option Nat
  | sending request | handing request => some request
  | _ => none

/-- The thread has left its loop. -/
def IoThread.Leaving : IoThread → Prop
  | failing | failingOne _ | exited => True
  | _ => False

/-- The queue has accepted the request. -/
def SendProgress.Accepted : SendProgress → Prop
  | flagging | waiting | told _ => True
  | _ => False

/-- What the call has returned. -/
def SendProgress.returned : SendProgress → Option Bool
  | refused => some false
  | told ok => some ok
  | _ => none

/-- `stop` has stored that the IO thread is not to go on. -/
def Stopper.Cleared : Stopper → Prop
  | notifying | requesting | joining | stopped => True
  | _ => False

namespace ZmqTransport

/-- The requests that are accepted and wait for their results, in order. -/
def pending (transport : ZmqTransport) : List Nat :=
  transport.io.request?.toList ++ transport.items

/-- Once the thread leaves its loop, nothing is accepted any more. -/
structure Closes (transport : ZmqTransport) : Prop where
  requested : transport.stopRequested → transport.ioActive = false
  cleared : transport.stopper.Cleared → transport.ioActive = false
  leaving : transport.io.Leaving → transport.ioActive = false
  exited : transport.io = .exited → transport.items = []

/-- What has happened so far agrees with where everyone is. -/
structure Agrees (transport : ZmqTransport) : Prop where
  conserved : transport.accepted = transport.answered ++ transport.pending
  known : ∀ request, request ∈ transport.accepted ↔
    ∃ sender ∈ transport.senders[request]?, sender.Accepted
  once : transport.accepted.Nodup
  handed : (transport.handed ++ transport.io.unsent?.toList).Sublist
    (transport.answered ++ transport.io.request?.toList)
  told : ∀ request ok, .told request ok ∈ transport.events →
    transport.senders[request]?.bind SendProgress.returned = some ok
  results : ∀ request ok, transport.senders[request]? = some (.told ok) →
    (request, ok) ∈ transport.results
  ordered : transport.events.Pairwise fun earlier later =>
    ∀ request, later = .handed request → earlier ≠ .told request false

variable {transport after : ZmqTransport} {request : Nat}

theorem accepted_note (transport : ZmqTransport) (event : SendEvent) :
    (transport.note event).accepted = transport.accepted ++ event.accepted?.toList := by
  cases event <;> exact List.filterMap_append

theorem handed_note (transport : ZmqTransport) (event : SendEvent) :
    (transport.note event).handed = transport.handed ++ event.handed?.toList := by
  cases event <;> exact List.filterMap_append

@[simp] theorem senders_note (transport : ZmqTransport) (event : SendEvent) :
    (transport.note event).senders = transport.senders := rfl

theorem getElem?_move {sender before : SendProgress}
    (found : transport.senders[request]? = some before) (other : Nat) :
    (transport.move request sender).senders[other]? =
      if other = request then some sender else transport.senders[other]? := by
  have inside := (List.getElem?_eq_some_iff.mp found).1
  rw [move, List.getElem?_set]
  by_cases same : request = other
  · rw [if_pos same, if_pos inside, if_pos same.symm]
  · rw [if_neg same, if_neg (Ne.symm same)]

/-- What a step of a call may change: a request is added only while the thread is to go on. -/
theorem sendStep_frame (stepped : transport.sendStep request = some after) :
    ∃ senders hasItems more events, after = { transport with
        senders, hasItems
        items := transport.items ++ more
        events := transport.events ++ events } ∧
      (more = [] ∨ transport.ioActive = true) := by
  have same : transport.items ++ [] = transport.items := List.append_nil _
  have silent : transport.events ++ [] = transport.events := List.append_nil _
  unfold sendStep at stepped
  cases found : transport.senders[request]? with
  | none => simp [found] at stepped
  | some sender =>
    rw [found] at stepped
    cases sender with
    | checkingRunning | checkingIo =>
      dsimp only at stepped
      split at stepped
      · cases stepped
        exact ⟨_, _, [], [], by rw [same, silent]; rfl, .inl rfl⟩
      · cases stepped
        exact ⟨_, _, [], [_], by rw [same]; rfl, .inl rfl⟩
    | pushing =>
      dsimp only at stepped
      split at stepped
      · rename_i open_
        cases stepped
        exact ⟨_, _, [request], [_], rfl, .inr (Bool.and_eq_true_iff.mp open_).2⟩
      · cases stepped
        exact ⟨_, _, [], [_], by rw [same]; rfl, .inl rfl⟩
    | flagging =>
      cases stepped
      exact ⟨_, _, [], [], by rw [same, silent]; rfl, .inl rfl⟩
    | waiting =>
      obtain ⟨_, _, rfl⟩ := Option.map_eq_some_iff.mp stepped
      exact ⟨_, _, [], [_], by rw [same]; rfl, .inl rfl⟩
    | refused => cases stepped
    | told => cases stepped

/-- What a step of `stop` may change. -/
theorem stopStep_frame (stepped : transport.stopStep = some after) :
    ∃ running ioActive stopRequested hasItems stopper, after = { transport with
      running, ioActive, stopRequested, hasItems, stopper } := by
  unfold stopStep at stepped
  cases at_ : transport.stopper with
  | joining =>
    rw [at_] at stepped
    dsimp only at stepped
    split at stepped
    · cases stepped
      exact ⟨_, _, _, _, _, rfl⟩
    · cases stepped
  | checking | clearingRunning | clearingIo | notifying | requesting =>
    rw [at_] at stepped
    cases stepped
    exact ⟨_, _, _, _, _, rfl⟩
  | stopped =>
    rw [at_] at stepped
    cases stepped

namespace Agrees

section

variable (agrees : Agrees transport)
include agrees

/-- A call moves on, and what is known of it does not change. -/
theorem move {sender before : SendProgress} (found : transport.senders[request]? = some before)
    (accepted : sender.Accepted ↔ before.Accepted) (open_ : sender.returned = none)
    (before_ : before.returned = none) : Agrees (transport.move request sender) := { agrees with
  known other := by
    rw [getElem?_move found]
    refine (agrees.known other).trans ?_
    split
    · rename_i same
      subst same
      simp [found, accepted]
    · exact Iff.rfl
  told other ok logged := by
    rw [getElem?_move found]
    have returned := agrees.told other ok logged
    split
    · rename_i same
      subst same
      rw [found, Option.bind_some, before_] at returned
      cases returned
    · exact returned
  results other ok told := by
    rw [getElem?_move found] at told
    split at told
    · rw [Option.some.inj told] at open_
      cases open_
    · exact agrees.results other ok told }

/-- Events other than a hand-over may come at any time. -/
theorem ordered_note {event : SendEvent} (other : event.handed? = none) :
    (transport.events ++ [event]).Pairwise fun earlier later =>
      ∀ request, later = .handed request → earlier ≠ .told request false := by
  refine List.pairwise_append.mpr ⟨agrees.ordered, List.pairwise_singleton _ _, ?_⟩
  intro earlier _ later last request handed
  rw [List.mem_singleton.mp last] at handed
  rw [handed] at other
  cases other

/-- A call returns, with false if it was refused and else with the result. -/
theorem return_ {sender before : SendProgress} {ok : Bool}
    (found : transport.senders[request]? = some before)
    (accepted : sender.Accepted ↔ before.Accepted) (returns : sender.returned = some ok)
    (before_ : before.returned = none)
    (result : sender = .told ok → (request, ok) ∈ transport.results) :
    Agrees ((transport.move request sender).note (.told request ok)) where
  conserved := by
    rw [accepted_note]
    exact (List.append_nil _).trans agrees.conserved
  known other := by
    rw [accepted_note, senders_note, getElem?_move found]
    refine (List.append_nil transport.accepted ▸ agrees.known other).trans ?_
    split
    · rename_i same
      subst same
      simp [found, accepted]
    · exact Iff.rfl
  once := by
    rw [accepted_note]
    exact (List.append_nil transport.accepted).symm ▸ agrees.once
  handed := by
    rw [handed_note]
    exact (List.append_nil transport.handed).symm ▸ agrees.handed
  told other ok' logged := by
    rw [senders_note, getElem?_move found]
    rcases List.mem_append.mp logged with earlier | last
    · have returned := agrees.told other ok' earlier
      split
      · rename_i same
        subst same
        rw [found, Option.bind_some, before_] at returned
        cases returned
      · exact returned
    · cases List.mem_singleton.mp last
      rw [if_pos rfl, Option.bind_some, returns]
  results other ok' told := by
    rw [senders_note, getElem?_move found] at told
    split at told
    · rename_i same
      subst same
      obtain rfl := Option.some.inj told
      obtain rfl := Option.some.inj returns
      exact result rfl
    · exact agrees.results other ok' told
  ordered := agrees.ordered_note rfl

/-- The queue accepts a request. -/
theorem accept (found : transport.senders[request]? = some .pushing) :
    Agrees (({ transport with items := transport.items ++ [request] }.move request .flagging).note
      (.accepted request)) := by
  have moved := fun other => @getElem?_move
    { transport with items := transport.items ++ [request] } request .flagging .pushing found other
  have fresh : request ∉ transport.accepted := by
    rw [agrees.known]
    rintro ⟨sender, member, accepted⟩
    obtain rfl := Option.some.inj (found.symm.trans member)
    exact accepted
  refine ⟨?_, fun other => ?_, ?_, ?_, fun other ok logged => ?_, fun other ok told => ?_,
    agrees.ordered_note rfl⟩
  · rw [accepted_note]
    change transport.accepted ++ [request] =
      transport.answered ++ (transport.io.request?.toList ++ (transport.items ++ [request]))
    rw [agrees.conserved, pending, List.append_assoc, List.append_assoc]
  · rw [accepted_note, senders_note, moved]
    change other ∈ transport.accepted ++ [request] ↔ _
    rw [List.mem_append, List.mem_singleton, agrees.known]
    split
    · rename_i same
      simp [same, SendProgress.Accepted]
    · rename_i different
      simp [different]
  · rw [accepted_note]
    exact List.Nodup.append agrees.once (List.nodup_singleton request)
      (List.disjoint_singleton.mpr fresh)
  · rw [handed_note]
    exact (List.append_nil transport.handed).symm ▸ agrees.handed
  · rw [senders_note, moved]
    rcases List.mem_append.mp logged with earlier | last
    · have returned := agrees.told other ok earlier
      split
      · rename_i same
        subst same
        rw [found] at returned
        cases returned
      · exact returned
    · cases List.mem_singleton.mp last
  · rw [senders_note, moved] at told
    split at told
    · cases told
    · exact agrees.results other ok told

theorem sendStep (stepped : transport.sendStep request = some after) : Agrees after := by
  have refused : ∀ before : SendProgress, transport.senders[request]? = some before →
      ¬ before.Accepted → before.returned = none → Agrees (transport.refuse request) := by
    intro before found unaccepted open_
    exact agrees.return_ found (iff_of_false id unaccepted) rfl open_ nofun
  unfold ZmqTransport.sendStep at stepped
  cases found : transport.senders[request]? with
  | none => simp [found] at stepped
  | some sender =>
    rw [found] at stepped
    cases sender with
    | checkingRunning | checkingIo =>
      dsimp only at stepped
      split at stepped
      · cases stepped
        exact agrees.move found Iff.rfl rfl rfl
      · cases stepped
        exact refused _ found id rfl
    | pushing =>
      dsimp only at stepped
      split at stepped
      · cases stepped
        exact agrees.accept found
      · cases stepped
        exact refused _ found id rfl
    | flagging =>
      cases stepped
      have moved : Agrees (transport.move request .waiting) := agrees.move found Iff.rfl rfl rfl
      exact { moved with }
    | waiting =>
      obtain ⟨ok, set, rfl⟩ := Option.map_eq_some_iff.mp stepped
      refine agrees.return_ found Iff.rfl rfl rfl fun _ => ?_
      obtain ⟨before, later, split_, -⟩ := List.lookup_eq_some_iff.mp set
      rw [split_]
      exact List.mem_append_right _ List.mem_cons_self
    | refused => cases stepped
    | told => cases stepped

/-- The thread moves on without an event, and what waits for a result does not change. -/
theorem io {io : IoThread} {items : List Nat} {hasItems : Bool}
    (pending : io.request?.toList ++ items = transport.pending)
    (handed : (transport.handed ++ io.unsent?.toList).Sublist
      (transport.answered ++ io.request?.toList)) : Agrees { transport with io, items, hasItems } :=
  { agrees with
    conserved := agrees.conserved.trans (congrArg _ pending.symm)
    handed := handed }

/-- The result of the request that the thread has taken is set. -/
theorem answer {io : IoThread} {ok : Bool} (taken : transport.io.request? = some request)
    (free : io.request? = none) (sent : io.unsent? = none) (unsent : transport.io.unsent? = none) :
    Agrees ({ transport with io }.setValue request ok) :=
  { agrees with
    conserved := by
      have conserved := agrees.conserved
      rw [pending, taken] at conserved
      refine conserved.trans ?_
      simp [answered, pending, setValue, free]
    handed := by
      have handed := agrees.handed
      rw [taken, unsent] at handed
      simpa [answered, setValue, free, sent, ZmqTransport.handed] using handed
    results := fun other told returned =>
      List.mem_append_left _ (agrees.results other told returned) }

/-- A request that is about to be handed over has not been answered, so its sender does not know of
any result. -/
theorem not_told (taken : transport.io.request? = some request) :
    .told request false ∉ transport.events := by
  intro logged
  have waits : request ∈ transport.accepted := by
    rw [agrees.conserved, pending, taken]
    simp
  have unanswered : request ∉ transport.answered := by
    have once := agrees.once
    rw [agrees.conserved, pending, taken] at once
    exact fun early => List.disjoint_of_nodup_append once early
      (List.mem_append_left _ (by simp))
  obtain ⟨sender, found, accepted⟩ := (agrees.known request).mp waits
  have returned := agrees.told request false logged
  rw [Option.mem_def.mp found, Option.bind_some] at returned
  cases sender with
  | refused => exact accepted
  | told ok =>
    obtain rfl := Option.some.inj returned
    exact unanswered (List.mem_map.mpr ⟨_, agrees.results request _ found, rfl⟩)
  | checkingRunning | checkingIo | pushing | flagging | waiting => cases returned

/-- The request that the thread has taken is handed to the socket. -/
theorem hand {ok : Bool} (at_ : transport.io = .handing request) :
    Agrees ({ transport with io := .answering request ok }.note (.handed request)) := by
  have log : ({ transport with io := .answering request ok }.note (.handed request)).accepted =
      transport.accepted := (accepted_note ..).trans (List.append_nil _)
  refine ⟨?_, fun other => ?_, ?_, ?_, fun other ok logged => ?_, agrees.results, ?_⟩
  · rw [log, agrees.conserved, pending, at_]
    rfl
  · rw [log]
    exact agrees.known other
  · rw [log]
    exact agrees.once
  · have handed := agrees.handed
    rw [at_] at handed
    rw [handed_note]
    exact (List.append_nil (transport.handed ++ [request])).symm ▸ handed
  · rcases List.mem_append.mp logged with earlier | last
    · exact agrees.told other ok earlier
    · cases List.mem_singleton.mp last
  · refine List.pairwise_append.mpr ⟨agrees.ordered, List.pairwise_singleton _ _, ?_⟩
    intro earlier member later last other handed
    rw [List.mem_singleton.mp last] at handed
    cases handed
    rintro rfl
    exact agrees.not_told (by rw [at_]; rfl) member

theorem ioStep {outcome : Bool} (stepped : transport.ioStep outcome = some after) :
    Agrees after := by
  have handed := agrees.handed
  unfold ZmqTransport.ioStep at stepped
  cases at_ : transport.io with
  | checkingIo | checkingStop | receiving | waiting =>
    rw [at_] at stepped handed
    cases stepped
    refine agrees.io ?_ ?_
    · rw [pending, at_]
      (try split) <;> rfl
    · (try split) <;> exact handed
  | popping processed =>
    rw [at_] at stepped handed
    dsimp only at stepped
    split at stepped
    · rename_i none_
      cases stepped
      refine agrees.io ?_ handed
      rw [pending, at_, none_]
      rfl
    · rename_i request items some_
      cases stepped
      refine agrees.io ?_ ?_
      · rw [pending, at_, some_]
        rfl
      · have earlier : transport.handed.Sublist transport.answered := by
          simpa [IoThread.unsent?, IoThread.request?] using handed
        exact earlier.append_right [request]
  | failing =>
    rw [at_] at stepped handed
    dsimp only at stepped
    split at stepped
    · rename_i none_
      cases stepped
      refine agrees.io ?_ handed
      rw [pending, at_, none_]
      rfl
    · rename_i request items some_
      cases stepped
      refine agrees.io ?_ ?_
      · rw [pending, at_, some_]
        rfl
      · have earlier : transport.handed.Sublist transport.answered := by
          simpa [IoThread.unsent?, IoThread.request?] using handed
        simpa [IoThread.unsent?, IoThread.request?] using
          earlier.trans (List.sublist_append_left _ [request])
  | sending request =>
    rw [at_] at stepped handed
    cases stepped
    refine agrees.io ?_ ?_
    · rw [pending, at_]
      split <;> rfl
    · split
      · exact handed
      · exact (List.append_nil transport.handed).symm ▸
          (List.sublist_append_left _ _).trans handed
  | handing request =>
    rw [at_] at stepped
    cases stepped
    exact agrees.hand at_
  | answering request ok =>
    rw [at_] at stepped
    cases stepped
    exact agrees.answer (by rw [at_]; rfl) rfl rfl (by rw [at_]; rfl)
  | failingOne request =>
    rw [at_] at stepped
    cases stepped
    exact agrees.answer (by rw [at_]; rfl) rfl rfl (by rw [at_]; rfl)
  | exited =>
    rw [at_] at stepped
    cases stepped

end

end Agrees

theorem Agrees.step (agrees : Agrees transport) {label : SendLabel}
    (stepped : transport.step label = some after) : Agrees after := by
  cases label with
  | sendRawData =>
    cases stepped
    have fresh : ∀ (holds : Option SendProgress → Prop) (other : Nat),
        holds ((transport.senders ++ [.checkingRunning])[other]?) →
          holds (some .checkingRunning) ∨ holds transport.senders[other]? := by
      intro holds other
      rw [List.getElem?_append]
      split
      · exact .inr
      · intro there
        cases at_ : [SendProgress.checkingRunning][other - transport.senders.length]? with
        | none =>
          rw [at_] at there
          rename_i outside
          exact .inr (List.getElem?_eq_none (Nat.not_lt.mp outside) ▸ there)
        | some sender =>
          rw [at_] at there
          obtain rfl := List.mem_singleton.mp (List.mem_of_getElem? at_)
          exact .inl there
    have kept : ∀ {other : Nat} {sender : SendProgress}, transport.senders[other]? = some sender →
        (transport.senders ++ [.checkingRunning])[other]? = some sender := by
      intro other sender found
      rw [List.getElem?_append_left (List.getElem?_eq_some_iff.mp found).1, found]
    exact { agrees with
      known := by
        intro other
        refine (agrees.known other).trans ⟨?_, fun there => ?_⟩
        · rintro ⟨sender, found, accepted⟩
          exact ⟨sender, kept found, accepted⟩
        · refine (fresh (fun sender => ∃ one ∈ sender, one.Accepted) other there).resolve_left ?_
          rintro ⟨sender, found, accepted⟩
          obtain rfl := Option.some.inj found
          exact accepted
      told := by
        intro other ok logged
        obtain ⟨sender, found, returned⟩ := Option.bind_eq_some_iff.mp (agrees.told other ok logged)
        exact Option.bind_eq_some_iff.mpr ⟨sender, kept found, returned⟩
      results := by
        intro other ok told
        refine agrees.results other ok ((fresh (· = some (.told ok)) other told).resolve_left ?_)
        nofun }
  | sender request => exact agrees.sendStep stepped
  | io outcome => exact agrees.ioStep stepped
  | stop =>
    obtain ⟨_, _, _, _, _, rfl⟩ := stopStep_frame stepped
    exact { agrees with }

theorem Closes.step (closes : Closes transport) {label : SendLabel}
    (stepped : transport.step label = some after) : Closes after := by
  cases label with
  | sendRawData =>
    cases stepped
    exact { closes with }
  | sender request =>
    obtain ⟨_, _, more, _, rfl, open_⟩ := sendStep_frame stepped
    refine { closes with exited := fun exited => ?_ }
    obtain none_ | active := open_
    · rw [none_]
      exact (List.append_nil _).trans (closes.exited exited)
    · rw [closes.leaving (exited.symm ▸ trivial : transport.io.Leaving)] at active
      cases active
  | io outcome =>
    change transport.ioStep outcome = some after at stepped
    have stays : transport.io.Leaving → transport.ioActive = false := closes.leaving
    unfold ZmqTransport.ioStep at stepped
    cases at_ : transport.io with
    | checkingIo =>
      rw [at_] at stepped
      cases stepped
      refine ⟨closes.requested, closes.cleared, fun leaving => ?_, fun exited => ?_⟩
      · cases active : transport.ioActive with
        | false => rfl
        | true => simp [active, IoThread.Leaving] at leaving
      · dsimp only at exited
        split at exited <;> cases exited
    | checkingStop =>
      rw [at_] at stepped
      cases stepped
      refine ⟨closes.requested, closes.cleared, fun leaving => ?_, fun exited => ?_⟩
      · apply closes.requested
        by_contra going
        simp [going, IoThread.Leaving] at leaving
      · dsimp only at exited
        split at exited <;> cases exited
    | failing =>
      rw [at_] at stepped stays
      dsimp only at stepped
      split at stepped
      · rename_i none_
        cases stepped
        exact ⟨closes.requested, closes.cleared, fun _ => stays trivial, fun _ => none_⟩
      · cases stepped
        exact ⟨closes.requested, closes.cleared, fun _ => stays trivial, nofun⟩
    | failingOne request =>
      rw [at_] at stepped stays
      cases stepped
      exact ⟨closes.requested, closes.cleared, fun _ => stays trivial, nofun⟩
    | popping processed =>
      rw [at_] at stepped
      dsimp only at stepped
      split at stepped <;> (cases stepped; exact ⟨closes.requested, closes.cleared, nofun, nofun⟩)
    | sending request | receiving sent =>
      rw [at_] at stepped
      cases stepped
      refine ⟨closes.requested, closes.cleared, fun leaving => ?_, fun exited => ?_⟩
      · dsimp only at leaving
        split at leaving <;> exact leaving.elim
      · dsimp only at exited
        split at exited <;> cases exited
    | handing request | answering request ok | waiting =>
      rw [at_] at stepped
      cases stepped
      exact ⟨closes.requested, closes.cleared, nofun, nofun⟩
    | exited =>
      rw [at_] at stepped
      cases stepped
  | stop =>
    change transport.stopStep = some after at stepped
    unfold stopStep at stepped
    cases at_ : transport.stopper with
    | clearingIo =>
      rw [at_] at stepped
      cases stepped
      exact ⟨fun _ => rfl, fun _ => rfl, fun _ => rfl, closes.exited⟩
    | checking | clearingRunning =>
      rw [at_] at stepped
      cases stepped
      exact ⟨closes.requested, nofun, closes.leaving, closes.exited⟩
    | notifying | requesting =>
      have cleared := closes.cleared (by rw [at_]; trivial)
      rw [at_] at stepped
      cases stepped
      exact ⟨fun _ => cleared, fun _ => cleared, closes.leaving, closes.exited⟩
    | joining =>
      have cleared := closes.cleared (by rw [at_]; trivial)
      rw [at_] at stepped
      dsimp only at stepped
      split at stepped
      · cases stepped
        exact ⟨fun _ => cleared, fun _ => cleared, closes.leaving, closes.exited⟩
      · cases stepped
    | stopped =>
      rw [at_] at stepped
      cases stepped

end ZmqTransport

/-- So many steps the thread needs at most until the next result is set. -/
def IoThread.ahead : IoThread → Nat
  | receiving _ => 8
  | waiting => 7
  | checkingIo => 6
  | checkingStop => 5
  | popping _ => 4
  | sending _ => 3
  | handing _ | failing => 2
  | answering .. | failingOne _ => 1
  | exited => 0

namespace ZmqTransport

variable {transport after : ZmqTransport} {request : Nat}

/-- So many steps the thread needs at most until the result of a request is set. -/
def rank (transport : ZmqTransport) (request : Nat) : Nat :=
  transport.io.ahead + 4 * transport.pending.idxOf request

def isIo : SendLabel → Bool
  | .io _ => true
  | _ => false

/-- Each step of the thread brings a request that waits nearer to its result. -/
theorem rank_io (closes : Closes transport) {outcome : Bool} (waits : request ∈ transport.pending)
    (stepped : transport.ioStep outcome = some after) : request ∈ after.answered ∨
      request ∈ after.pending ∧ after.rank request < transport.rank request := by
  have nearer : ∀ {later : ZmqTransport}, later.pending = transport.pending →
      later.io.ahead < transport.io.ahead →
        request ∈ later.pending ∧ later.rank request < transport.rank request := by
    intro later same less
    rw [rank, rank, same]
    exact ⟨waits, Nat.add_lt_add_right less _⟩
  unfold ZmqTransport.ioStep at stepped
  cases at_ : transport.io with
  | checkingIo | checkingStop | receiving | sending =>
    rw [at_] at stepped nearer
    cases stepped
    refine .inr (nearer ?_ ?_)
    · rw [pending, pending, at_]
      dsimp only
      split <;> rfl
    · dsimp only
      split <;> simp [IoThread.ahead]
  | waiting | handing =>
    rw [at_] at stepped nearer
    cases stepped
    refine .inr (nearer ?_ ?_)
    · rw [pending, pending, at_]
      rfl
    · simp [IoThread.ahead, note]
  | popping | failing =>
    rw [at_] at stepped nearer
    dsimp only at stepped
    split at stepped
    · rename_i none_
      rw [pending, at_, none_] at waits
      cases waits
    · rename_i some_
      cases stepped
      refine .inr (nearer ?_ ?_)
      · rw [pending, pending, at_, some_]
        rfl
      · simp [IoThread.ahead]
  | answering other | failingOne other =>
    rw [at_] at stepped
    have here : transport.pending = other :: transport.items := by
      rw [pending, at_]
      rfl
    cases stepped
    by_cases own : request = other
    · left
      rw [answered, setValue, List.map_append]
      exact List.mem_append_right _ (List.mem_singleton.mpr own)
    · right
      have later : (other :: transport.items).idxOf request =
          transport.items.idxOf request + 1 := List.idxOf_cons_ne _ (Ne.symm own)
      rw [here] at waits
      refine ⟨(List.mem_cons.mp waits).resolve_left own, ?_⟩
      rw [rank, rank, here, later, at_]
      change _ + 4 * transport.items.idxOf request < _
      dsimp only [setValue, IoThread.ahead]
      omega
  | exited =>
    rw [pending, at_, closes.exited at_] at waits
    cases waits

/-- The other steps leave the thread and the results alone, and only ever add requests. -/
theorem other_step {label : SendLabel} (other : isIo label = false)
    (stepped : transport.step label = some after) :
    after.io = transport.io ∧ after.results = transport.results ∧
      transport.items <+: after.items := by
  cases label with
  | io outcome => cases other
  | sendRawData =>
    cases stepped
    exact ⟨rfl, rfl, List.prefix_refl _⟩
  | sender request =>
    obtain ⟨_, _, _, _, rfl, -⟩ := sendStep_frame stepped
    exact ⟨rfl, rfl, List.prefix_append _ _⟩
  | stop =>
    obtain ⟨_, _, _, _, _, rfl⟩ := stopStep_frame stepped
    exact ⟨rfl, rfl, List.prefix_refl _⟩

/-- A result that is set stays set. -/
theorem results_step {label : SendLabel} (stepped : transport.step label = some after) :
    transport.results <+: after.results := by
  cases label with
  | sendRawData | sender | stop => rw [(other_step rfl stepped).2.1]
  | io outcome =>
    change transport.ioStep outcome = some after at stepped
    unfold ZmqTransport.ioStep at stepped
    split at stepped
    case h_3 | h_9 => split at stepped <;> (cases stepped; exact List.prefix_refl _)
    case h_6 | h_10 =>
      cases stepped
      exact List.prefix_append _ _
    case h_11 => cases stepped
    all_goals
      cases stepped
      exact List.prefix_refl _

/-- The other steps bring a request that waits no farther from its result. -/
theorem rank_other {label : SendLabel} (other : isIo label = false)
    (waits : request ∈ transport.pending) (stepped : transport.step label = some after) :
    request ∈ after.pending ∧ after.rank request = transport.rank request := by
  obtain ⟨io, -, more, items⟩ := other_step other stepped
  have extended : after.pending = transport.pending ++ more := by
    rw [pending, pending, io, ← items, List.append_assoc]
  rw [rank, rank, io, extended, List.idxOf_append_of_mem waits]
  exact ⟨List.mem_append_left _ waits, rfl⟩

/-- Enough steps of the thread set the result of a request that waits. -/
theorem answered_of_enough (closes : Closes transport) {labels : List SendLabel}
    (run : labels.foldlM step transport = some after) (enough : request ∈ transport.answered ∨
      request ∈ transport.pending ∧ transport.rank request < labels.countP isIo) :
    request ∈ after.answered := by
  induction labels generalizing transport with
  | nil =>
    obtain answered | ⟨-, less⟩ := enough
    · exact Option.some.inj run ▸ answered
    · cases less
  | cons label labels ih =>
    rw [List.foldlM_cons] at run
    obtain ⟨middle, stepped, run⟩ := Option.bind_eq_some_iff.mp run
    refine ih (closes.step stepped) run ?_
    obtain answered | ⟨waits, less⟩ := enough
    · exact .inl (((results_step stepped).map Prod.fst).subset answered)
    · cases turn : isIo label with
      | false =>
        obtain ⟨waits, same⟩ := rank_other turn waits stepped
        rw [List.countP_cons_of_neg (by simp [turn])] at less
        exact .inr ⟨waits, same ▸ less⟩
      | true =>
        cases label with
        | io outcome =>
          rw [List.countP_cons_of_pos (by simp [turn])] at less
          refine (rank_io closes waits stepped).imp_right ?_
          rintro ⟨waits, nearer⟩
          exact ⟨waits, by omega⟩
        | sendRawData | sender | stop => cases turn

/-- **Hand-over**: each request that the queue has accepted gets exactly one result, whatever the
interleaving, and its sender then returns; requests go to the socket in the order in which they
were accepted, and none goes there after its sender was told false. -/
theorem sendRawData_handoff (reached : Reaches step (fun _ _ => True) {} transport) :
    transport.answered.Nodup ∧
      transport.answered <+: transport.accepted ∧
      (transport.io = .exited → transport.answered = transport.accepted) ∧
      (transport.io ≠ .exited → ∀ outcome, (transport.ioStep outcome).isSome) ∧
      (∀ request ∈ transport.accepted, ∃ bound, ∀ (labels : List SendLabel) after,
        labels.foldlM step transport = some after → bound ≤ labels.countP isIo →
          request ∈ after.answered) ∧
      (∀ request, transport.senders[request]? = some .waiting →
        ∀ ok, (request, ok) ∈ transport.results → transport.sendStep request =
          some ((transport.move request (.told ok)).note (.told request ok))) ∧
      transport.handed.Sublist transport.accepted ∧
      transport.events.Pairwise fun earlier later =>
        ∀ request, later = .handed request → earlier ≠ .told request false := by
  obtain ⟨closes, agrees⟩ : Closes transport ∧ Agrees transport := by
    refine reached.invariant (fun state => Closes state ∧ Agrees state) ?_ ?_
    · refine ⟨⟨nofun, nofun, nofun, nofun⟩, rfl, fun request => ?_, List.nodup_nil,
        List.Sublist.refl _, nofun, nofun, List.Pairwise.nil⟩
      simp [accepted]
    · rintro before label next ⟨closes, agrees⟩ - stepped
      exact ⟨closes.step stepped, agrees.step stepped⟩
  have nodup : transport.answered.Nodup := by
    have once := agrees.once
    rw [agrees.conserved] at once
    exact (List.nodup_append.mp once).1
  refine ⟨nodup, ?_, fun exited => ?_, fun going outcome => ?_, fun request member => ?_,
    fun request waiting ok set => ?_, ?_, agrees.ordered⟩
  · rw [agrees.conserved]
    exact List.prefix_append _ _
  · rw [agrees.conserved, pending, exited, closes.exited exited]
    exact (List.append_nil _).symm
  · unfold ZmqTransport.ioStep
    cases at_ : transport.io with
    | exited => exact absurd at_ going
    | popping | failing =>
      dsimp only
      split <;> rfl
    | checkingIo | checkingStop | sending | handing | answering | receiving | waiting
      | failingOne => rfl
  · refine ⟨transport.rank request + 1, fun labels after run enough => ?_⟩
    refine answered_of_enough closes run ?_
    rw [agrees.conserved] at member
    exact (List.mem_append.mp member).imp id fun waits => ⟨waits, enough⟩
  · have first : transport.results.lookup request = some ok := by
      obtain ⟨before, later, split_⟩ := List.append_of_mem set
      refine List.lookup_eq_some_iff.mpr ⟨before, later, split_, fun entry member => ?_⟩
      rw [answered, split_, List.map_append] at nodup
      refine bne_iff_ne.mpr fun same => ?_
      exact List.disjoint_of_nodup_append nodup (List.mem_map_of_mem member)
        (same ▸ List.mem_cons_self)
    rw [ZmqTransport.sendStep, waiting]
    dsimp only
    rw [first]
    rfl
  · have taken : (transport.answered ++ transport.io.request?.toList).Sublist
        transport.accepted := by
      rw [agrees.conserved, pending, ← List.append_assoc]
      exact List.sublist_append_left _ _
    exact ((List.sublist_append_left _ _).trans agrees.handed).trans taken

/-- A request is sent, a second one fails at the end, and the third call comes too late. -/
def oneSent : List SendLabel :=
  [.sendRawData, .sendRawData, .sender 0, .sender 0, .sender 0, .sender 1, .sender 1, .io true,
    .io true, .io true, .io true, .io true, .io true, .sender 0, .sender 0, .io true, .sender 1,
    .sender 1, .stop, .stop, .stop, .io true, .io true, .io true, .io true, .io true, .sender 1,
    .sendRawData, .sender 2, .stop, .stop, .stop]

theorem oneSent_runs :
    (runWithin step (fun _ _ => True) {} oneSent).isSome = true := by
  decide +kernel

/-- The results and hand-overs of this run. -/
theorem sendRawData_handoff_oneSent :
    ((runWithin step (fun _ _ => True) {} oneSent).get oneSent_runs).answered.Nodup :=
  (sendRawData_handoff (reaches_get oneSent_runs)).1

end ZmqTransport

end InferenceServer.Sockets
