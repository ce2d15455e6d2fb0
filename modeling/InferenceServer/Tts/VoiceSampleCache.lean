import InferenceServer.Machine.Recency
import InferenceServer.Machine.Table

/-! The cache of voice samples: a list of entries by recency and an index of iterators into
it. It keeps the entries that were last added or got. -/
namespace InferenceServer.Tts
open Machine

abbrev Samples := List Int16
abbrev SpeechIds := List UInt32

/-- An entry in its node of the list. An iterator is the place of a node. -/
structure CacheEntry where
  place : Nat
  samples : Samples
  speechIds : SpeechIds

structure VoiceSampleCache where
  capacity : Nat
  nextPlace : Nat := 0
  entriesByRecency : List CacheEntry := []
  entries : Table Samples Nat := ∅

/-- What a call fails with; to follow a dangling iterator or to look at the back of an empty
list is undefined. -/
inductive CacheFailure
  | outOfRange
  | undefined
  deriving DecidableEq

namespace VoiceSampleCache

variable (cache : VoiceSampleCache) (samples : Samples)

def existsEntry : Bool :=
  (cache.entries.lookup samples).isSome

/-- The node of an iterator. -/
def nodeAt (place : Nat) : Except CacheFailure CacheEntry :=
  match cache.entriesByRecency.find? (·.place = place) with
  | some entry => .ok entry
  | none => .error .undefined

/-- `splice(begin(), ...)` of a node, with what it has then. -/
def splice (entry : CacheEntry) : VoiceSampleCache :=
  { cache with
    entriesByRecency := entry :: cache.entriesByRecency.filter (·.place ≠ entry.place) }

def get : Except CacheFailure (VoiceSampleCache × SpeechIds) :=
  match cache.entries.lookup samples with
  | none => .error .outOfRange
  | some place => do
    let entry ← cache.nodeAt place
    return (cache.splice entry, entry.speechIds)

/-- Takes out the last entry, by the key that its node holds. -/
def evict : Except CacheFailure VoiceSampleCache :=
  match cache.entriesByRecency.getLast? with
  | none => .error .undefined
  | some last => .ok { cache with
      entries := cache.entries.erase last.samples
      entriesByRecency := cache.entriesByRecency.dropLast }

/-- What `add` does before a new entry. -/
def makeRoom : Except CacheFailure VoiceSampleCache :=
  if cache.entries.entries.length = cache.capacity then cache.evict else .ok cache

/-- `push_front` of a new node and `emplace` of its iterator. -/
def pushFront (speechIds : SpeechIds) : VoiceSampleCache :=
  { cache with
    nextPlace := cache.nextPlace + 1
    entriesByRecency := ⟨cache.nextPlace, samples, speechIds⟩ :: cache.entriesByRecency
    entries :=
      if (cache.entries.lookup samples).isSome then cache.entries
      else cache.entries.insert samples cache.nextPlace }

def add (speechIds : SpeechIds) : Except CacheFailure VoiceSampleCache :=
  if cache.capacity = 0 then .ok cache
  else
    match cache.entries.lookup samples with
    | some place => do
      let entry ← cache.nodeAt place
      return cache.splice { entry with speechIds }
    | none => do
      let cache ← cache.makeRoom
      return cache.pushFront samples speechIds

end VoiceSampleCache

inductive CacheCall
  | add (samples : Samples) (speechIds : SpeechIds)
  | get (samples : Samples)
  | existsEntry (samples : Samples)

inductive CacheAnswer
  | done
  | speechIds (speechIds : SpeechIds)
  | found (present : Bool)
  | outOfRange
  deriving DecidableEq

/-- One call. A call that throws leaves the cache as it is. -/
def VoiceSampleCache.call (cache : VoiceSampleCache) :
    CacheCall → Except CacheFailure (VoiceSampleCache × CacheAnswer)
  | .add samples speechIds => do return (← cache.add samples speechIds, .done)
  | .get samples =>
    match cache.get samples with
    | .ok (cache, speechIds) => .ok (cache, .speechIds speechIds)
    | .error .outOfRange => .ok (cache, .outOfRange)
    | .error .undefined => .error .undefined
  | .existsEntry samples => .ok (cache, .found (cache.existsEntry samples))

def VoiceSampleCache.calls (cache : VoiceSampleCache) :
    List CacheCall → Except CacheFailure (VoiceSampleCache × List CacheAnswer)
  | [] => .ok (cache, [])
  | call :: rest => do
    let (cache, answer) ← cache.call call
    let (cache, answers) ← cache.calls rest
    return (cache, answer :: answers)

/-- What the cache is for: of all samples that were added or got, the last are kept, each with
the ids of its last add. -/
def recentCall (capacity : Nat) (recent : List (Samples × SpeechIds)) :
    CacheCall → List (Samples × SpeechIds) × CacheAnswer
  | .add samples speechIds => (Recency.touch samples speechIds recent, .done)
  | .get samples =>
    match (recent.take capacity).lookup samples with
    | some speechIds => (Recency.touch samples speechIds recent, .speechIds speechIds)
    | none => (recent, .outOfRange)
  | .existsEntry samples => (recent, .found (samples ∈ (recent.take capacity).map Prod.fst))

def recentCalls (capacity : Nat) (recent : List (Samples × SpeechIds)) :
    List CacheCall → List (Samples × SpeechIds) × List CacheAnswer
  | [] => (recent, [])
  | call :: rest =>
    let next := recentCall capacity recent call
    let later := recentCalls capacity next.1 rest
    (later.1, next.2 :: later.2)

/-- The index has the samples of the list, each with the place of its own node. -/
structure VoiceSampleCache.Sound (cache : VoiceSampleCache) : Prop where
  places : (cache.entriesByRecency.map CacheEntry.place).Nodup
  samples : (cache.entriesByRecency.map CacheEntry.samples).Nodup
  index : ∀ samples place, cache.entries.lookup samples = some place ↔
    ∃ entry ∈ cache.entriesByRecency, entry.samples = samples ∧ entry.place = place
  fresh : ∀ entry ∈ cache.entriesByRecency, entry.place < cache.nextPlace
  bounded : cache.entriesByRecency.length ≤ cache.capacity

def CacheEntry.pair (entry : CacheEntry) : Samples × SpeechIds := (entry.samples, entry.speechIds)

/-- The list holds what is kept, in its order. -/
def VoiceSampleCache.Keeps (cache : VoiceSampleCache) (recent : List (Samples × SpeechIds)) : Prop :=
  cache.entriesByRecency.map CacheEntry.pair = recent.take cache.capacity ∧ Recency.Distinct recent

section Sound

variable {cache next : VoiceSampleCache} {samples : Samples} {speechIds : SpeechIds} {place : Nat}
  {recent : List (Samples × SpeechIds)} {entry : CacheEntry}

section

variable (sound : cache.Sound)
include sound

theorem eq_of_place {other : CacheEntry} (here : entry ∈ cache.entriesByRecency)
    (there : other ∈ cache.entriesByRecency) (same : other.place = entry.place) : other = entry :=
  List.inj_on_of_nodup_map sound.places there here same

theorem eq_of_samples {other : CacheEntry} (here : entry ∈ cache.entriesByRecency)
    (there : other ∈ cache.entriesByRecency) (same : other.samples = entry.samples) :
    other = entry :=
  List.inj_on_of_nodup_map sound.samples there here same

/-- An iterator of the index leads to the node of its samples. -/
theorem nodeAt_of_lookup (held : cache.entries.lookup samples = some place) :
    ∃ entry ∈ cache.entriesByRecency, cache.nodeAt place = .ok entry ∧ entry.samples = samples ∧
      entry.place = place := by
  obtain ⟨entry, member, named, here⟩ := (sound.index samples place).mp held
  have some_ : (cache.entriesByRecency.find? (·.place = place)).isSome :=
    List.find?_isSome.mpr ⟨entry, member, decide_eq_true here⟩
  obtain ⟨found, is⟩ := Option.isSome_iff_exists.mp some_
  have there : found.place = place := by simpa using List.find?_some is
  have same : found = entry :=
    eq_of_place sound member (List.mem_of_find?_eq_some is) (there.trans here.symm)
  refine ⟨entry, member, ?_, named, here⟩
  rw [VoiceSampleCache.nodeAt, is, same]

/-- In a sound cache the other nodes are those with other samples. -/
theorem ne_place_iff {other : CacheEntry} (member : entry ∈ cache.entriesByRecency)
    (there : other ∈ cache.entriesByRecency) :
    decide (other.place ≠ entry.place) = decide (other.samples ≠ entry.samples) := by
  refine decide_eq_decide.mpr (not_congr ⟨fun same => ?_, fun same => ?_⟩)
  · rw [eq_of_place sound member there same]
  · rw [eq_of_samples sound member there same]

/-- To put a node in front touches its samples. -/
theorem pair_splice (member : entry ∈ cache.entriesByRecency) (speechIds : SpeechIds) :
    (cache.splice { entry with speechIds }).entriesByRecency.map CacheEntry.pair =
      Recency.touch entry.samples speechIds (cache.entriesByRecency.map CacheEntry.pair) := by
  rw [VoiceSampleCache.splice, List.map_cons, Recency.touch, List.filter_map]
  refine congrArg₂ _ rfl (congrArg _ (List.filter_congr fun other there => ?_))
  have same := ne_place_iff sound member there
  exact same

end

theorem not_mem_others (cache : VoiceSampleCache) (entry : CacheEntry) : entry.place ∉
      (cache.entriesByRecency.filter (·.place ≠ entry.place)).map CacheEntry.place := by
  intro member
  obtain ⟨other, kept, same⟩ := List.mem_map.mp member
  exact of_decide_eq_true (List.mem_filter.mp kept).2 same

theorem length_others (member : entry ∈ cache.entriesByRecency) :
    (cache.entriesByRecency.filter (·.place ≠ entry.place)).length + 1 ≤
      cache.entriesByRecency.length := by
  have fewer : (cache.entriesByRecency.filter (·.place ≠ entry.place)).length <
      cache.entriesByRecency.length :=
    List.length_filter_lt_length_iff_exists.mpr ⟨entry, member, by simp⟩
  exact fewer

theorem sound_splice (sound : cache.Sound) (member : entry ∈ cache.entriesByRecency)
    (speechIds : SpeechIds) : (cache.splice { entry with speechIds }).Sound := by
  have others : (cache.entriesByRecency.filter (·.place ≠ entry.place)).Sublist
      cache.entriesByRecency := List.filter_sublist
  constructor
  · exact List.nodup_cons.mpr ⟨not_mem_others cache entry, sound.places.sublist (others.map _)⟩
  · refine List.nodup_cons.mpr ⟨fun kept => ?_, sound.samples.sublist (others.map _)⟩
    obtain ⟨other, there, same⟩ := List.mem_map.mp kept
    have is := eq_of_samples sound member (others.subset there) same
    have here : other.place = entry.place := congrArg CacheEntry.place is
    exact not_mem_others cache entry (List.mem_map.mpr ⟨other, there, here⟩)
  · intro samples place
    refine (sound.index samples place).trans ⟨?_, ?_⟩
    · rintro ⟨other, there, named, here⟩
      by_cases same : other.place = entry.place
      · obtain rfl := eq_of_place sound member there same
        exact ⟨_, List.mem_cons_self, named, here⟩
      · exact ⟨other, List.mem_cons_of_mem _ (List.mem_filter.mpr ⟨there, decide_eq_true same⟩),
          named, here⟩
    · rintro ⟨other, there, named, here⟩
      rcases List.mem_cons.mp there with rfl | later
      · exact ⟨entry, member, named, here⟩
      · exact ⟨other, others.subset later, named, here⟩
  · intro other there
    rcases List.mem_cons.mp there with rfl | later
    · exact sound.fresh entry member
    · exact sound.fresh other (others.subset later)
  · exact (length_others member).trans sound.bounded

/-- The index has the samples of the list. -/
theorem keys_perm (sound : cache.Sound) :
    cache.entries.keys.Perm (cache.entriesByRecency.map CacheEntry.samples) := by
  refine (List.perm_ext_iff_of_nodup cache.entries.nodupKeys sound.samples).mpr fun samples => ?_
  refine AList.lookup_isSome.symm.trans (Option.isSome_iff_exists.trans ⟨?_, fun member => ?_⟩)
  · rintro ⟨place, held⟩
    obtain ⟨entry, member, named, -⟩ := (sound.index samples place).mp held
    exact named ▸ List.mem_map_of_mem member
  · obtain ⟨entry, there, named⟩ := List.mem_map.mp member
    exact ⟨entry.place, (sound.index samples entry.place).mpr ⟨entry, there, named, rfl⟩⟩

/-- There is one entry of the index for each node. -/
theorem length_entries (sound : cache.Sound) :
    cache.entries.entries.length = cache.entriesByRecency.length := by
  have lengths := (keys_perm sound).length_eq
  rwa [List.length_map, AList.keys, List.keys, List.length_map] at lengths

theorem keys_eq (keeps : cache.Keeps recent) :
    (recent.take cache.capacity).map Prod.fst = cache.entriesByRecency.map CacheEntry.samples := by
  rw [← keeps.1, List.map_map]
  rfl

/-- What the index does not have is not kept. -/
theorem not_kept (sound : cache.Sound) (keeps : cache.Keeps recent)
    (missing : cache.entries.lookup samples = none) :
    samples ∉ (recent.take cache.capacity).map Prod.fst := by
  rw [keys_eq keeps]
  intro member
  obtain ⟨entry, there, named⟩ := List.mem_map.mp member
  have held := (sound.index samples entry.place).mpr ⟨entry, there, named, rfl⟩
  exact Option.some_ne_none _ (held.symm.trans missing)

/-- A node is kept with its ids. -/
theorem kept_of_mem (keeps : cache.Keeps recent) (member : entry ∈ cache.entriesByRecency) :
    (entry.samples, entry.speechIds) ∈ recent.take cache.capacity := by
  rw [← keeps.1]
  exact List.mem_map_of_mem member

section

variable (sound : cache.Sound)
include sound

/-- To put a kept node in front keeps the samples touched. -/
theorem keeps_splice (keeps : cache.Keeps recent) (member : entry ∈ cache.entriesByRecency)
    (speechIds : SpeechIds) :
    (cache.splice { entry with speechIds }).Keeps
      (Recency.touch entry.samples speechIds recent) := by
  refine ⟨?_, keeps.2.touch⟩
  have kept : entry.samples ∈ (recent.take cache.capacity).map Prod.fst :=
    List.mem_map_of_mem (kept_of_mem keeps member)
  rw [pair_splice sound member, keeps.1]
  exact (Recency.take_touch_of_mem keeps.2 kept).symm

/-- The cache without its last entry. -/
theorem evict_spec (some_ : 0 < cache.entriesByRecency.length) :
    ∃ room, cache.evict = .ok room ∧ room.Sound ∧ room.capacity = cache.capacity ∧
      room.entriesByRecency = cache.entriesByRecency.dropLast ∧
      ∀ samples, cache.entries.lookup samples = none → room.entries.lookup samples = none := by
  obtain ⟨before, last, split⟩ :=
    List.eq_nil_or_concat' cache.entriesByRecency |>.resolve_left (List.ne_nil_of_length_pos some_)
  have shorter : cache.entriesByRecency.dropLast = before := by
    rw [split, List.dropLast_concat]
  have others : before.Sublist cache.entriesByRecency := by
    rw [split]
    exact List.sublist_append_left _ _
  have ends : last ∈ cache.entriesByRecency := by
    rw [split]
    exact List.mem_append_right _ List.mem_cons_self
  have apart : ∀ other ∈ before, other.samples ≠ last.samples := by
    have distinct := sound.samples
    rw [split, List.map_append, List.nodup_append] at distinct
    intro other there
    exact distinct.2.2 _ (List.mem_map_of_mem there) _ (List.mem_map_of_mem List.mem_cons_self)
  let room : VoiceSampleCache :=
    { cache with entries := cache.entries.erase last.samples, entriesByRecency := before }
  have evicted : cache.evict = .ok room := by
    rw [VoiceSampleCache.evict, shorter, split, List.getLast?_concat]
  refine ⟨room, evicted, ⟨?_, ?_, ?_, ?_, ?_⟩, rfl, shorter.symm, ?_⟩
  · exact sound.places.sublist (others.map _)
  · exact sound.samples.sublist (others.map _)
  · intro samples place
    simp only [room, Table.lookup_erase_if]
    constructor
    · intro held
      split at held
      · cases held
      · rename_i other
        obtain ⟨entry, there, named, here⟩ := (sound.index samples place).mp held
        rw [split, List.mem_append, List.mem_singleton] at there
        rcases there with early | rfl
        · exact ⟨entry, early, named, here⟩
        · exact absurd named.symm other
    · rintro ⟨entry, there, named, here⟩
      rw [if_neg (named ▸ apart entry there)]
      exact (sound.index samples place).mpr ⟨entry, others.subset there, named, here⟩
  · exact fun entry there => sound.fresh entry (others.subset there)
  · exact others.length_le.trans sound.bounded
  · intro samples missing
    simp [room, Table.lookup_erase_if, missing]

/-- An entry in front of a cache with room and without the samples. -/
theorem sound_pushFront (missing : cache.entries.lookup samples = none)
    (room : cache.entriesByRecency.length < cache.capacity) (speechIds : SpeechIds) :
    (cache.pushFront samples speechIds).Sound := by
  have absent : ∀ entry ∈ cache.entriesByRecency, entry.samples ≠ samples := by
    intro entry there named
    have held := (sound.index samples entry.place).mpr ⟨entry, there, named, rfl⟩
    exact Option.some_ne_none _ (held.symm.trans missing)
  constructor
  · refine List.nodup_cons.mpr ⟨fun member => ?_, sound.places⟩
    obtain ⟨entry, there, same⟩ := List.mem_map.mp member
    exact (sound.fresh entry there).ne same
  · refine List.nodup_cons.mpr ⟨fun member => ?_, sound.samples⟩
    obtain ⟨entry, there, same⟩ := List.mem_map.mp member
    exact absent entry there same
  · intro other place
    have inserted : (cache.pushFront samples speechIds).entries =
        cache.entries.insert samples cache.nextPlace := by
      rw [VoiceSampleCache.pushFront, missing]
      rfl
    rw [inserted, Table.lookup_insert_if]
    constructor
    · intro held
      split at held
      · rename_i same
        exact ⟨_, List.mem_cons_self, same.symm, Option.some.inj held⟩
      · obtain ⟨entry, there, named, here⟩ := (sound.index other place).mp held
        exact ⟨entry, List.mem_cons_of_mem _ there, named, here⟩
    · rintro ⟨entry, there, named, here⟩
      rcases List.mem_cons.mp there with rfl | later
      · rw [if_pos named.symm]
        exact congrArg some here
      · rw [if_neg (named ▸ absent entry later)]
        exact (sound.index other place).mpr ⟨entry, later, named, here⟩
  · intro entry there
    rcases List.mem_cons.mp there with rfl | later
    · exact Nat.lt_succ_self _
    · exact (sound.fresh entry later).trans (Nat.lt_succ_self _)
  · exact room

/-- Room for one more entry, with the last of a full cache taken out. -/
theorem makeRoom_spec (keeps : cache.Keeps recent) (some_ : 0 < cache.capacity) :
    ∃ room, cache.makeRoom = .ok room ∧ room.Sound ∧ room.capacity = cache.capacity ∧
      room.entriesByRecency.length < cache.capacity ∧
      room.entriesByRecency.map CacheEntry.pair = recent.take (cache.capacity - 1) ∧
      ∀ samples, cache.entries.lookup samples = none → room.entries.lookup samples = none := by
  rw [VoiceSampleCache.makeRoom, length_entries sound]
  have kept := congrArg List.length keeps.1
  rw [List.length_map, List.length_take] at kept
  split
  · rename_i full
    obtain ⟨room, evicted, fine, same, left, missing⟩ := evict_spec sound (full ▸ some_)
    refine ⟨room, evicted, fine, same, ?_, ?_, missing⟩
    · rw [left, List.length_dropLast]
      omega
    · rw [left, List.map_dropLast, keeps.1, List.dropLast_eq_take, List.length_take,
        List.take_take]
      congr 1
      omega
  · rename_i open_
    have bounded := sound.bounded
    refine ⟨cache, rfl, sound, rfl, by omega, ?_, fun _ missing => missing⟩
    rw [keeps.1, List.take_of_length_le (by omega), List.take_of_length_le (by omega)]

end

/-- What a call of the cache does: it answers as the recent entries do and keeps them. -/
def Follows (cache : VoiceSampleCache) (recent : List (Samples × SpeechIds)) (call : CacheCall) :
    Prop :=
  ∃ next, cache.call call = .ok (next, (recentCall cache.capacity recent call).2) ∧ next.Sound ∧
    next.capacity = cache.capacity ∧ next.Keeps (recentCall cache.capacity recent call).1

section

variable (sound : cache.Sound)
include sound

theorem follows_get (keeps : cache.Keeps recent) (samples : Samples) :
    Follows cache recent (.get samples) := by
  simp only [Follows, VoiceSampleCache.call, recentCall, VoiceSampleCache.get]
  cases held : cache.entries.lookup samples with
  | none =>
    rw [Recency.lookup_eq_none (not_kept sound keeps held)]
    exact ⟨cache, rfl, sound, rfl, keeps⟩
  | some place =>
    obtain ⟨entry, member, node, rfl, -⟩ := nodeAt_of_lookup sound held
    rw [Recency.lookup_of_mem (keeps.2.take _) (kept_of_mem keeps member)]
    have spliced : cache.splice { entry with speechIds := entry.speechIds } = cache.splice entry :=
      rfl
    refine ⟨cache.splice entry, ?_, ?_, rfl, ?_⟩
    · simp only [node]
      rfl
    · exact spliced ▸ sound_splice sound member entry.speechIds
    · exact spliced ▸ keeps_splice sound keeps member entry.speechIds

theorem follows_existsEntry (keeps : cache.Keeps recent) (samples : Samples) :
    Follows cache recent (.existsEntry samples) := by
  refine ⟨cache, ?_, sound, rfl, keeps⟩
  have same : cache.existsEntry samples =
      decide (samples ∈ (recent.take cache.capacity).map Prod.fst) := by
    unfold VoiceSampleCache.existsEntry
    cases held : cache.entries.lookup samples with
    | none => exact (decide_eq_false (not_kept sound keeps held)).symm
    | some place =>
      obtain ⟨entry, member, -, rfl, -⟩ := nodeAt_of_lookup sound held
      exact (decide_eq_true (List.mem_map_of_mem (kept_of_mem keeps member))).symm
  rw [VoiceSampleCache.call, same]
  rfl

theorem follows_add (keeps : cache.Keeps recent) (samples : Samples) (speechIds : SpeechIds) :
    Follows cache recent (.add samples speechIds) := by
  simp only [Follows, VoiceSampleCache.call, recentCall, VoiceSampleCache.add]
  by_cases none_ : cache.capacity = 0
  · refine ⟨cache, by rw [if_pos none_]; rfl, sound, rfl, ?_, keeps.2.touch⟩
    rw [keeps.1, none_, List.take_zero, List.take_zero]
  · rw [if_neg none_]
    cases held : cache.entries.lookup samples with
    | some place =>
      obtain ⟨entry, member, node, rfl, -⟩ := nodeAt_of_lookup sound held
      refine ⟨_, ?_, sound_splice sound member speechIds, rfl,
        keeps_splice sound keeps member speechIds⟩
      simp only [node]
      rfl
    | none =>
      have some_ := Nat.pos_of_ne_zero none_
      obtain ⟨room, made, fine, same, space, left, missing⟩ := makeRoom_spec sound keeps some_
      refine ⟨room.pushFront samples speechIds, ?_, ?_, same, ?_, keeps.2.touch⟩
      · simp only [made]
        rfl
      · exact sound_pushFront fine (missing samples held) (same ▸ space) speechIds
      · have pushed : (room.pushFront samples speechIds).entriesByRecency.map CacheEntry.pair =
            (samples, speechIds) :: room.entriesByRecency.map CacheEntry.pair := rfl
        have wide : (room.pushFront samples speechIds).capacity = cache.capacity := same
        rw [pushed, wide, left,
          Recency.take_touch_of_not_mem (not_kept sound keeps held) some_]

/-- Every call follows. -/
theorem follows (keeps : cache.Keeps recent) (call : CacheCall) : Follows cache recent call := by
  cases call with
  | add samples speechIds => exact follows_add sound keeps samples speechIds
  | get samples => exact follows_get sound keeps samples
  | existsEntry samples => exact follows_existsEntry sound keeps samples

/-- And so does every run of calls. -/
theorem calls_follow (keeps : cache.Keeps recent) (run : List CacheCall) :
    ∃ last, cache.calls run = .ok (last, (recentCalls cache.capacity recent run).2) ∧
      last.Sound ∧ last.capacity = cache.capacity ∧
      last.Keeps (recentCalls cache.capacity recent run).1 := by
  induction run generalizing cache recent with
  | nil => exact ⟨cache, rfl, sound, rfl, keeps⟩
  | cons call rest ih =>
    obtain ⟨next, called, fine, same, kept⟩ := follows sound keeps call
    obtain ⟨last, ran, sound', same', kept'⟩ := ih fine kept
    rw [same] at ran kept' same'
    refine ⟨last, ?_, sound', same', kept'⟩
    rw [VoiceSampleCache.calls, called]
    simp only [bind, Except.bind, ran]
    rfl

end

theorem sound_empty (capacity : Nat) : VoiceSampleCache.Sound { capacity } where
  places := List.nodup_nil
  samples := List.nodup_nil
  index _ _ := ⟨fun held => (nomatch held), fun ⟨_, there, _⟩ => (nomatch there)⟩
  fresh _ there := nomatch there
  bounded := Nat.zero_le _

end Sound

/-- The index has the same keys as the list, each once and at its own node. -/
def VoiceSampleCache.Linked (cache : VoiceSampleCache) : Prop :=
  cache.entries.keys.Perm (cache.entriesByRecency.map CacheEntry.samples) ∧
    (cache.entriesByRecency.map CacheEntry.samples).Nodup ∧
    ∀ entry ∈ cache.entriesByRecency, ∃ place, cache.entries.lookup entry.samples = some place ∧
      cache.nodeAt place = .ok entry

/-- From any calls on, the cache has answered as the most recent entries do, holds just these,
at most as many as it has room for, and its index leads to them. -/
theorem cache_keeps_recent (capacity : Nat) (run : List CacheCall) :
    ∃ cache, VoiceSampleCache.calls { capacity } run =
        .ok (cache, (recentCalls capacity [] run).2) ∧
      cache.entriesByRecency.map CacheEntry.pair =
        (recentCalls capacity [] run).1.take capacity ∧
      Recency.Distinct (recentCalls capacity [] run).1 ∧ cache.Linked ∧
      cache.entries.entries.length ≤ capacity ∧ cache.entriesByRecency.length ≤ capacity := by
  have keeps : VoiceSampleCache.Keeps { capacity } [] := ⟨(List.take_nil).symm, List.nodup_nil⟩
  obtain ⟨cache, ran, sound, same, kept⟩ := calls_follow (sound_empty capacity) keeps run
  have wide : cache.capacity = capacity := same
  have bounded : cache.entriesByRecency.length ≤ capacity := wide ▸ sound.bounded
  refine ⟨cache, ran, ?_, kept.2, ⟨keys_perm sound, sound.samples, fun entry there => ?_⟩, ?_,
    bounded⟩
  · exact kept.1.trans (congrArg (List.take · _) wide)
  · have held := (sound.index entry.samples entry.place).mpr ⟨entry, there, rfl, rfl⟩
    obtain ⟨found, member, node, named, -⟩ := nodeAt_of_lookup sound held
    exact ⟨entry.place, held, eq_of_samples sound there member named ▸ node⟩
  · exact length_entries sound ▸ bounded

end InferenceServer.Tts
