import InferenceServer.RemoteKv.BurstAdapter

/-! What the tables of the adapter keep. Bursts are told apart by their number, so that a uuid that
is used again names another burst; the reverse map is the union of the pending requests; and a
burst has failed exactly when one of its requests that are over has. -/
namespace InferenceServer.RemoteKv

open Machine

variable {status newStatus : UInt64 → MigrationStatus} {started : Nat}
variable {requests : Table UInt64 Nat} {groups : Table UInt64 MigrationGroup}
variable {kafkaToGroup : Table UInt64 UInt64}

/-- The statuses of requests change only where one in progress ends. -/
def Settles (requests : Table UInt64 Nat) (status newStatus : UInt64 → MigrationStatus) : Prop :=
  ∀ id, (requests.lookup id).isSome →
    newStatus id = status id ∨ status id = .inProgress ∧ (newStatus id).Terminal

theorem Settles.kept (settles : Settles requests status newStatus) {id : UInt64} {burst : Nat}
    (asked : requests.lookup id = some burst) (isOver : (status id).Terminal) :
    newStatus id = status id := by
  refine (settles id (by rw [asked]; rfl)).resolve_right ?_
  rintro ⟨running, _⟩
  rw [running] at isOver
  exact absurd isOver (by decide)

/-- Groups are of different bursts, all started. -/
structure Numbered (started : Nat) (groups : Table UInt64 MigrationGroup) : Prop where
  below : ∀ token group, groups.lookup token = some group → group.startedAt < started
  distinct : ∀ token group other otherGroup, groups.lookup token = some group →
    groups.lookup other = some otherGroup → group.startedAt = otherGroup.startedAt → token = other

namespace Numbered

section

variable (numbered : Numbered started groups)
include numbered

theorem start (uuid : UInt64) :
    Numbered (started + 1) (groups.insert uuid { startedAt := started }) := by
  refine ⟨fun token group found => ?_, fun token group other otherGroup found otherFound same => ?_⟩
  · rw [Table.lookup_insert_if] at found
    split at found
    · cases found
      exact Nat.lt_succ_self started
    · exact Nat.lt_succ_of_lt (numbered.below token group found)
  · rw [Table.lookup_insert_if] at found otherFound
    split at found <;> split at otherFound
    · rename_i first second
      exact first.trans second.symm
    · cases found
      exact absurd same (Nat.ne_of_gt (numbered.below other otherGroup otherFound))
    · cases otherFound
      exact absurd same (Nat.ne_of_lt (numbered.below token group found))
    · exact numbered.distinct token group other otherGroup found otherFound same

/-- A group that changes stays the burst that it is. -/
theorem replace {token : UInt64} {group changed : MigrationGroup}
    (found : groups.lookup token = some group) (same : changed.startedAt = group.startedAt) :
    Numbered started (groups.insert token changed) := by
  have old : ∀ other otherGroup, (groups.insert token changed).lookup other = some otherGroup →
      ∃ before, groups.lookup other = some before ∧ before.startedAt = otherGroup.startedAt := by
    intro other otherGroup present
    rw [Table.lookup_insert_if] at present
    split at present
    · rename_i here
      cases present
      exact ⟨group, here ▸ found, same.symm⟩
    · exact ⟨otherGroup, present, rfl⟩
  refine ⟨fun other otherGroup present => ?_, fun first firstGroup second secondGroup one two => ?_⟩
  · obtain ⟨before, earlier, equal⟩ := old other otherGroup present
    exact equal ▸ numbered.below other before earlier
  · obtain ⟨before, earlier, equal⟩ := old first firstGroup one
    obtain ⟨otherBefore, otherEarlier, otherEqual⟩ := old second secondGroup two
    rw [← equal, ← otherEqual]
    exact numbered.distinct first before second otherBefore earlier otherEarlier

theorem erase (token : UInt64) : Numbered started (groups.erase token) := by
  have old : ∀ other otherGroup, (groups.erase token).lookup other = some otherGroup →
      groups.lookup other = some otherGroup := by
    intro other otherGroup present
    rw [Table.lookup_erase_if] at present
    split at present
    · cases present
    · exact present
  exact ⟨fun other otherGroup present => numbered.below other otherGroup (old _ _ present),
    fun first firstGroup second secondGroup one two =>
      numbered.distinct first firstGroup second secondGroup (old _ _ one) (old _ _ two)⟩

end

end Numbered

/-- What a group knows of the requests of its burst. -/
structure GroupOwn (status : UInt64 → MigrationStatus) (requests : Table UInt64 Nat)
    (group : MigrationGroup) : Prop where
  pending : ∀ id ∈ group.pendingKafkaIds, requests.lookup id = some group.startedAt
  failed : group.failed = true →
    ∃ id, requests.lookup id = some group.startedAt ∧ status id = .failed
  fine : group.failed = false → ∀ id, requests.lookup id = some group.startedAt →
    id ∈ group.pendingKafkaIds ∨ status id = .successful
  reported : group.failedReported = group.failed

namespace GroupOwn

variable {group : MigrationGroup}

section

variable (own : GroupOwn status requests group)
include own

theorem later (settles : Settles requests status newStatus) :
    GroupOwn newStatus requests group := by
  refine ⟨own.pending, fun failed => ?_, fun fine id asked => ?_, own.reported⟩
  · obtain ⟨id, asked, isOver⟩ := own.failed failed
    exact ⟨id, asked, (settles.kept asked (isOver ▸ .inr rfl)).trans isOver⟩
  · rcases own.fine fine id asked with waiting | isOver
    · exact .inl waiting
    · exact .inr ((settles.kept asked (isOver ▸ .inl rfl)).trans isOver)

/-- A new request is pending in the group that it is for and nothing to any other. -/
theorem request {id : UInt64} {burst : Nat} (new : requests.lookup id = none)
    {pending : Finset UInt64} (members : ∀ other, other ∈ pending ↔
      other ∈ group.pendingKafkaIds ∨ other = id ∧ burst = group.startedAt) :
    GroupOwn status (requests.insert id burst) { group with pendingKafkaIds := pending } := by
  have old : ∀ other number, requests.lookup other = some number →
      (requests.insert id burst).lookup other = some number := by
    intro other number asked
    have different : other ≠ id := by
      rintro rfl
      rw [new] at asked
      cases asked
    exact (AList.lookup_insert_ne different).trans asked
  refine ⟨fun other waiting => ?_, fun failed => ?_, fun fine other asked => ?_, own.reported⟩
  · rcases (members other).mp waiting with earlier | ⟨rfl, rfl⟩
    · exact old other _ (own.pending other earlier)
    · exact AList.lookup_insert _
  · obtain ⟨other, asked, isOver⟩ := own.failed failed
    exact ⟨other, old other _ asked, isOver⟩
  · rw [Table.lookup_insert_if] at asked
    split at asked
    · rename_i same
      exact .inl ((members other).mpr (.inr ⟨same, Option.some.inj asked⟩))
    · exact (own.fine fine other asked).imp_left fun earlier => (members other).mpr (.inl earlier)

/-- A request that is over is no longer pending. -/
theorem settle {id : UInt64} (asked : requests.lookup id = some group.startedAt)
    (isOver : (status id).Terminal) : GroupOwn status requests (group.settle id (status id)) := by
  unfold MigrationGroup.settle
  have pending : ∀ other ∈ group.pendingKafkaIds.erase id,
      requests.lookup other = some group.startedAt :=
    fun other waiting => own.pending other (Finset.mem_of_mem_erase waiting)
  split
  · rename_i failed
    exact ⟨pending, fun _ => ⟨id, asked, failed⟩, nofun, rfl⟩
  · rename_i fine
    refine ⟨pending, own.failed, fun unfailed other known => ?_, own.reported⟩
    by_cases same : other = id
    · exact .inr (same ▸ isOver.resolve_right fine)
    · exact (own.fine unfailed other known).imp_left fun waiting =>
        Finset.mem_erase.mpr ⟨same, waiting⟩

end

end GroupOwn

/-- The requests that are pending are those of the reverse map, each for its own group. -/
structure Grouped (status : UInt64 → MigrationStatus) (started : Nat) (requests : Table UInt64 Nat)
    (groups : Table UInt64 MigrationGroup) (kafkaToGroup : Table UInt64 UInt64) : Prop where
  numbered : Numbered started groups
  requested : ∀ id burst, requests.lookup id = some burst → burst < started
  mapped : ∀ id token, kafkaToGroup.lookup id = some token ↔
    ∃ group, groups.lookup token = some group ∧ id ∈ group.pendingKafkaIds
  own : ∀ token group, groups.lookup token = some group → GroupOwn status requests group

section

variable (group : MigrationGroup)
include group

@[simp] theorem startedAt_settle (id : UInt64) (status : MigrationStatus) :
    (group.settle id status).startedAt = group.startedAt := by
  unfold MigrationGroup.settle
  split <;> rfl

@[simp] theorem pendingKafkaIds_settle (id : UInt64) (status : MigrationStatus) :
    (group.settle id status).pendingKafkaIds = group.pendingKafkaIds.erase id := by
  unfold MigrationGroup.settle
  split <;> rfl

@[simp] theorem closed_settle (id : UInt64) (status : MigrationStatus) :
    (group.settle id status).closed = group.closed := by
  unfold MigrationGroup.settle
  split <;> rfl

end

namespace Grouped

variable {token : UInt64} {group : MigrationGroup}

section

variable (grouped : Grouped status started requests groups kafkaToGroup)
include grouped

theorem start {uuid : UInt64} (new : groups.lookup uuid = none) :
    Grouped status (started + 1) requests (groups.insert uuid { startedAt := started })
      kafkaToGroup := by
  refine ⟨grouped.numbered.start uuid,
    fun id burst asked => Nat.lt_succ_of_lt (grouped.requested id burst asked),
    fun id token => (grouped.mapped id token).trans ?_, fun token group found => ?_⟩
  · rw [Table.lookup_insert_if]
    split
    · rename_i same
      rw [same, new]
      constructor
      · rintro ⟨_, absent, _⟩
        cases absent
      · rintro ⟨_, made, none_⟩
        cases made
        exact absurd none_ (Finset.notMem_empty id)
    · rfl
  · rw [Table.lookup_insert_if] at found
    split at found
    · cases found
      refine ⟨nofun, nofun, fun _ id asked => ?_, rfl⟩
      exact absurd (grouped.requested id started asked) (Nat.lt_irrefl started)
    · exact grouped.own token group found

/-- A group that is changed in what no request sees. -/
theorem replace (found : groups.lookup token = some group) {changed : MigrationGroup}
    (same : changed.startedAt = group.startedAt)
    (pending : changed.pendingKafkaIds = group.pendingKafkaIds)
    (own : GroupOwn status requests changed) :
    Grouped status started requests (groups.insert token changed) kafkaToGroup := by
  refine ⟨grouped.numbered.replace found same, grouped.requested,
    fun id other => (grouped.mapped id other).trans ?_, fun other otherGroup present => ?_⟩
  · rw [Table.lookup_insert_if]
    split
    · rename_i here
      subst here
      simp [found, pending]
    · rfl
  · rw [Table.lookup_insert_if] at present
    split at present
    · cases present
      exact own
    · exact grouped.own other otherGroup present

/-- The statuses go on. -/
theorem later (settles : Settles requests status newStatus) :
    Grouped newStatus started requests groups kafkaToGroup :=
  ⟨grouped.numbered, grouped.requested, grouped.mapped,
    fun token group found => (grouped.own token group found).later settles⟩

/-- The id of a request is in the reverse map only if it is known. -/
theorem asked {id : UInt64} (known : kafkaToGroup.lookup id = some token)
    (found : groups.lookup token = some group) :
    id ∈ group.pendingKafkaIds ∧ requests.lookup id = some group.startedAt := by
  obtain ⟨other, present, waiting⟩ := (grouped.mapped id token).mp known
  obtain rfl := Option.some.inj (found.symm.trans present)
  exact ⟨waiting, (grouped.own token group found).pending id waiting⟩

theorem layer (found : groups.lookup token = some group) {id : UInt64}
    (new : requests.lookup id = none) :
    Grouped status started (requests.insert id group.startedAt)
      (groups.insert token { group with pendingKafkaIds := insert id group.pendingKafkaIds })
      (if (kafkaToGroup.lookup id).isSome then kafkaToGroup
        else kafkaToGroup.insert id token) := by
  have unmapped : ∀ other, kafkaToGroup.lookup id ≠ some other := by
    intro other known
    obtain ⟨holder, present, waiting⟩ := (grouped.mapped id other).mp known
    rw [(grouped.own other holder present).pending id waiting] at new
    cases new
  have absent : kafkaToGroup.lookup id = none := Option.eq_none_iff_forall_ne_some.mpr unmapped
  rw [absent, if_neg (by decide)]
  refine ⟨grouped.numbered.replace found rfl, fun other burst asked => ?_, fun other holder => ?_,
    fun other otherGroup present => ?_⟩
  · rw [Table.lookup_insert_if] at asked
    split at asked
    · cases asked
      exact grouped.numbered.below token group found
    · exact grouped.requested other burst asked
  · rw [Table.lookup_insert_if, Table.lookup_insert_if]
    by_cases here : holder = token
    · subst here
      rw [if_pos rfl]
      simp only [Option.some.injEq, exists_eq_left', Finset.mem_insert]
      split
      · rename_i same
        simp [same]
      · rename_i different
        rw [grouped.mapped other holder, found]
        simp [different]
    · rw [if_neg here]
      split
      · rename_i same
        subst same
        rw [Option.some.injEq]
        refine ⟨fun equal => absurd equal.symm here, ?_⟩
        exact fun there => absurd ((grouped.mapped other holder).mpr there) (unmapped holder)
      · exact grouped.mapped other holder
  · rw [Table.lookup_insert_if] at present
    split at present
    · cases present
      refine (grouped.own token group found).request new fun other => ?_
      rw [Finset.mem_insert, and_iff_left rfl, or_comm]
    · rename_i different
      have apart : group.startedAt ≠ otherGroup.startedAt := fun same =>
        different (grouped.numbered.distinct other otherGroup token group present found same.symm)
      refine (grouped.own other otherGroup present).request new fun _ => ?_
      simp [apart]

/-- The end of a request reaches the group that it is for and no other. -/
theorem settle {id : UInt64} (known : kafkaToGroup.lookup id = some token)
    (found : groups.lookup token = some group) (isOver : (status id).Terminal) :
    Grouped status started requests (groups.insert token (group.settle id (status id)))
      (kafkaToGroup.erase id) := by
  obtain ⟨waiting, asked⟩ := grouped.asked known found
  have own := (grouped.own token group found).settle asked isOver
  refine ⟨grouped.numbered.replace found (startedAt_settle _ _ _), grouped.requested,
    fun other holder => ?_, fun other otherGroup present => ?_⟩
  · rw [Table.lookup_erase_if, Table.lookup_insert_if]
    by_cases here : holder = token
    · subst here
      rw [if_pos rfl]
      simp only [Option.some.injEq, exists_eq_left', pendingKafkaIds_settle, Finset.mem_erase]
      split
      · rename_i same
        simp [same]
      · rename_i different
        rw [grouped.mapped other holder, found]
        simp [different]
    · rw [if_neg here]
      split
      · rename_i same
        subst same
        refine ⟨nofun, fun there => ?_⟩
        have equal := ((grouped.mapped other holder).mpr there).symm.trans known
        exact absurd (Option.some.inj equal) here
      · exact grouped.mapped other holder
  · rw [Table.lookup_insert_if] at present
    split at present
    · cases present
      exact own
    · exact grouped.own other otherGroup present

theorem retire (found : groups.lookup token = some group) (empty : group.pendingKafkaIds = ∅) :
    Grouped status started requests (groups.erase token) kafkaToGroup := by
  refine ⟨grouped.numbered.erase token, grouped.requested,
    fun id other => (grouped.mapped id other).trans ?_, fun other otherGroup present => ?_⟩
  · rw [Table.lookup_erase_if]
    split
    · rename_i here
      subst here
      simp [found, empty]
    · rfl
  · rw [Table.lookup_erase_if] at present
    split at present
    · cases present
    · exact grouped.own other otherGroup present

end

end Grouped

end InferenceServer.RemoteKv
