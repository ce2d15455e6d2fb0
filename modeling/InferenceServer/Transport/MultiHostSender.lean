import InferenceServer.Transport.KvTables

/-! The fan-out of a migration over the decode hosts that its destination slice spans. The hosts
are read off the replicas that the walk finds; a chunk that the table lacks and a node whose host
is unknown leave no trace there, and nothing else looks for them. -/
namespace InferenceServer.Transport

/-- The sender's side of a migration over several hosts. The hosts in `channels` have a control
channel and a sender of their own. -/
structure MultiHostSender where
  decodeTable : Option KvTable
  channels : List String

namespace MultiHostSender

def legs (sender : MultiHostSender) (hosts : List String) : List String :=
  hosts.filter (· ∈ sender.channels)

/-- Whether every leg has succeeded; `perHost` says which do. A missing host fails the whole and
the others are attempted. Nothing where the walk does not end. -/
def migrate (sender : MultiHostSender) (perHost : String → Bool) (request : MigrationRequest) :
    Option Bool :=
  match sender.decodeTable with
  | none => some false
  | some table => (table.hostsForRequest request.dstSlice).map fun hosts =>
    if hosts = [] then false
    else
      let ok := hosts.all (· ∈ sender.channels)
      (sender.legs hosts).foldl (fun ok host => ok && perHost host) ok

end MultiHostSender

theorem mem_addHost {hosts : List String} {host other : String} :
    other ∈ KvTable.addHost hosts host ↔ other ∈ hosts ∨ (other = host ∧ host ≠ "") := by
  unfold KvTable.addHost
  by_cases empty : host = ""
  · rw [if_pos (.inl (by rw [empty]; rfl))]
    exact ⟨.inl, fun found => found.resolve_right fun new => new.2 empty⟩
  · by_cases present : host ∈ hosts
    · rw [if_pos (.inr present)]
      refine ⟨.inl, fun found => found.elim id ?_⟩
      rintro ⟨rfl, _⟩
      exact present
    · have absent : ¬ (host.isEmpty = true ∨ host ∈ hosts) := by
        rintro (blank | member)
        · exact empty (String.isEmpty_iff.mp blank)
        · exact present member
      rw [if_neg absent, List.mem_orderedInsert]
      constructor
      · rintro (rfl | member)
        · exact .inr ⟨rfl, empty⟩
        · exact .inl member
      · rintro (member | ⟨rfl, _⟩)
        · exact .inr member
        · exact .inl rfl

/-- The hosts of a request are the known hosts of its replicas. -/
theorem mem_hostsForRequest {table : KvTable} {slice : KvSlice} {replicas : List Replica}
    {hosts : List String} (walked : table.requestedReplicas slice = some replicas)
    (listed : table.hostsForRequest slice = some hosts) (host : String) :
    host ∈ hosts ↔ host ≠ "" ∧ ∃ replica ∈ replicas, table.hostOf replica.node = host := by
  rw [KvTable.hostsForRequest, walked] at listed
  obtain rfl := Option.some.inj listed
  suffices grown : ∀ (earlier : List String), host ∈ replicas.foldl
      (fun hosts replica => KvTable.addHost hosts (table.hostOf replica.node)) earlier ↔
      host ∈ earlier ∨ (host ≠ "" ∧ ∃ replica ∈ replicas, table.hostOf replica.node = host) by
    rw [grown]
    simp
  clear listed walked
  induction replicas with
  | nil => simp
  | cons replica rest ih =>
    intro earlier
    rw [List.foldl_cons, ih, mem_addHost]
    constructor
    · rintro ((member | ⟨rfl, known⟩) | ⟨known, other, member, same⟩)
      · exact .inl member
      · exact .inr ⟨known, replica, List.mem_cons_self, rfl⟩
      · exact .inr ⟨known, other, List.mem_cons_of_mem _ member, same⟩
    · rintro (member | ⟨known, other, member, rfl⟩)
      · exact .inl (.inl member)
      · rcases List.mem_cons.mp member with rfl | later
        · exact .inl (.inr ⟨rfl, known⟩)
        · exact .inr ⟨known, other, later, rfl⟩

namespace MultiHostSender

variable {sender : MultiHostSender} {perHost : String → Bool} {request : MigrationRequest}
variable {table : KvTable}

/-- The migration returns `true` when it knows a host and each host it knows has a channel and
succeeds. -/
theorem migrate_true (tabled : sender.decodeTable = some table) :
    sender.migrate perHost request = some true ↔
      ∃ hosts, table.hostsForRequest request.dstSlice = some hosts ∧ hosts ≠ [] ∧
        ∀ host ∈ hosts, host ∈ sender.channels ∧ perHost host = true := by
  have all : ∀ (hosts : List String) (ok : Bool),
      hosts.foldl (fun ok host => ok && perHost host) ok = (ok && hosts.all perHost) := by
    intro hosts
    induction hosts with
    | nil => intro ok; simp
    | cons host rest ih => intro ok; rw [List.foldl_cons, ih, List.all_cons, Bool.and_assoc]
  simp only [migrate, tabled, Option.map_eq_some_iff, all]
  refine exists_congr fun hosts => and_congr_right fun _ => ?_
  by_cases empty : hosts = []
  · simp [empty]
  · rw [if_neg empty]
    simp only [legs, Bool.and_eq_true, List.all_eq_true, decide_eq_true_eq, List.mem_filter,
      ne_eq, empty, not_false_eq_true, true_and]
    constructor
    · rintro ⟨channels, succeed⟩ host member
      exact ⟨channels host member, succeed host ⟨member, channels host member⟩⟩
    · intro each
      exact ⟨fun host member => (each host member).1, fun host found => (each host found.1).2⟩

/-- Every chunk that the destination addresses is in the table, and the host of every node of its
group has a leg that succeeded. -/
def Complete (sender : MultiHostSender) (perHost : String → Bool) (request : MigrationRequest)
    (table : KvTable) : Prop :=
  ∀ layer pos, request.dstSlice.Addresses table.chunkNTokens layer pos →
    ∃ loc, table.lookup request.dstSlot layer pos = some loc ∧
      ∀ node ∈ table.deviceGroup loc.deviceGroupIndex,
        ∃ hosts, table.hostsForRequest request.dstSlice = some hosts ∧
          table.hostOf node ∈ sender.legs hosts ∧ perHost (table.hostOf node) = true

/-- The table has every chunk that the destination addresses, on nodes with known hosts. -/
def Resolved (request : MigrationRequest) (table : KvTable) : Prop :=
  ∀ layer pos, request.dstSlice.Addresses table.chunkNTokens layer pos →
    ∃ loc, table.lookup request.dstSlot layer pos = some loc ∧
      ∀ node ∈ table.deviceGroup loc.deviceGroupIndex, table.hostOf node ≠ ""

/-- Every migration that has a host to go to, lacks a channel or fails on a leg. -/
def Refused (sender : MultiHostSender) (perHost : String → Bool) (request : MigrationRequest)
    (table : KvTable) : Prop :=
  ∀ hosts, table.hostsForRequest request.dstSlice = some hosts →
    hosts = [] ∨ ∃ host ∈ hosts, host ∉ sender.channels ∨ perHost host = false

/-- The node of a chunk that the table has is among the replicas of the walk. -/
theorem mem_replicas {slice : KvSlice} {replicas : List Replica} {layer pos : UInt32}
    {loc : ChunkLoc} {node : FabricNode} (walking : table.chunkNTokens ≠ 0)
    (walked : table.requestedReplicas slice = some replicas)
    (addressed : slice.Addresses table.chunkNTokens layer pos)
    (found : table.lookup slice.slot layer pos = some loc)
    (member : node ∈ table.deviceGroup loc.deviceGroupIndex) :
    { layer, position := pos, loc, node : Replica } ∈ replicas := by
  obtain ⟨chunks, chunked, rfl⟩ := Option.map_eq_some_iff.mp walked
  refine List.mem_flatMap.mpr ⟨_, KvTable.mem_requestedChunks walking chunked addressed, ?_⟩
  simp only [KvTable.replicasOf, found]
  exact List.mem_map.mpr ⟨node, member, rfl⟩

/-- A table without a step has no hosts. -/
theorem walking_of_hosts {hosts : List String}
    (listed : table.hostsForRequest request.dstSlice = some hosts) (some_ : hosts ≠ []) :
    table.chunkNTokens ≠ 0 := by
  intro zero
  rw [KvTable.hostsForRequest, KvTable.requestedReplicas, KvTable.requestedChunks, if_pos zero]
    at listed
  exact some_ (Option.some.inj listed).symm

/-- What the table resolves is complete when the migration returns `true`. -/
theorem complete_of_resolved (tabled : sender.decodeTable = some table)
    (resolved : Resolved request table) (succeeded : sender.migrate perHost request = some true) :
    Complete sender perHost request table := by
  obtain ⟨hosts, listed, some_, each⟩ := (migrate_true tabled).mp succeeded
  obtain ⟨replicas, walked, _⟩ := Option.map_eq_some_iff.mp listed
  intro layer pos addressed
  obtain ⟨loc, found, known⟩ := resolved layer pos addressed
  refine ⟨loc, found, fun node member => ⟨hosts, listed, ?_⟩⟩
  have visited := mem_replicas (walking_of_hosts listed some_) walked addressed found member
  have host : table.hostOf node ∈ hosts :=
    (mem_hostsForRequest walked listed _).mpr ⟨known node member, _, visited, rfl⟩
  have leg := each _ host
  exact ⟨List.mem_filter.mpr ⟨host, decide_eq_true leg.1⟩, leg.2⟩

theorem resolved_of_complete (complete : Complete sender perHost request table) :
    Resolved request table := by
  intro layer pos addressed
  obtain ⟨loc, found, each⟩ := complete layer pos addressed
  refine ⟨loc, found, fun node member => ?_⟩
  obtain ⟨hosts, listed, leg, _⟩ := each node member
  obtain ⟨replicas, walked, _⟩ := Option.map_eq_some_iff.mp listed
  exact ((mem_hostsForRequest walked listed _).mp (List.mem_filter.mp leg).1).1

/-- The migration reports only what is complete, and a gap in the table as a failure, if and only
if there is no gap or it fails on what it does know. -/
theorem migrate_complete_iff (tabled : sender.decodeTable = some table) :
    ((sender.migrate perHost request = some true → Complete sender perHost request table) ∧
      (¬ Resolved request table → sender.migrate perHost request ≠ some true)) ↔
    Resolved request table ∨ Refused sender perHost request table := by
  constructor
  · rintro ⟨reported, _⟩
    by_cases succeeded : sender.migrate perHost request = some true
    · exact .inl (resolved_of_complete (reported succeeded))
    · refine .inr fun hosts listed => ?_
      by_contra otherwise
      rw [not_or] at otherwise
      refine succeeded ((migrate_true tabled).mpr ⟨hosts, listed, otherwise.1, fun host member => ?_⟩)
      refine ⟨?_, ?_⟩ <;> by_contra failed
      · exact otherwise.2 ⟨host, member, .inl failed⟩
      · exact otherwise.2 ⟨host, member, .inr (Bool.eq_false_iff.mpr failed)⟩
  · rintro (resolved | refused)
    · exact ⟨complete_of_resolved tabled resolved, fun gap => absurd resolved gap⟩
    · have failed : sender.migrate perHost request ≠ some true := by
        intro succeeded
        obtain ⟨hosts, listed, some_, each⟩ := (migrate_true tabled).mp succeeded
        rcases refused hosts listed with empty | ⟨host, member, missing | fails⟩
        · exact some_ empty
        · exact missing (each host member).1
        · rw [(each host member).2] at fails
          cases fails
      exact ⟨fun succeeded => absurd succeeded failed, fun _ => failed⟩

/-- A decode table of one device on one host, with the chunks that are `present`. -/
def oneHostTable (present : UInt32 → Bool) : KvTable where
  deviceGroup _ := [⟨0, 1⟩]
  hostOf _ := "decode-0"
  lookup _ _ pos := if present pos then some ⟨pos.toUInt64, 4096, 0⟩ else none

def oneHostSender (present : UInt32 → Bool) : MultiHostSender where
  decodeTable := some (oneHostTable present)
  channels := ["decode-0"]

/-- Two chunks of one layer. -/
def twoChunks : MigrationRequest where
  layerEnd := 1
  srcPositionEnd := 64
  dstPositionEnd := 64

/-- With both chunks in the table the migration succeeds and is complete. -/
theorem migrate_complete_iff_whole :
    (oneHostSender fun _ => true).migrate (fun _ => true) twoChunks = some true ∧
      Complete (oneHostSender fun _ => true) (fun _ => true) twoChunks
        (oneHostTable fun _ => true) := by
  have resolved : Resolved twoChunks (oneHostTable fun _ => true) := by
    intro layer pos _
    refine ⟨⟨pos.toUInt64, 4096, 0⟩, rfl, fun node _ => ?_⟩
    change "decode-0" ≠ ""
    decide
  have migrated : (oneHostSender fun _ => true).migrate (fun _ => true) twoChunks =
      some true := by decide +kernel
  exact ⟨migrated, ((migrate_complete_iff rfl).mpr (.inl resolved)).1 migrated⟩

/-- Only the first chunk is in the table, and the migration of both succeeds. -/
theorem migrate_not_complete :
    ¬ ∀ (sender : MultiHostSender) (perHost : String → Bool) (request : MigrationRequest)
      (table : KvTable), sender.decodeTable = some table →
      request.dstPositionBegin < request.dstPositionEnd →
      (sender.migrate perHost request = some true → Complete sender perHost request table) ∧
        (¬ Resolved request table → sender.migrate perHost request ≠ some true) := by
  intro law
  have claimed := law (oneHostSender (· = 0)) (fun _ => true) twoChunks (oneHostTable (· = 0)) rfl
    (by decide)
  have migrated : (oneHostSender (· = 0)).migrate (fun _ => true) twoChunks = some true := by
    decide +kernel
  have second : twoChunks.dstSlice.Addresses (oneHostTable (· = 0)).chunkNTokens 0 32 :=
    ⟨by decide, by decide, 1, by decide, by decide⟩
  obtain ⟨loc, found, _⟩ := claimed.1 migrated 0 32 second
  cases found

end MultiHostSender

end InferenceServer.Transport
