import InferenceServer.Gateway.Registry
import Mathlib.Order.Bounds.Basic
import Mathlib.Data.List.Nodup
import Mathlib.Data.List.TakeWhile

/-! The index from blocks to servers is the inverse of the peers' own sets of cached blocks
after any calls of the registry. From it the routing snapshot reads how long a prefix of a
request each server has, one block at a time, without looking at a peer. -/
namespace InferenceServer.Gateway

/-- The calls by which a registry changes. -/
inductive RegistryCall
  | preRegister (serverId : ServerId)
  | markRegistered (serverId : ServerId) (maxInFlight : Nat)
  | markDown (serverId : ServerId)
  | setAcceptingTasks (serverId : ServerId) (acceptingTasks : Bool)
  | incrementInflight (serverId : ServerId)
  | decrementInflight (serverId : ServerId)
  | addCachedBlocks (serverId : ServerId) (blockHashes : List UInt64)

namespace PrefillRegistry

def call (registry : PrefillRegistry) : RegistryCall → PrefillRegistry
  | .preRegister serverId => registry.preRegister serverId
  | .markRegistered serverId maxInFlight => registry.markRegistered serverId maxInFlight
  | .markDown serverId => (registry.markDown serverId).2
  | .setAcceptingTasks serverId acceptingTasks =>
    registry.setAcceptingTasks serverId acceptingTasks
  | .incrementInflight serverId => registry.incrementInflight serverId
  | .decrementInflight serverId => registry.decrementInflight serverId
  | .addCachedBlocks serverId blockHashes => registry.addCachedBlocks serverId blockHashes

/-- The index names the server under the block. -/
def Lists (registry : PrefillRegistry) (hash : UInt64) (serverId : ServerId) : Prop :=
  serverId ∈ (registry.cacheBlockIndex hash).getD []

/-- The server's own set has the block. -/
def Caches (registry : PrefillRegistry) (serverId : ServerId) (hash : UInt64) : Prop :=
  ∃ peer ∈ registry.prefills, peer.serverId = serverId ∧ hash ∈ peer.cachedBlocks

instance (registry : PrefillRegistry) (hash : UInt64) (serverId : ServerId) :
    Decidable (registry.Lists hash serverId) :=
  inferInstanceAs (Decidable (_ ∈ _))

/-- The index is the inverse of the peers' sets, and has no empty buckets. -/
structure Indexed (registry : PrefillRegistry) : Prop where
  distinct : (registry.prefills.map PrefillPeer.serverId).Nodup
  filled : ∀ hash, registry.cacheBlockIndex hash ≠ some []
  inverse : ∀ hash serverId, registry.Lists hash serverId ↔ registry.Caches serverId hash

variable {serverId : ServerId} {change : PrefillPeer → PrefillPeer} {registry : PrefillRegistry}
  {peer : PrefillPeer}

theorem map_serverId_modify (registry : PrefillRegistry)
    (keeps : ∀ peer, (change peer).serverId = peer.serverId) :
    (registry.modify serverId change).prefills.map PrefillPeer.serverId =
      registry.prefills.map PrefillPeer.serverId := by
  simp only [modify, List.map_map]
  refine List.map_congr_left fun peer _ => ?_
  simp only [Function.comp_apply]
  split
  · exact keeps peer
  · rfl

/-- A peer is the one found under its name. -/
theorem Indexed.eq_of_serverId (indexed : registry.Indexed) {other : PrefillPeer}
    (member : peer ∈ registry.prefills) (otherMember : other ∈ registry.prefills)
    (same : peer.serverId = other.serverId) : peer = other :=
  List.inj_on_of_nodup_map indexed.distinct member otherMember same

theorem find_member (found : registry.find serverId = some peer) : peer ∈ registry.prefills :=
  List.mem_of_find?_eq_some found

/-- What a change of one peer does to the peers' sets. -/
theorem caches_modify {other : ServerId} {hash : UInt64}
    (keeps : ∀ peer, (change peer).serverId = peer.serverId) :
    (registry.modify serverId change).Caches other hash ↔
      ∃ peer ∈ registry.prefills, peer.serverId = other ∧
        hash ∈ (if other = serverId then change peer else peer).cachedBlocks := by
  constructor
  · rintro ⟨peer, member, rfl, cached⟩
    obtain ⟨earlier, inRegistry, rfl⟩ := mem_modify member
    refine ⟨earlier, inRegistry, ?_, ?_⟩
    · split
      · exact (keeps earlier).symm
      · rfl
    · by_cases same : earlier.serverId = serverId
      · simpa [same, keeps] using cached
      · simpa [same] using cached
  · rintro ⟨peer, member, rfl, cached⟩
    refine ⟨_, List.mem_map.mpr ⟨peer, member, rfl⟩, ?_, cached⟩
    split
    · exact keeps peer
    · rfl

/-- A change of other fields leaves index and sets. -/
theorem Indexed.modify (indexed : registry.Indexed)
    (keeps : ∀ peer, (change peer).serverId = peer.serverId ∧
      (change peer).cachedBlocks = peer.cachedBlocks) :
    (registry.modify serverId change).Indexed where
  distinct := by
    rw [map_serverId_modify registry fun peer => (keeps peer).1]
    exact indexed.distinct
  filled := indexed.filled
  inverse hash other := by
    rw [caches_modify fun peer => (keeps peer).1]
    refine (indexed.inverse hash other).trans (exists_congr fun peer => ?_)
    split
    · rw [(keeps peer).2]
    · rfl

theorem Indexed.preRegister (indexed : registry.Indexed) (serverId : ServerId) :
    (registry.preRegister serverId).Indexed := by
  unfold PrefillRegistry.preRegister
  split
  · exact indexed
  · rename_i unknown
    have absent : serverId ∉ registry.prefills.map PrefillPeer.serverId := by
      intro member
      obtain ⟨peer, inRegistry, named⟩ := List.mem_map.mp member
      have known := find_isSome.mpr ⟨peer, inRegistry, named⟩
      rw [unknown] at known
      cases known
    refine ⟨?_, indexed.filled, fun hash other => (indexed.inverse hash other).trans ?_⟩
    · simpa [List.nodup_append, indexed.distinct] using absent
    · simp [Caches, or_and_right, exists_or]

theorem lists_addCachedBlock {blockHash hash : UInt64} (fresh : blockHash ∉ peer.cachedBlocks) :
    (registry.addCachedBlock peer blockHash).Lists hash serverId ↔
      registry.Lists hash serverId ∨ hash = blockHash ∧ serverId = peer.serverId := by
  simp only [PrefillRegistry.addCachedBlock, if_neg fresh, Lists]
  by_cases same : hash = blockHash
  · subst same
    simp [or_comm]
  · simp [same]

theorem Indexed.addCachedBlock (indexed : registry.Indexed)
    (found : registry.find serverId = some peer) (blockHash : UInt64) :
    (registry.addCachedBlock peer blockHash).Indexed := by
  by_cases fresh : blockHash ∈ peer.cachedBlocks
  · simpa only [PrefillRegistry.addCachedBlock, if_pos fresh] using indexed
  · have sets : ∀ other hash, (registry.addCachedBlock peer blockHash).Caches other hash ↔
        registry.Caches other hash ∨ hash = blockHash ∧ other = peer.serverId := by
      intro other hash
      have modified : (registry.addCachedBlock peer blockHash).Caches other hash ↔
          (registry.modify peer.serverId fun peer =>
            { peer with cachedBlocks := blockHash :: peer.cachedBlocks }).Caches other hash := by
        simp only [PrefillRegistry.addCachedBlock, if_neg fresh, Caches]
      rw [modified]
      refine (caches_modify ?_).trans ?_
      · exact fun _ => rfl
      by_cases same : other = peer.serverId
      · subst same
        constructor
        · rintro ⟨holder, member, named, cached⟩
          rcases List.mem_cons.mp (by simpa using cached) with new | earlier
          · exact .inr ⟨new, rfl⟩
          · exact .inl ⟨holder, member, named, earlier⟩
        · rintro (⟨holder, member, named, cached⟩ | ⟨rfl, -⟩)
          · exact ⟨holder, member, named, by simp [cached]⟩
          · exact ⟨peer, find_member found, rfl, by simp⟩
      · simp [same, Caches]
    refine ⟨?_, fun hash => ?_, fun hash other => ?_⟩
    · simp only [PrefillRegistry.addCachedBlock, if_neg fresh]
      rw [map_serverId_modify]
      · exact indexed.distinct
      · exact fun _ => rfl
    · simp only [PrefillRegistry.addCachedBlock, if_neg fresh]
      by_cases same : hash = blockHash
      · subst same
        rw [Function.update_self]
        intro empty
        have member : peer.serverId ∈
            ((registry.cacheBlockIndex hash).getD []).insert peer.serverId := by simp
        rw [Option.some.inj empty] at member
        cases member
      · rw [Function.update_of_ne same]
        exact indexed.filled hash
    · rw [lists_addCachedBlock fresh, sets, indexed.inverse]

theorem Indexed.addCachedBlocks (indexed : registry.Indexed) (serverId : ServerId)
    (blockHashes : List UInt64) : (registry.addCachedBlocks serverId blockHashes).Indexed := by
  unfold PrefillRegistry.addCachedBlocks
  induction blockHashes generalizing registry with
  | nil => exact indexed
  | cons blockHash rest ih =>
    rw [List.foldl_cons]
    refine ih ?_
    split
    · exact indexed
    · rename_i peer found
      exact indexed.addCachedBlock found blockHash

/-- Taking a server out of one bucket. -/
theorem removeCachedBlockFromIndex_spec (registry : PrefillRegistry) (serverId : ServerId)
    (blockHash : UInt64) :
    (registry.removeCachedBlockFromIndex serverId blockHash).prefills = registry.prefills ∧
      (∀ hash other, (registry.removeCachedBlockFromIndex serverId blockHash).Lists hash other ↔
          registry.Lists hash other ∧ ¬(hash = blockHash ∧ other = serverId)) ∧
      ((∀ hash, registry.cacheBlockIndex hash ≠ some []) → ∀ hash,
        (registry.removeCachedBlockFromIndex serverId blockHash).cacheBlockIndex hash ≠
          some []) := by
  unfold removeCachedBlockFromIndex
  split
  · rename_i absent
    refine ⟨rfl, fun hash other => ⟨fun listed => ⟨listed, ?_⟩, And.left⟩, id⟩
    rintro ⟨rfl, -⟩
    simp [Lists, absent] at listed
  · rename_i servers present
    refine ⟨rfl, fun hash other => ?_, fun filled hash => ?_⟩
    · by_cases same : hash = blockHash
      · subst same
        simp only [Lists, Function.update_self, present, Option.getD_some]
        split
        · rename_i empty
          have gone : ∀ member ∈ servers, member = serverId := by simpa using empty
          simpa using fun member => gone other member
        · simp
      · simp [Lists, same]
    · by_cases same : hash = blockHash
      · subst same
        simp only [Function.update_self]
        split
        · exact Option.some_ne_none _ |>.symm
        · rename_i nonempty
          exact fun empty => nonempty (Option.some.inj empty)
      · simp only [Function.update_of_ne same]
        exact filled hash

/-- Taking a server out of the buckets of its blocks. -/
theorem foldl_removeCachedBlockFromIndex (serverId : ServerId) (blocks : List UInt64) :
    ∀ registry : PrefillRegistry,
      (blocks.foldl (removeCachedBlockFromIndex · serverId ·) registry).prefills =
          registry.prefills ∧ (∀ hash other,
          (blocks.foldl (removeCachedBlockFromIndex · serverId ·) registry).Lists hash other ↔
            registry.Lists hash other ∧ ¬(hash ∈ blocks ∧ other = serverId)) ∧
        ((∀ hash, registry.cacheBlockIndex hash ≠ some []) → ∀ hash,
          (blocks.foldl (removeCachedBlockFromIndex · serverId ·) registry).cacheBlockIndex hash ≠
            some []) := by
  induction blocks with
  | nil => exact fun registry => ⟨rfl, by simp, id⟩
  | cons block rest ih =>
    intro registry
    obtain ⟨prefills, lists, filled⟩ := ih (registry.removeCachedBlockFromIndex serverId block)
    obtain ⟨firstPrefills, firstLists, firstFilled⟩ :=
      removeCachedBlockFromIndex_spec registry serverId block
    refine ⟨prefills.trans firstPrefills, fun hash other => ?_, fun held => ?_⟩
    · rw [List.foldl_cons, lists, firstLists, List.mem_cons]
      tauto
    · exact filled (firstFilled held)

section

variable (indexed : registry.Indexed)
include indexed

/-- A peer of the registry loses its blocks in its own set and in the index. -/
theorem Indexed.clearCachedBlocks {holder : PrefillPeer} (member : holder ∈ registry.prefills)
    (named : holder.serverId = peer.serverId) (cached : holder.cachedBlocks = peer.cachedBlocks) :
    (registry.clearCachedBlocks peer).Indexed := by
  obtain ⟨prefills, lists, filled⟩ :=
    foldl_removeCachedBlockFromIndex peer.serverId peer.cachedBlocks registry
  unfold PrefillRegistry.clearCachedBlocks
  generalize peer.cachedBlocks.foldl (removeCachedBlockFromIndex · peer.serverId ·) registry =
    removed at prefills lists filled
  refine ⟨?_, filled indexed.filled, fun hash other => ?_⟩
  · rw [map_serverId_modify, prefills]
    · exact indexed.distinct
    · exact fun _ => rfl
  · refine (lists hash other).trans (Iff.trans ?_ (caches_modify ?_).symm)
    rotate_left
    · exact fun _ => rfl
    rw [indexed.inverse, prefills]
    by_cases same : other = peer.serverId
    · subst same
      have none_left : registry.Caches peer.serverId hash → hash ∈ peer.cachedBlocks := by
        rintro ⟨other, otherMember, sameName, inOther⟩
        rw [indexed.eq_of_serverId otherMember member (sameName.trans named.symm)] at inOther
        rwa [← cached]
      simpa using none_left
    · simp [same, Caches]

theorem Indexed.markDown (serverId : ServerId) : (registry.markDown serverId).2.Indexed := by
  unfold PrefillRegistry.markDown
  split
  · exact indexed
  · rename_i peer found
    have marked : (registry.modify serverId fun peer => { peer with healthy := false }).Indexed :=
      indexed.modify fun _ => ⟨rfl, rfl⟩
    exact marked.clearCachedBlocks (List.mem_map.mpr ⟨peer, find_member found, rfl⟩)
      (by split <;> rfl) (by split <;> rfl)

theorem Indexed.call (next : RegistryCall) : (registry.call next).Indexed := by
  cases next with
  | preRegister serverId => exact indexed.preRegister serverId
  | markRegistered serverId maxInFlight => exact indexed.modify fun _ => ⟨rfl, rfl⟩
  | markDown serverId => exact indexed.markDown serverId
  | setAcceptingTasks serverId acceptingTasks => exact indexed.modify fun _ => ⟨rfl, rfl⟩
  | incrementInflight serverId => exact indexed.modify fun _ => ⟨rfl, rfl⟩
  | decrementInflight serverId => exact indexed.modify fun _ => ⟨rfl, rfl⟩
  | addCachedBlocks serverId blockHashes => exact indexed.addCachedBlocks serverId blockHashes

/-- The index fits the sets after any calls. -/
theorem indexed_foldl_call (calls : List RegistryCall) : (calls.foldl call registry).Indexed := by
  induction calls generalizing registry with
  | nil => exact indexed
  | cons next rest ih => exact ih (indexed.call next)

end

theorem indexed_empty : ({} : PrefillRegistry).Indexed where
  distinct := List.nodup_nil
  filled hash := Option.some_ne_none [] |>.symm
  inverse hash serverId := by simp [Lists, Caches]

/-- The blocks from the start of a request that a set has. -/
def IsPrefixDepth (cached : UInt64 → Prop) (hashes : List UInt64) (depth : Nat) : Prop :=
  IsGreatest {k | k ≤ hashes.length ∧ ∀ hash ∈ hashes.take k, cached hash} depth

theorem isPrefixDepth_takeWhile (cached : UInt64 → Prop) [DecidablePred cached]
    (hashes : List UInt64) : IsPrefixDepth cached hashes (hashes.takeWhile (cached ·)).length := by
  constructor
  · refine ⟨(List.takeWhile_prefix _).length_le, fun hash member => ?_⟩
    rw [List.prefix_iff_eq_take.mp (List.takeWhile_prefix _) |>.symm] at member
    simpa using List.mem_takeWhile_imp member
  · rintro k ⟨short, all⟩
    have whole : (hashes.take k ++ hashes.drop k).takeWhile (cached ·) =
        hashes.take k ++ (hashes.drop k).takeWhile (cached ·) :=
      List.takeWhile_append_of_pos (by simpa using all)
    rw [List.take_append_drop] at whole
    rw [whole, List.length_append, List.length_take_of_le short]
    exact Nat.le_add_right k _

/-- The loop from some depth on. Before the first block every server is a candidate,
although the list of candidates is empty. -/
theorem prefixDepths_eq (registry : PrefillRegistry) (serverId : ServerId)
    (hashes : List UInt64) : ∀ (depth : Nat) (candidates : List ServerId)
      (prefixDepthByServer : ServerId → Nat),
      (∀ other, depth = 0 ∨ other ∈ candidates → prefixDepthByServer other = depth) →
      registry.prefixDepths depth candidates prefixDepthByServer hashes serverId =
        if depth = 0 ∨ serverId ∈ candidates then
          depth + (hashes.takeWhile (registry.Lists · serverId)).length
        else prefixDepthByServer serverId := by
  induction hashes with
  | nil =>
    intro depth candidates byServer agreed
    rw [prefixDepths]
    split
    · exact agreed serverId ‹_›
    · rfl
  | cons hash rest ih =>
    intro depth candidates byServer agreed
    have stops (unlisted : (depth = 0 ∨ serverId ∈ candidates) → ¬registry.Lists hash serverId) :
        byServer serverId = if depth = 0 ∨ serverId ∈ candidates then
          depth + ((hash :: rest).takeWhile (registry.Lists · serverId)).length
        else byServer serverId := by
      split
      · rename_i live
        simp [unlisted live, agreed serverId live]
      · rfl
    rw [prefixDepths]
    cases present : registry.cacheBlockIndex hash with
    | none => exact stops fun _ => by simp [Lists, present]
    | some servers =>
      have listed : ∀ other, registry.Lists hash other ↔ other ∈ servers := by
        simp [Lists, present]
      have narrowed : ∀ other, other ∈ (if depth = 0 then servers
          else candidates.filter (· ∈ servers)) ↔
            (depth = 0 ∨ other ∈ candidates) ∧ registry.Lists hash other := by
        intro other
        rw [listed]
        by_cases first : depth = 0
        · simp [first]
        · simp [first]
      simp only
      generalize (if depth = 0 then servers else candidates.filter (· ∈ servers)) = remaining
        at narrowed
      split
      · rename_i empty
        subst empty
        exact stops fun live has => List.not_mem_nil ((narrowed serverId).mpr ⟨live, has⟩)
      · rw [ih (depth + 1) remaining _ fun other live => if_pos (by simpa using live)]
        by_cases remains : serverId ∈ remaining
        · obtain ⟨live, has⟩ := (narrowed serverId).mp remains
          simp [remains, live, has]
          omega
        · rw [if_neg (by simp [remains]), if_neg remains]
          exact stops fun live has => remains ((narrowed serverId).mpr ⟨live, has⟩)

/-- The snapshot gives each peer how long a prefix its own set has. -/
theorem Indexed.routingSnapshot (indexed : registry.Indexed) (hashes : List UInt64) :
    ∃ depths : PrefillPeer → Nat,
      registry.routingSnapshot hashes =
        registry.prefills.map (fun peer => peer.makeSnapshot (depths peer)) ∧
      ∀ peer ∈ registry.prefills,
        IsPrefixDepth (· ∈ peer.cachedBlocks) hashes (depths peer) := by
  refine ⟨fun peer => registry.prefixDepths 0 [] (fun _ => 0) hashes peer.serverId, rfl, ?_⟩
  intro peer member
  have own : ∀ hash, registry.Lists hash peer.serverId ↔ hash ∈ peer.cachedBlocks := by
    intro hash
    rw [indexed.inverse]
    constructor
    · rintro ⟨other, otherMember, named, cached⟩
      rwa [indexed.eq_of_serverId otherMember member named] at cached
    · exact fun cached => ⟨peer, member, rfl, cached⟩
  have depth := registry.prefixDepths_eq peer.serverId hashes 0 [] (fun _ => 0) (by simp)
  simp only [true_or, if_true, Nat.zero_add] at depth
  simp only [depth, ← own]
  exact isPrefixDepth_takeWhile _ hashes

end PrefillRegistry

end InferenceServer.Gateway
