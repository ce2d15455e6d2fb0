import Mathlib.Algebra.GroupWithZero.Nat
import Mathlib.Data.List.GetD
import Mathlib.Logic.Function.Basic

/-! Choosing a prefill server for a request: of the eligible ones those with the longest
cached prefix, of these those with the fewest requests in flight, and of these one in
turn. -/
namespace InferenceServer.Gateway

abbrev ServerId := String

structure PrefillSnapshot where
  serverId : ServerId
  healthy : Bool := false
  acceptingTasks : Bool := true
  inFlight : Nat := 0
  maxInFlight : Nat := 0
  cachedBlocks : Nat := 0
  prefixMatchDepth : Nat := 0
  deriving DecidableEq

def PrefillSnapshot.isEligible (snap : PrefillSnapshot) : Bool :=
  if !snap.healthy then false
  else if !snap.acceptingTasks then false
  else if snap.maxInFlight > 0 ∧ snap.inFlight ≥ snap.maxInFlight then false
  else true

inductive PrefillRoutingReason
  | prefixMatch
  | leastInflight
  | roundRobin
  | noEligiblePrefill
  deriving DecidableEq

structure PrefillSelection where
  serverId : Option ServerId
  reason : PrefillRoutingReason
  prefixMatchDepth : Nat := 0
  deriving DecidableEq

def PrefillSnapshot.isBetterThan (snap other : PrefillSnapshot) : Bool :=
  if snap.prefixMatchDepth ≠ other.prefixMatchDepth then
    snap.prefixMatchDepth > other.prefixMatchDepth
  else snap.inFlight < other.inFlight

def PrefillSnapshot.isTiedWith (snap other : PrefillSnapshot) : Bool :=
  snap.prefixMatchDepth = other.prefixMatchDepth ∧ snap.inFlight = other.inFlight

/-- One round of the loop that collects the best candidates. -/
def collectBest (bestCandidates : List PrefillSnapshot) (p : PrefillSnapshot) :
    List PrefillSnapshot :=
  if !p.isEligible then bestCandidates
  else
    match bestCandidates with
    | [] => [p]
    | front :: _ =>
      if p.isBetterThan front then [p]
      else if p.isTiedWith front then bestCandidates ++ [p]
      else bestCandidates

/-- The selection and the cursor of the next one. -/
def selectPrefill (prefills : List PrefillSnapshot) (roundRobinCursor : UInt64) :
    PrefillSelection × UInt64 :=
  match prefills.foldl collectBest [] with
  | [] => ({ serverId := none, reason := .noEligiblePrefill }, roundRobinCursor)
  | [selected] =>
    ({ serverId := some selected.serverId
       reason := if selected.prefixMatchDepth > 0 then .prefixMatch else .leastInflight
       prefixMatchDepth := selected.prefixMatchDepth }, roundRobinCursor)
  | first :: second :: rest =>
    let bestCandidates := first :: second :: rest
    let selected := bestCandidates.getD (roundRobinCursor.toNat % bestCandidates.length) first
    ({ serverId := some selected.serverId
       reason := if first.prefixMatchDepth > 0 then .prefixMatch else .roundRobin
       prefixMatchDepth := selected.prefixMatchDepth }, roundRobinCursor + 1)

variable {best prefills : List PrefillSnapshot} {candidate : PrefillSnapshot}

theorem mem_collectBest {p : PrefillSnapshot} (member : candidate ∈ collectBest best p) :
    candidate ∈ best ∨ candidate = p ∧ p.isEligible = true := by
  unfold collectBest at member
  split at member
  · exact .inl member
  · rename_i eligible
    have isEligible : p.isEligible = true := by simpa using eligible
    cases best with
    | nil => exact .inr ⟨by simpa using member, isEligible⟩
    | cons front rest =>
      simp only at member
      split at member
      · exact .inr ⟨by simpa using member, isEligible⟩
      split at member
      · rcases List.mem_append.mp member with earlier | new
        · exact .inl earlier
        · exact .inr ⟨by simpa using new, isEligible⟩
      · exact .inl member

/-- Candidates are eligible prefills. -/
theorem mem_foldl_collectBest (member : candidate ∈ prefills.foldl collectBest best) :
    candidate ∈ best ∨ candidate ∈ prefills ∧ candidate.isEligible = true := by
  induction prefills generalizing best with
  | nil => exact .inl member
  | cons p rest ih =>
    rcases ih member with collected | ⟨later, eligible⟩
    · rcases mem_collectBest collected with earlier | ⟨rfl, eligible⟩
      · exact .inl earlier
      · exact .inr ⟨List.mem_cons_self, eligible⟩
    · exact .inr ⟨List.mem_cons_of_mem _ later, eligible⟩

/-- Only an eligible prefill is selected. -/
theorem selectPrefill_eligible {cursor : UInt64} {chosen : ServerId}
    (selected : (selectPrefill prefills cursor).1.serverId = some chosen) :
    ∃ p ∈ prefills, p.serverId = chosen ∧ p.isEligible = true := by
  have eligible : ∀ p ∈ prefills.foldl collectBest [], p ∈ prefills ∧ p.isEligible = true := by
    intro p member
    simpa using mem_foldl_collectBest member
  unfold selectPrefill at selected
  split at selected
  · cases selected
  · rename_i only best
    obtain ⟨member, isEligible⟩ := eligible only (by simp [best])
    exact ⟨only, member, Option.some.inj selected, isEligible⟩
  · rename_i first second rest best
    have inBest : ((first :: second :: rest).getD
        (cursor.toNat % (first :: second :: rest).length) first) ∈ first :: second :: rest := by
      have bound : cursor.toNat % (first :: second :: rest).length <
          (first :: second :: rest).length := Nat.mod_lt _ (by simp)
      rw [List.getD_eq_getElem _ _ bound]
      exact List.getElem_mem bound
    rw [best] at eligible
    obtain ⟨member, isEligible⟩ := eligible _ inBest
    exact ⟨_, member, Option.some.inj selected, isEligible⟩

end InferenceServer.Gateway

/-! The registry of prefill servers: their health, their requests in flight, and the blocks
they have cached, with an index from each block to its servers. Sets are lists without
duplicates, and a block without a bucket has no servers. Numbers in flight are numbers:
a gateway has far fewer than 2^32 tasks. -/
namespace InferenceServer.Gateway

structure PrefillPeer where
  serverId : ServerId
  healthy : Bool := false
  acceptingTasks : Bool := true
  inFlight : Nat := 0
  maxInFlight : Nat := 0
  cachedBlocks : List UInt64 := []
  deriving DecidableEq

structure PrefillRegistry where
  prefills : List PrefillPeer := []
  cacheBlockIndex : UInt64 → Option (List ServerId) := fun _ => none

def PrefillPeer.makeSnapshot (peer : PrefillPeer) (prefixMatchDepth : Nat) : PrefillSnapshot where
  serverId := peer.serverId
  healthy := peer.healthy
  acceptingTasks := peer.acceptingTasks
  inFlight := peer.inFlight
  maxInFlight := peer.maxInFlight
  cachedBlocks := peer.cachedBlocks.length
  prefixMatchDepth := prefixMatchDepth

namespace PrefillRegistry

def find (registry : PrefillRegistry) (serverId : ServerId) : Option PrefillPeer :=
  registry.prefills.find? (·.serverId = serverId)

/-- Changes the peer of a server; nothing when it is unknown. -/
def modify (registry : PrefillRegistry) (serverId : ServerId) (change : PrefillPeer → PrefillPeer) :
    PrefillRegistry :=
  { registry with
    prefills := registry.prefills.map fun peer =>
      if peer.serverId = serverId then change peer else peer }

def addCachedBlock (registry : PrefillRegistry) (peer : PrefillPeer) (blockHash : UInt64) :
    PrefillRegistry :=
  if blockHash ∈ peer.cachedBlocks then registry
  else
    { registry.modify peer.serverId fun peer =>
        { peer with cachedBlocks := blockHash :: peer.cachedBlocks } with
      cacheBlockIndex := Function.update registry.cacheBlockIndex blockHash
        (some (((registry.cacheBlockIndex blockHash).getD []).insert peer.serverId)) }

def removeCachedBlockFromIndex (registry : PrefillRegistry) (serverId : ServerId)
    (blockHash : UInt64) : PrefillRegistry :=
  match registry.cacheBlockIndex blockHash with
  | none => registry
  | some servers =>
    let servers := servers.filter (· ≠ serverId)
    { registry with
      cacheBlockIndex := Function.update registry.cacheBlockIndex blockHash
        (if servers = [] then none else some servers) }

def clearCachedBlocks (registry : PrefillRegistry) (peer : PrefillPeer) : PrefillRegistry :=
  (peer.cachedBlocks.foldl (removeCachedBlockFromIndex · peer.serverId ·) registry).modify
    peer.serverId fun peer => { peer with cachedBlocks := [] }

def preRegister (registry : PrefillRegistry) (serverId : ServerId) : PrefillRegistry :=
  match registry.find serverId with
  | some _ => registry
  | none => { registry with prefills := registry.prefills ++ [{ serverId }] }

def markRegistered (registry : PrefillRegistry) (serverId : ServerId) (maxInFlight : Nat) :
    PrefillRegistry :=
  registry.modify serverId fun peer => { peer with healthy := true, maxInFlight }

/-- The locked part of `markDown`; whether the server is known, and `onPrefillDown` is to
be called. -/
def markDown (registry : PrefillRegistry) (serverId : ServerId) : Bool × PrefillRegistry :=
  match registry.find serverId with
  | none => (false, registry)
  | some peer =>
    (true, (registry.modify serverId fun peer => { peer with healthy := false }).clearCachedBlocks
      peer)

def setAcceptingTasks (registry : PrefillRegistry) (serverId : ServerId) (acceptingTasks : Bool) :
    PrefillRegistry :=
  registry.modify serverId fun peer => { peer with acceptingTasks }

def incrementInflight (registry : PrefillRegistry) (serverId : ServerId) : PrefillRegistry :=
  registry.modify serverId fun peer => { peer with inFlight := peer.inFlight + 1 }

/-- Saturates at zero. -/
def decrementInflight (registry : PrefillRegistry) (serverId : ServerId) : PrefillRegistry :=
  registry.modify serverId fun peer => { peer with inFlight := peer.inFlight - 1 }

def addCachedBlocks (registry : PrefillRegistry) (serverId : ServerId) (blockHashes : List UInt64) :
    PrefillRegistry :=
  blockHashes.foldl (fun registry blockHash =>
    match registry.find serverId with
    | none => registry
    | some peer => registry.addCachedBlock peer blockHash) registry

/-- The loop over the registration hashes: the servers that have cached all blocks so far,
and for each server how many it has. -/
def prefixDepths (registry : PrefillRegistry) (depth : Nat) (candidates : List ServerId)
    (prefixDepthByServer : ServerId → Nat) : List UInt64 → ServerId → Nat
  | [] => prefixDepthByServer
  | hash :: rest =>
    match registry.cacheBlockIndex hash with
    | none => prefixDepthByServer
    | some servers =>
      let candidates := if depth = 0 then servers else candidates.filter (· ∈ servers)
      if candidates = [] then prefixDepthByServer
      else
        registry.prefixDepths (depth + 1) candidates
          (fun serverId => if serverId ∈ candidates then depth + 1 else prefixDepthByServer serverId)
          rest

def routingSnapshot (registry : PrefillRegistry) (registrationHashes : List UInt64) :
    List PrefillSnapshot :=
  let depths := registry.prefixDepths 0 [] (fun _ => 0) registrationHashes
  registry.prefills.map fun peer => peer.makeSnapshot (depths peer.serverId)

/-- The server has a slot in the registry. -/
def Knows (registry : PrefillRegistry) (serverId : ServerId) : Prop :=
  ∃ peer ∈ registry.prefills, peer.serverId = serverId

variable {registry : PrefillRegistry} {serverId other : ServerId}
  {change : PrefillPeer → PrefillPeer} {expected : ServerId → Nat}

theorem mem_modify {peer : PrefillPeer} (member : peer ∈ (registry.modify serverId change).prefills) :
    ∃ earlier ∈ registry.prefills,
      peer = if earlier.serverId = serverId then change earlier else earlier := by
  obtain ⟨earlier, inRegistry, same⟩ := List.mem_map.mp member
  exact ⟨earlier, inRegistry, same.symm⟩

theorem find_isSome : (registry.find serverId).isSome ↔ registry.Knows serverId := by
  simp [find, Knows, List.find?_isSome]

theorem markDown_wasKnown (known : registry.Knows serverId) :
    (registry.markDown serverId).1 = true := by
  obtain ⟨peer, found⟩ := Option.isSome_iff_exists.mp (find_isSome.mpr known)
  simp only [markDown, found]

/-- What the counting of requests sees of a registry. -/
def load (registry : PrefillRegistry) : List (ServerId × Nat) :=
  registry.prefills.map fun peer => (peer.serverId, peer.inFlight)

/-- A change of other fields leaves the load. -/
theorem load_modify (registry : PrefillRegistry)
    (keeps : ∀ peer, (change peer).serverId = peer.serverId ∧
      (change peer).inFlight = peer.inFlight) :
    (registry.modify serverId change).load = registry.load := by
  simp only [load, modify, List.map_map]
  refine List.map_congr_left fun peer _ => ?_
  simp only [Function.comp_apply]
  split
  · rw [(keeps peer).1, (keeps peer).2]
  · rfl

@[simp] theorem load_markRegistered (registry : PrefillRegistry) (serverId : ServerId)
    (maxInFlight : Nat) : (registry.markRegistered serverId maxInFlight).load = registry.load :=
  load_modify registry fun _ => ⟨rfl, rfl⟩

@[simp] theorem load_setAcceptingTasks (registry : PrefillRegistry) (serverId : ServerId)
    (acceptingTasks : Bool) :
    (registry.setAcceptingTasks serverId acceptingTasks).load = registry.load :=
  load_modify registry fun _ => ⟨rfl, rfl⟩

@[simp] theorem load_removeCachedBlockFromIndex (registry : PrefillRegistry) (serverId : ServerId)
    (blockHash : UInt64) :
    (registry.removeCachedBlockFromIndex serverId blockHash).load = registry.load := by
  unfold removeCachedBlockFromIndex
  split <;> rfl

@[simp] theorem load_clearCachedBlocks (registry : PrefillRegistry) (peer : PrefillPeer) :
    (registry.clearCachedBlocks peer).load = registry.load := by
  have indexed : ∀ (blocks : List UInt64) (registry : PrefillRegistry),
      (blocks.foldl (removeCachedBlockFromIndex · peer.serverId ·) registry).load =
        registry.load := by
    intro blocks
    induction blocks with
    | nil => exact fun _ => rfl
    | cons block rest ih => exact fun registry => (ih _).trans (by simp)
  unfold clearCachedBlocks
  refine (load_modify _ ?_).trans (indexed _ _)
  exact fun _ => ⟨rfl, rfl⟩

@[simp] theorem load_markDown (registry : PrefillRegistry) (serverId : ServerId) :
    (registry.markDown serverId).2.load = registry.load := by
  unfold markDown
  split
  · rfl
  · refine (load_clearCachedBlocks _ _).trans (load_modify _ ?_)
    exact fun _ => ⟨rfl, rfl⟩

@[simp] theorem load_addCachedBlock (registry : PrefillRegistry) (peer : PrefillPeer)
    (blockHash : UInt64) : (registry.addCachedBlock peer blockHash).load = registry.load := by
  unfold addCachedBlock
  split
  · rfl
  · exact load_modify registry fun _ => ⟨rfl, rfl⟩

@[simp] theorem load_addCachedBlocks (registry : PrefillRegistry) (serverId : ServerId)
    (blockHashes : List UInt64) :
    (registry.addCachedBlocks serverId blockHashes).load = registry.load := by
  unfold addCachedBlocks
  induction blockHashes generalizing registry with
  | nil => rfl
  | cons blockHash rest ih =>
    rw [List.foldl_cons, ih]
    split
    · rfl
    · exact load_addCachedBlock _ _ _

theorem load_preRegister (registry : PrefillRegistry) (serverId : ServerId) :
    (registry.preRegister serverId).load = registry.load ∨ ¬registry.Knows serverId ∧
        (registry.preRegister serverId).load = registry.load ++ [(serverId, 0)] := by
  unfold preRegister
  split
  · exact .inl rfl
  · rename_i unknown
    refine .inr ⟨fun known => ?_, by simp [load]⟩
    rw [← find_isSome, unknown] at known
    cases known

/-- Each peer's counter is what is expected for its server. -/
def Counts (registry : PrefillRegistry) (expected : ServerId → Nat) : Prop :=
  ∀ peer ∈ registry.prefills, peer.inFlight = expected peer.serverId

theorem counts_iff :
    registry.Counts expected ↔ ∀ entry ∈ registry.load, entry.2 = expected entry.1 := by
  simp [Counts, load]

theorem knows_iff : registry.Knows serverId ↔ serverId ∈ registry.load.map Prod.fst := by
  simp [Knows, load]

theorem knows_modify (keeps : ∀ peer, (change peer).serverId = peer.serverId) :
    (registry.modify serverId change).Knows other ↔ registry.Knows other := by
  have same : (registry.modify serverId change).prefills.map PrefillPeer.serverId =
      registry.prefills.map PrefillPeer.serverId := by
    simp only [modify, List.map_map]
    refine List.map_congr_left fun peer _ => ?_
    simp only [Function.comp_apply]
    split
    · exact keeps peer
    · rfl
  have members : ∀ registry : PrefillRegistry, registry.Knows other ↔
      other ∈ registry.prefills.map PrefillPeer.serverId := by simp [Knows]
  rw [members, members, same]

@[simp] theorem knows_incrementInflight :
    (registry.incrementInflight serverId).Knows other ↔ registry.Knows other :=
  knows_modify fun _ => rfl

@[simp] theorem knows_decrementInflight :
    (registry.decrementInflight serverId).Knows other ↔ registry.Knows other :=
  knows_modify fun _ => rfl

theorem Counts.increment {next : ServerId → Nat} (counts : registry.Counts expected)
    (chosen : ServerId)
    (adds : ∀ serverId, next serverId = expected serverId + if chosen = serverId then 1 else 0) :
    (registry.incrementInflight chosen).Counts next := by
  intro peer member
  obtain ⟨earlier, inRegistry, rfl⟩ := mem_modify member
  have counted := counts earlier inRegistry
  have added := adds earlier.serverId
  by_cases same : earlier.serverId = chosen
  · rw [if_pos same.symm] at added
    simp only [if_pos same]
    omega
  · rw [if_neg (Ne.symm same)] at added
    simp only [if_neg same]
    omega

theorem Counts.decrement {next : ServerId → Nat} (counts : registry.Counts expected)
    (chosen : ServerId)
    (takes : ∀ serverId, expected serverId = next serverId + if chosen = serverId then 1 else 0) :
    (registry.decrementInflight chosen).Counts next := by
  intro peer member
  obtain ⟨earlier, inRegistry, rfl⟩ := mem_modify member
  have counted := counts earlier inRegistry
  have taken := takes earlier.serverId
  by_cases same : earlier.serverId = chosen
  · rw [if_pos same.symm] at taken
    simp only [if_pos same]
    omega
  · rw [if_neg (Ne.symm same)] at taken
    simp only [if_neg same]
    omega

/-- A peer of another server keeps its counter. -/
theorem mem_decrementInflight_other {peer : PrefillPeer} (member : peer ∈ registry.prefills)
    (other : peer.serverId ≠ serverId) : peer ∈ (registry.decrementInflight serverId).prefills :=
  List.mem_map.mpr ⟨peer, member, if_neg other⟩

end PrefillRegistry

end InferenceServer.Gateway
