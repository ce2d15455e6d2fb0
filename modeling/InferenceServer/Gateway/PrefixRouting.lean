import InferenceServer.Gateway.BlockIndex

/-! Routing by the longest cached prefix. The registry's index, the depths read from it and
the choice among them agree: whatever calls the registry has seen and in whatever order the
peers are listed, the chosen server is an eligible one that no eligible peer beats. -/
namespace InferenceServer.Gateway

/-- At least as good a choice: a longer prefix, or the same with no more in flight. -/
def PrefillSnapshot.Covers (snap other : PrefillSnapshot) : Prop :=
  other.prefixMatchDepth < snap.prefixMatchDepth ∨
    other.prefixMatchDepth = snap.prefixMatchDepth ∧ snap.inFlight ≤ other.inFlight

namespace PrefillSnapshot

theorem Covers.refl (snap : PrefillSnapshot) : snap.Covers snap := .inr ⟨rfl, le_rfl⟩

theorem Covers.trans {first second third : PrefillSnapshot} (left : first.Covers second)
    (right : second.Covers third) : first.Covers third := by
  unfold Covers at *
  omega

theorem covers_of_isBetterThan {snap other : PrefillSnapshot}
    (better : snap.isBetterThan other = true) : snap.Covers other := by
  unfold isBetterThan at better
  split at better
  · exact .inl (by simpa using better)
  · rename_i same
    exact .inr ⟨(not_not.mp same).symm, Nat.le_of_lt (by simpa using better)⟩

theorem covers_of_isTiedWith {snap other : PrefillSnapshot}
    (tied : snap.isTiedWith other = true) : snap.Covers other ∧ other.Covers snap := by
  obtain ⟨depth, load⟩ : snap.prefixMatchDepth = other.prefixMatchDepth ∧
      snap.inFlight = other.inFlight := by simpa [isTiedWith] using tied
  exact ⟨.inr ⟨depth.symm, load.le⟩, .inr ⟨depth, load.ge⟩⟩

theorem covers_of_not_isBetterThan {snap other : PrefillSnapshot}
    (better : ¬snap.isBetterThan other = true) : other.Covers snap := by
  unfold isBetterThan at better
  unfold Covers
  split at better
  · have : ¬snap.prefixMatchDepth > other.prefixMatchDepth := by simpa using better
    omega
  · have : ¬snap.inFlight < other.inFlight := by simpa using better
    omega

end PrefillSnapshot

/-- The collected candidates are eligible, and each covers every eligible prefill seen. -/
structure Foremost (best seen : List PrefillSnapshot) : Prop where
  eligible : ∀ candidate ∈ best, candidate ∈ seen ∧ candidate.isEligible = true
  covers : ∀ candidate ∈ best, ∀ other ∈ seen, other.isEligible = true → candidate.Covers other
  found : best = [] → ∀ other ∈ seen, other.isEligible = false

theorem Foremost.collectBest {best seen : List PrefillSnapshot} (foremost : Foremost best seen)
    (p : PrefillSnapshot) : Foremost (collectBest best p) (seen ++ [p]) := by
  have later : ∀ {candidate}, candidate ∈ seen → candidate ∈ seen ++ [p] :=
    List.mem_append_left [p]
  have ofSeen {held : PrefillSnapshot → Prop} (earlier : ∀ other ∈ seen, held other)
      (last : held p) : ∀ other ∈ seen ++ [p], held other := by
    intro other member
    rcases List.mem_append.mp member with inSeen | new
    · exact earlier other inSeen
    · rwa [List.mem_singleton.mp new]
  unfold Gateway.collectBest
  split
  · rename_i refused
    have ineligible : p.isEligible = false := by simpa using refused
    refine ⟨fun candidate member => (foremost.eligible candidate member).imp_left later,
      fun candidate member => ofSeen (foremost.covers candidate member) ?_,
      fun empty => ofSeen (foremost.found empty) ineligible⟩
    exact fun accepted => absurd accepted (by simp [ineligible])
  rename_i accepted
  have isEligible : p.isEligible = true := by simpa using accepted
  -- A candidate that starts the list anew covers what the former ones covered.
  have alone (covering : ∀ other ∈ seen, other.isEligible = true → p.Covers other) :
      Foremost [p] (seen ++ [p]) := by
    refine ⟨?_, ?_, fun empty => absurd empty (List.cons_ne_nil p [])⟩
    · intro candidate member
      rw [List.mem_singleton.mp member]
      exact ⟨by simp, isEligible⟩
    · intro candidate member
      rw [List.mem_singleton.mp member]
      exact ofSeen covering fun _ => .refl p
  cases best with
  | nil =>
    refine alone fun other member eligible => ?_
    rw [foremost.found rfl other member] at eligible
    cases eligible
  | cons front rest =>
    have frontCovers := foremost.covers front List.mem_cons_self
    simp only
    split
    · rename_i better
      exact alone fun other member eligible =>
        (PrefillSnapshot.covers_of_isBetterThan better).trans (frontCovers other member eligible)
    split
    · rename_i tied
      obtain ⟨above, below⟩ := PrefillSnapshot.covers_of_isTiedWith tied
      refine ⟨?_, ?_, fun empty => absurd empty (by simp)⟩
      · intro candidate member
        rcases List.mem_append.mp member with collected | new
        · exact (foremost.eligible candidate collected).imp_left later
        · rw [List.mem_singleton.mp new]
          exact ⟨by simp, isEligible⟩
      · intro candidate member
        rcases List.mem_append.mp member with collected | new
        · refine ofSeen (foremost.covers candidate collected) fun _ => ?_
          obtain ⟨inSeen, frontEligible⟩ := foremost.eligible front List.mem_cons_self
          exact (foremost.covers candidate collected front inSeen frontEligible).trans below
        · rw [List.mem_singleton.mp new]
          refine ofSeen (fun other member eligible => ?_) fun _ => .refl p
          exact above.trans (frontCovers other member eligible)
    · rename_i notBetter _
      have below := PrefillSnapshot.covers_of_not_isBetterThan notBetter
      refine ⟨fun candidate member => (foremost.eligible candidate member).imp_left later,
        fun candidate member => ofSeen (foremost.covers candidate member) fun _ => ?_,
        fun empty => absurd empty (List.cons_ne_nil front rest)⟩
      obtain ⟨inSeen, frontEligible⟩ := foremost.eligible front List.mem_cons_self
      exact (foremost.covers candidate member front inSeen frontEligible).trans below

variable (prefills : List PrefillSnapshot)

theorem foremost_foldl : Foremost (prefills.foldl collectBest []) prefills := by
  have run (rest : List PrefillSnapshot) : ∀ best seen, Foremost best seen →
      Foremost (rest.foldl collectBest best) (seen ++ rest) := by
    induction rest with
    | nil => exact fun best seen foremost => by simpa using foremost
    | cons p rest ih =>
      intro best seen foremost
      simpa using ih _ _ (foremost.collectBest p)
  refine run prefills [] [] ⟨?_, ?_, ?_⟩
  · exact fun _ member => absurd member List.not_mem_nil
  · exact fun _ member => absurd member List.not_mem_nil
  · exact fun _ _ member => absurd member List.not_mem_nil

/-- An eligible prefill of the list is chosen that covers every eligible one; none exactly
when there is none. -/
def Chooses (selection : PrefillSelection) : Prop :=
  (selection.serverId = none ↔ ∀ other ∈ prefills, other.isEligible = false) ∧
    ∀ serverId, selection.serverId = some serverId →
      ∃ chosen ∈ prefills, chosen.serverId = serverId ∧
        chosen.prefixMatchDepth = selection.prefixMatchDepth ∧ chosen.isEligible = true ∧
        ∀ other ∈ prefills, other.isEligible = true → chosen.Covers other

theorem selectPrefill_chooses (roundRobinCursor : UInt64) :
    Chooses prefills (selectPrefill prefills roundRobinCursor).1 := by
  have foremost := foremost_foldl prefills
  have chooses {selection : PrefillSelection} {chosen : PrefillSnapshot}
      (member : chosen ∈ prefills.foldl collectBest [])
      (named : selection.serverId = some chosen.serverId)
      (depth : chosen.prefixMatchDepth = selection.prefixMatchDepth) :
      Chooses prefills selection := by
    obtain ⟨inPrefills, eligible⟩ := foremost.eligible chosen member
    refine ⟨⟨?_, fun refused => ?_⟩, fun serverId selected => ?_⟩
    · rw [named]
      exact fun absent => absurd absent (Option.some_ne_none _)
    · rw [refused chosen inPrefills] at eligible
      cases eligible
    · exact ⟨chosen, inPrefills, Option.some.inj (named.symm.trans selected), depth, eligible,
        foremost.covers chosen member⟩
  unfold selectPrefill
  split
  · rename_i empty
    exact ⟨⟨fun _ => foremost.found empty, fun _ => rfl⟩, nofun⟩
  · rename_i selected best
    exact chooses (by simp [best]) rfl rfl
  · rename_i first second rest best
    refine chooses ?_ rfl rfl
    rw [best, List.getD_eq_getElem _ _ (Nat.mod_lt _ (by simp))]
    exact List.getElem_mem _

/-- The registry that a gateway's calls have made. -/
def PrefillRegistry.after (calls : List RegistryCall) : PrefillRegistry :=
  calls.foldl PrefillRegistry.call {}

/-- After any calls, for every request and every order of the peers, the choice is an
eligible peer with the longest prefix in its own set and then the fewest in flight. -/
theorem routes_by_longest_match (calls : List RegistryCall) (registrationHashes : List UInt64)
    (prefills : List PrefillSnapshot) (roundRobinCursor : UInt64)
    (listed : prefills.Perm
      ((PrefillRegistry.after calls).routingSnapshot registrationHashes)) :
    (PrefillRegistry.after calls).Indexed ∧
      (∃ depths : PrefillPeer → Nat,
        (PrefillRegistry.after calls).routingSnapshot registrationHashes =
          (PrefillRegistry.after calls).prefills.map
            (fun peer => peer.makeSnapshot (depths peer)) ∧
        ∀ peer ∈ (PrefillRegistry.after calls).prefills,
          PrefillRegistry.IsPrefixDepth (· ∈ peer.cachedBlocks) registrationHashes
            (depths peer)) ∧
      Chooses ((PrefillRegistry.after calls).routingSnapshot registrationHashes)
        (selectPrefill prefills roundRobinCursor).1 := by
  have indexed : (PrefillRegistry.after calls).Indexed :=
    PrefillRegistry.indexed_foldl_call PrefillRegistry.indexed_empty calls
  refine ⟨indexed, indexed.routingSnapshot registrationHashes, ?_⟩
  have chosen := selectPrefill_chooses prefills roundRobinCursor
  simpa only [Chooses, listed.mem_iff] using chosen

/-- Two servers with a common first block; the one with the longer prefix is busier. -/
def twoPeers : List RegistryCall :=
  [.preRegister "first", .preRegister "second", .markRegistered "first" 4,
    .markRegistered "second" 4, .addCachedBlocks "first" [7, 9], .addCachedBlocks "second" [7, 8],
    .incrementInflight "second"]

theorem routes_by_longest_match_twoPeers :
    (selectPrefill ((PrefillRegistry.after twoPeers).routingSnapshot [7, 8]) 0).1.serverId =
        some "second" ∧
      Chooses ((PrefillRegistry.after twoPeers).routingSnapshot [7, 8])
        (selectPrefill ((PrefillRegistry.after twoPeers).routingSnapshot [7, 8]) 0).1 :=
  ⟨by decide +kernel, (routes_by_longest_match twoPeers [7, 8] _ 0 (.refl _)).2.2⟩

end InferenceServer.Gateway
