import InferenceServer.Jobs.JobRecords

/-! A training job knows its merge jobs in every run: creation adds to both sides, and whatever
else happens to the records takes a merge job away before it is forgotten. -/
namespace InferenceServer.Jobs

open Machine JobManager

abbrev Records := Table Nat JobRecord

variable {jobs before after : Records}
variable {id : Nat} {job : JobRecord}

/-- Every merge job is known to the training job that it names. -/
def Linked (jobs : Records) : Prop :=
  ∀ parentId parent childId child, jobs.lookup parentId = some parent →
    jobs.lookup childId = some child → parent.jobType = .training →
    child.jobType = .adapterMerge → child.sourceJobId = some parentId →
    childId ∈ parent.adapterMergeJobIds

/-- Every job was there before, with the merge jobs that are left. -/
def Shrinks (before after : Records) : Prop :=
  ∀ id job, after.lookup id = some job → ∃ old, before.lookup id = some old ∧ old.id = job.id ∧
    old.jobType = job.jobType ∧ old.sourceJobId = job.sourceJobId ∧
      ∀ child ∈ old.adapterMergeJobIds, (after.lookup child).isSome → child ∈ job.adapterMergeJobIds

namespace Shrinks

theorem of_sub (sub : ∀ id job, after.lookup id = some job → before.lookup id = some job) :
    Shrinks before after :=
  fun id job found => ⟨job, sub id job found, rfl, rfl, rfl, fun _ listed _ => listed⟩

theorem refl (jobs : Records) : Shrinks jobs jobs := of_sub fun _ _ found => found

theorem erase (jobs : Records) (id : Nat) : Shrinks jobs (jobs.erase id) := by
  refine of_sub fun other job found => ?_
  rw [Table.lookup_erase_if] at found
  split at found
  · cases found
  · exact found

theorem erase_all (removed : List JobRecord) (jobs : Records) :
    Shrinks jobs (removed.foldl (fun jobs job => jobs.erase job.id) jobs) := by
  refine of_sub fun other job found => ?_
  induction removed generalizing jobs with
  | nil => exact found
  | cons first rest ih =>
    have earlier := ih _ found
    rw [Table.lookup_erase_if] at earlier
    split at earlier
    · cases earlier
    · exact earlier

theorem fewer (shrinks : Shrinks before after) {id : Nat} (live : (after.lookup id).isSome) :
    (before.lookup id).isSome := by
  obtain ⟨job, found⟩ := Option.isSome_iff_exists.mp live
  obtain ⟨old, known, _⟩ := shrinks id job found
  rw [known]
  rfl

theorem trans {middle : Records} (first : Shrinks before middle) (second : Shrinks middle after) :
    Shrinks before after := by
  intro id job found
  obtain ⟨between, present, at_, type, source, children⟩ := second id job found
  obtain ⟨old, known, oldAt, oldType, oldSource, oldChildren⟩ := first id between present
  exact ⟨old, known, oldAt.trans at_, oldType.trans type, oldSource.trans source,
    fun child listed live => children child (oldChildren child listed (second.fewer live)) live⟩

/-- A change of a job that keeps what it is and the merge jobs that are left. -/
theorem modify (jobs : Records) {id : Nat} {change : JobRecord → JobRecord}
    (same : ∀ job, (change job).id = job.id ∧ (change job).jobType = job.jobType ∧
      (change job).sourceJobId = job.sourceJobId)
    (children : ∀ job, ∀ child ∈ job.adapterMergeJobIds, (jobs.lookup child).isSome →
      child ∈ (change job).adapterMergeJobIds) : Shrinks jobs (jobs.modify id change) := by
  have fewer : ∀ child, ((jobs.modify id change).lookup child).isSome →
      (jobs.lookup child).isSome := by
    intro child live
    rw [Table.lookup_modify] at live
    split at live
    · rename_i here
      rwa [here, ← Option.isSome_map]
    · exact live
  intro other job found
  rw [Table.lookup_modify] at found
  split at found
  · rename_i here
    obtain ⟨old, known, rfl⟩ := Option.map_eq_some_iff.mp found
    obtain ⟨at_, type, source⟩ := same old
    exact ⟨old, here ▸ known, at_.symm, type.symm, source.symm,
      fun child listed live => children old child listed (fewer child live)⟩
  · exact ⟨job, found, rfl, rfl, rfl, fun _ listed _ => listed⟩

/-- A job leaves memory, and its parent's list. -/
theorem pop (manager : JobManager) (job : JobRecord) :
    Shrinks manager.jobs (manager.popJob job).jobs := by
  have erased := erase manager.jobs job.id
  unfold popJob
  split
  · refine erased.trans (modify _ (fun _ => ⟨rfl, rfl, rfl⟩) ?_)
    intro parent child listed live
    rw [Table.lookup_erase_if] at live
    split at live
    · cases live
    · rename_i different
      exact List.mem_filter.mpr ⟨listed, decide_eq_true different⟩
  · exact erased

end Shrinks

theorem Linked.shrink (linked : Linked before) (shrinks : Shrinks before after) : Linked after := by
  intro parentId parent childId child parentLive childLive training merge source
  obtain ⟨oldParent, parentKnown, _, parentType, _, children⟩ := shrinks parentId parent parentLive
  obtain ⟨oldChild, childKnown, _, childType, childSource, _⟩ := shrinks childId child childLive
  refine children childId ?_ (by rw [childLive]; rfl)
  exact linked parentId oldParent childId oldChild parentKnown childKnown (parentType.trans training)
    (childType.trans merge) (childSource.trans source)

/-- A job that a cleanup may take is put back. -/
theorem Linked.restore (linked : Linked jobs) (taken : job.jobType.cleanupExempt = false) :
    Linked (jobs.insert id job) := by
  have old : ∀ other found, (jobs.insert id job).lookup other = some found →
      found.jobType.cleanupExempt = true → jobs.lookup other = some found := by
    intro other found present exempt
    rw [Table.lookup_insert_if] at present
    split at present
    · cases present
      rw [taken] at exempt
      cases exempt
    · exact present
  intro parentId parent childId child parentLive childLive training merge source
  exact linked parentId parent childId child (old _ _ parentLive (by rw [training]; rfl))
    (old _ _ childLive (by rw [merge]; rfl)) training merge source

variable {manager next : JobManager} {label : Label}

theorem Shrinks.markCancelling (manager : JobManager) (id : Nat) :
    Shrinks manager.jobs (manager.markCancelling id).jobs :=
  .modify _ (fun _ => ⟨rfl, rfl, rfl⟩) fun _ _ listed _ => listed

/-! ### A new job -/

/-- The job that a creation adds, and what it does to its parent. -/
inductive Creates (manager : JobManager) : JobManager → Prop
  | nothing : Creates manager manager
  | plain (job : JobRecord) (new : job.id = manager.created) (fresh : job.adapterMergeJobIds = [])
      (type : job.jobType ≠ .adapterMerge) : Creates manager (manager.insertJob job)
  | merge (job : JobRecord) (new : job.id = manager.created) (type : job.jobType = .adapterMerge)
      {source : Nat} {parent : JobRecord} (named : job.sourceJobId = some source)
      (live : manager.jobs.lookup source = some parent) (training : parent.jobType = .training)
      (free : parent.id ∉ manager.deletingJobIds) :
      Creates manager { manager.insertJob job with
        jobs := (manager.insertJob job).jobs.modify parent.id fun parent =>
          { parent with adapterMergeJobIds := parent.adapterMergeJobIds.insert job.id } }

theorem creates_of_createJob (manager : JobManager) (jobType : JobType) (orgId : Option String)
    (sourceJobId : Option Nat) (replaceable inserted : Bool) :
    Creates manager (manager.createJob jobType orgId sourceJobId replaceable inserted) := by
  unfold createJob
  dsimp only
  split
  · exact .nothing
  · split
    · rename_i merge
      split
      · exact .nothing
      · rename_i parent found
        obtain ⟨source, named, found⟩ := Option.bind_eq_some_iff.mp found
        obtain ⟨candidate, live, found⟩ := Option.bind_eq_some_iff.mp found
        split at found
        · cases found
        · rename_i neither
          cases found
          split
          · exact .nothing
          · refine .merge _ rfl merge named (Option.filter_eq_some_iff.mp live).1 ?_ ?_
            · exact not_not.mp fun other => neither (.inl other)
            · exact fun listed => neither (.inr listed)
    · split
      · exact .nothing
      · exact .plain _ rfl rfl ‹_›

/-- Ids are those of the records, and below the next one. -/
structure Known (manager : JobManager) : Prop where
  ids : ∀ id job, manager.jobs.lookup id = some job → job.id = id ∧ id < manager.created
  sources : ∀ id job source, manager.jobs.lookup id = some job → job.jobType = .adapterMerge →
    job.sourceJobId = some source → source < manager.created
  taken : ∀ job, job ∈ manager.jobsToRemove ∨ job ∈ manager.removedJobs →
    job.jobType.cleanupExempt = false ∧ job.id < manager.created

/-- What a lookup in the records finds after a new job. -/
theorem Creates.lookup (creates : Creates manager next) (found : next.jobs.lookup id = some job) :
    (∃ old, manager.jobs.lookup id = some old ∧ old.id = job.id ∧ old.jobType = job.jobType ∧
      old.sourceJobId = job.sourceJobId ∧
      ∀ child ∈ old.adapterMergeJobIds, child ∈ job.adapterMergeJobIds) ∨
    (id = manager.created ∧ job.id = id ∧ (job.jobType = .adapterMerge → ∃ source parent,
      job.sourceJobId = some source ∧ manager.jobs.lookup source = some parent ∧
        parent.jobType = .training ∧ parent.id ∉ manager.deletingJobIds)) := by
  have inserted : ∀ added : JobRecord, added.id = manager.created →
      ∀ present, (manager.insertJob added).jobs.lookup id = some present →
        manager.jobs.lookup id = some present ∨ id = manager.created ∧ present = added := by
    intro added new present found
    rw [insertJob, Table.lookup_insert_if] at found
    split at found
    · rename_i here
      cases found
      exact .inr ⟨here.trans new, rfl⟩
    · exact .inl found
  cases creates with
  | nothing => exact .inl ⟨job, found, rfl, rfl, rfl, fun _ listed => listed⟩
  | plain added new fresh type =>
    rcases inserted added new job found with old | ⟨here, rfl⟩
    · exact .inl ⟨job, old, rfl, rfl, rfl, fun _ listed => listed⟩
    · exact .inr ⟨here, new.trans here.symm, fun merge => absurd merge type⟩
  | @merge added new type source parent named live training free =>
    rw [Table.lookup_modify] at found
    split at found
    · rename_i here
      obtain ⟨present, known, rfl⟩ := Option.map_eq_some_iff.mp found
      rw [← here] at known
      rcases inserted added new present known with old | ⟨at_, rfl⟩
      · exact .inl ⟨present, old, rfl, rfl, rfl, fun _ listed => List.mem_insert_of_mem listed⟩
      · exact .inr ⟨at_, new.trans at_.symm, fun _ =>
          ⟨source, parent, named, live, training, free⟩⟩
    · rcases inserted added new job found with old | ⟨here, rfl⟩
      · exact .inl ⟨job, old, rfl, rfl, rfl, fun _ listed => listed⟩
      · exact .inr ⟨here, new.trans here.symm, fun _ =>
          ⟨source, parent, named, live, training, free⟩⟩

theorem Creates.lists (creates : Creates manager next) :
    next.jobsToRemove = manager.jobsToRemove ∧ next.removedJobs = manager.removedJobs := by
  cases creates <;> exact ⟨rfl, rfl⟩

theorem Known.absent (known : Known manager) : manager.jobs.lookup manager.created = none := by
  cases found : manager.jobs.lookup manager.created with
  | none => rfl
  | some job => exact absurd (known.ids _ job found).2 (Nat.lt_irrefl _)

theorem Linked.creates (linked : Linked manager.jobs) (known : Known manager)
    (creates : Creates manager next) : Linked next.jobs := by
  intro parentId parent childId child parentLive childLive training merge source
  rcases creates.lookup childLive with ⟨oldChild, childKnown, _, childType, childSource, _⟩ | new
  · have childMerge := childType.trans merge
    have childNames := childSource.trans source
    rcases creates.lookup parentLive with ⟨old, parentKnown, _, type, _, children⟩ | ⟨here, _⟩
    · exact children childId (linked parentId old childId oldChild parentKnown childKnown
        (type.trans training) childMerge childNames)
    · have below := known.sources childId oldChild parentId childKnown childMerge childNames
      exact absurd here (Nat.ne_of_lt below)
  · obtain ⟨here, _⟩ := new
    subst here
    cases creates with
    | nothing =>
      rw [known.absent] at childLive
      cases childLive
    | plain added at_ fresh type =>
      rw [insertJob, at_, AList.lookup_insert] at childLive
      cases childLive
      exact absurd merge type
    | @merge added at_ type origin trainer named live _ free =>
      have before := known.ids origin trainer live
      have apart : manager.created ≠ trainer.id := by omega
      rw [Table.lookup_modify, if_neg apart, insertJob, at_, AList.lookup_insert] at childLive
      cases childLive
      obtain rfl := Option.some.inj (named.symm.trans source)
      rw [Table.lookup_modify, if_pos before.1.symm] at parentLive
      obtain ⟨present, _, rfl⟩ := Option.map_eq_some_iff.mp parentLive
      rw [at_]
      exact List.mem_insert_self

theorem Known.creates (known : Known manager) (creates : Creates manager next) : Known next := by
  have later : manager.created ≤ next.created := by
    cases creates with
    | nothing => exact le_rfl
    | plain | merge => exact Nat.le_succ _
  have grown : ∀ id job, next.jobs.lookup id = some job → id = manager.created →
      manager.created < next.created := by
    intro id job found here
    cases creates with
    | nothing =>
      rw [here, known.absent] at found
      cases found
    | plain | merge => exact Nat.lt_succ_self _
  obtain ⟨toRemove, removed⟩ := creates.lists
  refine ⟨fun id job found => ?_, fun id job source found merge named => ?_, fun job member => ?_⟩
  · rcases creates.lookup found with ⟨old, before, at_, _⟩ | ⟨here, at_, _⟩
    · have bounded := known.ids id old before
      exact ⟨at_.symm.trans bounded.1, bounded.2.trans_le later⟩
    · exact ⟨at_, here ▸ grown id job found here⟩
  · rcases creates.lookup found with ⟨old, before, _, type, origin, _⟩ | ⟨_, _, new⟩
    · exact (known.sources id old source before (type.trans merge) (origin.trans named)).trans_le
        later
    · obtain ⟨origin, parent, names, live, _⟩ := new merge
      obtain rfl := Option.some.inj (names.symm.trans named)
      exact (known.ids _ parent live).2.trans_le later
  · rw [toRemove, removed] at member
    exact ⟨(known.taken job member).1, (known.taken job member).2.trans_le later⟩

/-! ### A deletion -/

/-- What a deletion has checked. -/
structure Checked (manager : JobManager) (id : Nat) (job : JobRecord)
    (children : List JobRecord) : Prop where
  found : manager.jobs.lookup id = some job
  free : ∀ member ∈ job :: children, member.id ∉ manager.deletingJobIds
  live : ∀ child ∈ children, ∃ childId, manager.jobs.lookup childId = some child
  complete : job.jobType = .training → ∀ childId ∈ job.adapterMergeJobIds, ∀ child,
    manager.jobs.lookup childId = some child → child ∈ children

theorem collectChildren_spec {ids : List Nat} {children : List JobRecord}
    (collected : manager.collectChildren job ids = some children) :
    (∀ child ∈ children, ∃ childId, manager.jobs.lookup childId = some child) ∧
      ∀ childId ∈ ids, ∀ child, manager.jobs.lookup childId = some child → child ∈ children := by
  induction ids generalizing children with
  | nil =>
    cases collected
    exact ⟨nofun, nofun⟩
  | cons id rest ih =>
    simp only [collectChildren] at collected
    split at collected
    · cases collected
    · split at collected
      · rename_i absent
        obtain ⟨live, complete⟩ := ih collected
        refine ⟨live, fun childId listed child found => ?_⟩
        rcases List.mem_cons.mp listed with rfl | later
        · rw [absent] at found
          cases found
        · exact complete childId later child found
      · rename_i child present
        split at collected
        · cases collected
        · obtain ⟨others, gathered, rfl⟩ := Option.map_eq_some_iff.mp collected
          obtain ⟨live, complete⟩ := ih gathered
          refine ⟨fun member listed => ?_, fun childId listed other found => ?_⟩
          · rcases List.mem_cons.mp listed with rfl | later
            · exact ⟨id, present⟩
            · exact live member later
          · rcases List.mem_cons.mp listed with rfl | later
            · rw [present] at found
              cases found
              exact List.mem_cons_self
            · exact List.mem_cons_of_mem _ (complete childId later other found)

theorem checked_of_checkDelete {orgId : Option String} {validates : Bool}
    {children : List JobRecord}
    (checked : manager.checkDelete id orgId validates = some (job, children)) :
    Checked manager id job children := by
  obtain ⟨root, found, checked⟩ := Option.bind_eq_some_iff.mp checked
  dsimp only at checked
  split at checked
  · cases checked
  split at checked
  · cases checked
  obtain ⟨others, collected, checked⟩ := Option.bind_eq_some_iff.mp checked
  split at checked
  swap
  · cases checked
  cases checked
  obtain ⟨gathered, collect, collected⟩ := Option.bind_eq_some_iff.mp collected
  split at collected
  · cases collected
  rename_i rootFree
  split at collected
  · cases collected
  rename_i childrenFree
  cases collected
  refine ⟨(Option.filter_eq_some_iff.mp found).1, ?_, ?_, ?_⟩
  · intro member listed
    rcases List.mem_cons.mp listed with rfl | child
    · exact fun apart => rootFree (.inl apart)
    · intro apart
      refine childrenFree (List.any_eq_true.mpr ⟨member, child, ?_⟩)
      rw [decide_eq_true apart, Bool.true_or]
  · unfold mergeChildren at collect
    split at collect
    · exact (collectChildren_spec collect).1
    · cases collect
      exact nofun
  · intro training childId listed child present
    rw [mergeChildren, if_pos training] at collect
    exact (collectChildren_spec collect).2 childId
      ((List.perm_insertionSort _ _).mem_iff.mpr listed) child present

/-! ### Every step -/

theorem Known.shrinks (known : Known manager) (shrinks : Shrinks manager.jobs next.jobs)
    (created : next.created = manager.created)
    (taken : ∀ job, job ∈ next.jobsToRemove ∨ job ∈ next.removedJobs →
      job.jobType.cleanupExempt = false ∧ job.id < manager.created) : Known next := by
  refine ⟨fun id job found => ?_, fun id job source found merge named => ?_, ?_⟩
  · obtain ⟨old, before, at_, _⟩ := shrinks id job found
    rw [created, ← at_]
    exact known.ids id old before
  · obtain ⟨old, before, _, type, origin, _⟩ := shrinks id job found
    rw [created]
    exact known.sources id old source before (type.trans merge) (origin.trans named)
  · rw [created]
    exact taken

/-- A step takes jobs away, adds a new one, or puts back one that the cleanup had taken. -/
inductive Changes (manager next : JobManager) : Prop
  | shrinks (shrinks : Shrinks manager.jobs next.jobs) (created : next.created = manager.created)
  | creates (creates : Creates manager next)
  | restores (job : JobRecord) (taken : job ∈ manager.removedJobs)
      (jobs : next.jobs = manager.jobs.insert job.id job)
      (created : next.created = manager.created)

theorem changes_of_does (does : Does manager label next) : Changes manager next := by
  cases does with
  | createJob => exact .creates (creates_of_createJob ..)
  | setStatus =>
    exact .shrinks (.modify _ (fun _ => ⟨rfl, rfl, rfl⟩) fun _ _ listed _ => listed) rfl
  | abandon checked active replaceable raises => exact .shrinks (.markCancelling _ _) rfl
  | startStopping checked active => exact .shrinks (.markCancelling _ _) rfl
  | @pop token deletion job remaining found stage =>
    refine .shrinks (.pop manager job) ?_
    unfold popJob setStage
    split <;> rfl
  | remove present => exact .shrinks (.erase_all _ _) rfl
  | restore removed absent =>
    refine .restores _ ?_ rfl rfl
    rw [removed]
    exact List.mem_cons_self
  | shutdown => exact .shrinks (.of_sub nofun) rfl
  | refuse | start | stop | erase | finish | scan | forget => exact .shrinks (.refl _) rfl

theorem Linked.changes (linked : Linked manager.jobs) (known : Known manager)
    (changes : Changes manager next) : Linked next.jobs := by
  cases changes with
  | shrinks shrinks => exact linked.shrink shrinks
  | creates creates => exact linked.creates known creates
  | restores job taken jobs =>
    rw [jobs]
    exact linked.restore (known.taken job (.inr taken)).1

theorem Known.taken_of_does (known : Known manager) (does : Does manager label next)
    (taken : job ∈ next.jobsToRemove ∨ job ∈ next.removedJobs) :
    job.jobType.cleanupExempt = false ∧ job.id < manager.created := by
  cases does with
  | createJob =>
    obtain ⟨toRemove, removed⟩ := (creates_of_createJob manager _ _ _ _ _).lists
    rw [toRemove, removed] at taken
    exact known.taken job taken
  | @pop token deletion popped remaining found stage =>
    refine known.taken job ?_
    unfold popJob setStage at taken
    split at taken <;> exact taken
  | @scan old =>
    rcases taken with listed | removed
    · obtain ⟨id, _, found⟩ := List.mem_filterMap.mp listed
      obtain ⟨found, old⟩ := Option.filter_eq_some_iff.mp found
      rw [Bool.and_eq_true, Bool.not_eq_true'] at old
      have numbered := known.ids id job found
      exact ⟨old.2, numbered.1.trans_lt numbered.2⟩
    · exact known.taken job (.inr removed)
  | remove present =>
    rcases taken with listed | removed
    · cases listed
    · rcases List.mem_append.mp removed with earlier | now
      · exact known.taken job (.inr earlier)
      · exact known.taken job (.inl (present job now))
  | forget removed | restore removed =>
    refine known.taken job (taken.imp_right fun rest => ?_)
    rw [removed]
    exact List.mem_cons_of_mem _ rest
  | setStatus | refuse | start | abandon | startStopping | stop | erase | finish | shutdown =>
    exact known.taken job taken

theorem Known.does (known : Known manager) (does : Does manager label next) : Known next := by
  cases changes_of_does does with
  | shrinks shrinks created =>
    exact known.shrinks shrinks created fun job taken => known.taken_of_does does taken
  | creates creates => exact known.creates creates
  | restores job taken jobs created =>
    have numbered := known.taken job (.inr taken)
    have lookup : ∀ id found, next.jobs.lookup id = some found →
        manager.jobs.lookup id = some found ∨ id = job.id ∧ found = job := by
      intro id found present
      rw [jobs, Table.lookup_insert_if] at present
      split at present
      · cases present
        exact .inr ⟨‹_›, rfl⟩
      · exact .inl present
    refine ⟨fun id found present => ?_, fun id found source present merge named => ?_, ?_⟩
    · rw [created]
      rcases lookup id found present with old | ⟨rfl, rfl⟩
      · exact known.ids id found old
      · exact ⟨rfl, numbered.2⟩
    · rw [created]
      rcases lookup id found present with old | ⟨rfl, rfl⟩
      · exact known.sources id found source old merge named
      · rw [merge] at numbered
        cases numbered.1
    · rw [created]
      exact fun other taken => known.taken_of_does does taken

end InferenceServer.Jobs
