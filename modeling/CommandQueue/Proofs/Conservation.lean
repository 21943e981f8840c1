import CommandQueue.Proofs.Effect

/-!
# Conservation of allocators

Every allocator that a pool has created is idle in that pool or in the hands of
exactly one list.  `World.Conserved` says so together with the counts that the
device keeps, and is preserved by every effect.  Serials only grow, and each is
below the number of attempts to create an allocator.
-/

namespace CommandQueue

namespace Device

variable {σ : Type}

theorem mem_pooled_iff {device : Device σ} {allocator : Allocator} :
    allocator ∈ device.pooled ↔ ∃ category, allocator ∈ (device.pool category).free := by
  constructor
  · intro member
    rcases List.mem_append.mp member with compute | copy
    · exact ⟨.compute, compute⟩
    · exact ⟨.copy, copy⟩
  · rintro ⟨category, member⟩
    cases category with
    | compute => exact List.mem_append_left _ member
    | copy => exact List.mem_append_right _ member

/-- What is exchanged with one pool is exchanged with all idle allocators. -/
theorem pooled_withPool_perm (device : Device σ) (category : Category) (pool : Pool)
    (given taken : List Allocator)
    (exchanged : (given ++ (device.pool category).free).Perm (taken ++ pool.free)) :
    (given ++ device.pooled).Perm (taken ++ (device.withPool category pool).pooled) := by
  cases category with
  | compute =>
      have both := exchanged.append_right device.copyPool.free
      rwa [List.append_assoc, List.append_assoc] at both
  | copy =>
      have both := exchanged.append_left device.computePool.free
      calc
        (given ++ (device.computePool.free ++ device.copyPool.free)).Perm
            (device.computePool.free ++ (given ++ device.copyPool.free)) :=
          List.perm_append_comm_assoc _ _ _
        _ |>.Perm (device.computePool.free ++ (taken ++ pool.free)) := both
        _ |>.Perm (taken ++ (device.computePool.free ++ pool.free)) :=
          List.perm_append_comm_assoc _ _ _

/-- Rearranging one pool rearranges the idle allocators. -/
theorem pooled_perm_of_rearranged (device : Device σ) {category : Category} {pool : Pool}
    (rearranged : (device.pool category).Rearranged pool) :
    (device.withPool category pool).pooled.Perm device.pooled :=
  (device.pooled_withPool_perm category pool [] [] rearranged.free.symm).symm

end Device

/-- What a list has on loan: an allocator from the pool of its category, with its stamp. -/
def CommandList.loan (list : CommandList) : Category × AllocatorId × FenceValue :=
  (list.category, list.allocator.id, list.allocator.stamp)

/-- What can be seen of an allocator. -/
def Allocator.tag (allocator : Allocator) : AllocatorId × FenceValue :=
  (allocator.id, allocator.stamp)

namespace World

variable {σ : Type}

/-- The allocators of a world by identity. -/
theorem map_id_allocators (world : World σ) :
    world.allocators.map Allocator.id =
      world.device.pooled.map Allocator.id ++
        world.lists.map fun list => list.allocator.id := by
  rw [allocators, List.map_append, List.map_map]
  rfl

theorem map_tag_perm_of_rearranged {world after : World σ}
    (pools : ∀ category,
      (world.device.pool category).Rearranged (after.device.pool category))
    (lists : after.lists.map CommandList.loan = world.lists.map CommandList.loan) :
    (after.allocators.map Allocator.tag).Perm (world.allocators.map Allocator.tag) := by
  have loans : (after.lists.map CommandList.allocator).map Allocator.tag =
      (world.lists.map CommandList.allocator).map Allocator.tag := by
    have second := congrArg (List.map Prod.snd) lists
    rw [List.map_map, List.map_map] at second ⊢
    exact second
  have pooled : after.device.pooled.Perm world.device.pooled :=
    (pools .compute).free.append (pools .copy).free
  rw [allocators, allocators, List.map_append, List.map_append, loans]
  exact (pooled.map Allocator.tag).append_right _

theorem map_id_perm_of_rearranged {world after : World σ}
    (pools : ∀ category,
      (world.device.pool category).Rearranged (after.device.pool category))
    (lists : after.lists.map CommandList.loan = world.lists.map CommandList.loan) :
    (after.allocators.map Allocator.id).Perm (world.allocators.map Allocator.id) := by
  have ids := (map_tag_perm_of_rearranged pools lists).map Prod.fst
  rwa [List.map_map, List.map_map] at ids

/-- Allocators are neither lost nor doubled, and the counts of the device are right. -/
structure Conserved (world : World σ) : Prop where
  category : ∀ category, (world.device.pool category).category = category
  limit : ∀ category, (world.device.pool category).limit = world.device.config.maxAllocators
  sorted : ∀ category, ∀ allocator ∈ (world.device.pool category).free,
    allocator.category = category
  matched : ∀ list ∈ world.lists, list.allocator.category = list.category
  counted : ∀ category, (world.device.pool category).live =
    (world.device.pool category).free.length +
      (world.lists.map CommandList.category).count category
  bounded : ∀ category most, world.device.config.maxAllocators = some most →
    (world.device.pool category).live ≤ most
  living : world.device.liveLists = world.lists.length
  serials : ∀ id ∈ world.allocators.map Allocator.id,
    id.serial < (world.device.pool id.category).nextSerial
  distinct : (world.allocators.map Allocator.id).Nodup

namespace Conserved

/-- Two allocators of one identity are the same allocator. -/
theorem eq_of_id {world : World σ} (conserved : world.Conserved) {left right : Allocator}
    (leftMember : left ∈ world.allocators) (rightMember : right ∈ world.allocators)
    (sameId : left.id = right.id) : left = right :=
  List.inj_on_of_nodup_map conserved.distinct leftMember rightMember sameId

/-- No two lists share an allocator. -/
theorem eq_of_loan {world : World σ} (conserved : world.Conserved) {left right : CommandList}
    (leftMember : left ∈ world.lists) (rightMember : right ∈ world.lists)
    (sameId : left.allocator.id = right.allocator.id) : left = right := by
  have distinct := conserved.distinct
  rw [map_id_allocators] at distinct
  exact List.inj_on_of_nodup_map (List.nodup_append.mp distinct).2.1 leftMember rightMember sameId

/-- The allocator of a list is not idle. -/
theorem ne_of_pooled {world : World σ} (conserved : world.Conserved) {idle : Allocator}
    {list : CommandList} (pooled : idle ∈ world.device.pooled) (member : list ∈ world.lists) :
    list.allocator.id ≠ idle.id := by
  have distinct := conserved.distinct
  rw [map_id_allocators] at distinct
  have lent : list.allocator.id ∈ world.lists.map fun each => each.allocator.id :=
    List.mem_map_of_mem (f := fun each : CommandList => each.allocator.id) member
  exact ((List.nodup_append.mp distinct).2.2 _ (List.mem_map_of_mem pooled) _ lent).symm

/-- Conservation depends only on the pools, the counts and what the lists have on loan. -/
theorem frame {world after : World σ} (conserved : world.Conserved)
    (config : after.device.config = world.device.config)
    (living : after.device.liveLists = world.device.liveLists)
    (pools : ∀ category,
      (world.device.pool category).Rearranged (after.device.pool category))
    (lists : after.lists.map CommandList.loan = world.lists.map CommandList.loan) :
    after.Conserved := by
  have ids := map_id_perm_of_rearranged pools lists
  have categories : after.lists.map CommandList.category =
      world.lists.map CommandList.category := by
    have first := congrArg (List.map Prod.fst) lists
    rwa [List.map_map, List.map_map] at first
  refine ⟨?_, ?_, ?_, ?_, ?_, ?_, ?_, ?_, ?_⟩
  · intro category
    rw [(pools category).category, conserved.category]
  · intro category
    rw [(pools category).limit, conserved.limit, config]
  · intro category allocator member
    exact conserved.sorted category allocator ((pools category).free.subset member)
  · intro list member
    have loan : list.loan ∈ after.lists.map CommandList.loan := List.mem_map_of_mem member
    rw [lists] at loan
    obtain ⟨earlier, earlierMember, same⟩ := List.mem_map.mp loan
    obtain ⟨sameCategory, sameTag⟩ := Prod.mk.inj same
    have sameId := (Prod.mk.inj sameTag).1
    have earlierMatched := conserved.matched earlier earlierMember
    rw [Allocator.category, sameId, sameCategory] at earlierMatched
    exact earlierMatched
  · intro category
    rw [(pools category).live, conserved.counted category, categories,
      (pools category).free.length_eq]
  · intro category most limited
    rw [(pools category).live]
    exact conserved.bounded category most (config ▸ limited)
  · rw [living, conserved.living]
    simpa using (congrArg List.length lists).symm
  · intro id member
    exact Nat.lt_of_lt_of_le (conserved.serials id (ids.subset member))
      (pools id.category).serial
  · exact ids.nodup_iff.mpr conserved.distinct

end Conserved

theorem pool_lend (world : World σ) (category read : Category) (pool : Pool)
    (allocator : Allocator) :
    (world.lend category pool allocator).device.pool read =
      (world.device.withPool category pool).pool read := by
  cases read <;> rfl

theorem map_category_lend (world : World σ) (category : Category) (pool : Pool)
    (allocator : Allocator) :
    (world.lend category pool allocator).lists.map CommandList.category =
      world.lists.map CommandList.category ++ [category] := by
  rw [lend, List.map_append]
  rfl

theorem nextSerial_le_lend (world : World σ) (category : Category) (pool : Pool)
    (allocator : Allocator)
    (serial : (world.device.pool category).nextSerial ≤ pool.nextSerial) (read : Category) :
    (world.device.pool read).nextSerial ≤
      ((world.lend category pool allocator).device.pool read).nextSerial := by
  rw [pool_lend]
  exact Device.forall_pool_withPool
    (fun each next => (world.device.pool each).nextSerial ≤ next.nextSerial) serial
    (fun _ _ => Nat.le_refl _) read

/-- The identity of an allocator that is about to be created is not in use. -/
theorem Conserved.unused_of_nextSerial {world : World σ} (conserved : world.Conserved)
    (category : Category) :
    (⟨(world.device.pool category).category, (world.device.pool category).nextSerial⟩ :
      AllocatorId) ∉ world.allocators.map Allocator.id := by
  intro member
  have serial := conserved.serials _ member
  rw [conserved.category category] at serial
  exact Nat.lt_irrefl _ serial

/-- Where a lent allocator comes from: it was idle, or it was created just now. -/
inductive Origin [Queue σ] (world : World σ) (category : Category) (pool : Pool) :
    Allocator → Prop
  | idle {idle : Allocator} (member : idle ∈ (world.device.pool category).free)
      (reached : idle.stamp ≤ world.device.fence.completed)
      (free : idle.inFlight world.device.held = false)
      (pooled : world.device.pooled.Perm
        (idle :: (world.device.withPool category pool).pooled)) :
      Origin world category pool idle.cleared
  | new (serial : pool.nextSerial = (world.device.pool category).nextSerial + 1)
      (pooled : world.device.pooled.Perm (world.device.withPool category pool).pooled) :
      Origin world category pool
        (Allocator.new
          ⟨(world.device.pool category).category, (world.device.pool category).nextSerial⟩)

section Lending

variable [Queue σ] {world : World σ} {category : Category} {pool : Pool}
  {allocator : Allocator}

theorem origin_of_lends
    (lends : (world.device.pool category).Lends world.device.fence.completed
      world.device.held pool (.ok allocator)) :
    Origin world category pool allocator := by
  cases lends with
  | @reused front back idle shape skipped reached free =>
      have member : idle ∈ (world.device.pool category).free := by
        rw [shape]
        exact List.mem_append_right front List.mem_cons_self
      have taken : (world.device.pool category).free.Perm (idle :: (front ++ back)) := by
        rw [shape]
        exact List.perm_middle
      exact Origin.idle member reached free
        (world.device.pooled_withPool_perm category _ [] [idle] taken)
  | missed skipped creates =>
      cases creates with
      | created room stored =>
          exact Origin.new rfl
            (world.device.pooled_withPool_perm category _ [] [] (List.Perm.refl _))

/-- After lending there are the same allocators as before, or one more that was created. -/
theorem map_id_lend
    (lends : (world.device.pool category).Lends world.device.fence.completed
      world.device.held pool (.ok allocator)) :
    ((world.lend category pool allocator).allocators.map Allocator.id).Perm
        (world.allocators.map Allocator.id) ∨
      pool.nextSerial = (world.device.pool category).nextSerial + 1 ∧
        ((world.lend category pool allocator).allocators.map Allocator.id).Perm
          (⟨(world.device.pool category).category, (world.device.pool category).nextSerial⟩ ::
            world.allocators.map Allocator.id) := by
  let loans := world.lists.map fun list => list.allocator.id
  have ids : ((world.lend category pool allocator).allocators.map Allocator.id).Perm
      (allocator.id ::
        ((world.device.withPool category pool).pooled.map Allocator.id ++ loans)) := by
    rw [map_id_allocators, World.lend, List.map_append, ← List.append_assoc]
    exact List.perm_append_singleton _ _
  rw [map_id_allocators world]
  cases origin_of_lends lends with
  | idle member reached free pooled =>
      exact Or.inl (ids.trans ((pooled.map Allocator.id).append_right loans).symm)
  | new serial pooled =>
      exact Or.inr ⟨serial,
        ids.trans (((pooled.map Allocator.id).append_right loans).symm.cons _)⟩

namespace Conserved

theorem category_of_lends (conserved : world.Conserved)
    (lends : (world.device.pool category).Lends world.device.fence.completed
      world.device.held pool (.ok allocator)) :
    allocator.category = category := by
  cases origin_of_lends lends with
  | @idle idle member reached free pooled => exact conserved.sorted category idle member
  | new serial pooled => exact conserved.category category

/-- Lending keeps identities apart, and their serials below the next one. -/
theorem identities_lend (conserved : world.Conserved)
    (lends : (world.device.pool category).Lends world.device.fence.completed
      world.device.held pool (.ok allocator)) :
    ((world.lend category pool allocator).allocators.map Allocator.id).Nodup ∧
      ∀ id ∈ (world.lend category pool allocator).allocators.map Allocator.id,
        id.serial < ((world.lend category pool allocator).device.pool id.category).nextSerial := by
  have grown := nextSerial_le_lend world category pool allocator lends.lent.serial
  have old : ∀ id ∈ world.allocators.map Allocator.id,
      id.serial < ((world.lend category pool allocator).device.pool id.category).nextSerial :=
    fun id member => Nat.lt_of_lt_of_le (conserved.serials id member) (grown id.category)
  rcases map_id_lend lends with same | ⟨serial, more⟩
  · refine ⟨same.nodup_iff.mpr conserved.distinct, ?_⟩
    intro id present
    exact old id (same.subset present)
  · refine ⟨more.nodup_iff.mpr
      (List.nodup_cons.mpr ⟨conserved.unused_of_nextSerial category, conserved.distinct⟩), ?_⟩
    intro id present
    rcases List.mem_cons.mp (more.subset present) with newest | earlier
    · rw [newest, pool_lend, conserved.category category, Device.pool_withPool_self, serial]
      exact Nat.lt_succ_self _
    · exact old id earlier

theorem live_le_of_lends (conserved : world.Conserved)
    (lends : (world.device.pool category).Lends world.device.fence.completed
      world.device.held pool (.ok allocator))
    {most : Nat} (limited : world.device.config.maxAllocators = some most) :
    pool.live ≤ most := by
  cases lends with
  | reused shape skipped reached free => exact conserved.bounded category most limited
  | missed skipped creates =>
      cases creates with
      | created room stored =>
          exact (Pool.full_eq_false_iff _).mp room most ((conserved.limit category).trans limited)

/-- Opening a list conserves the allocators. -/
theorem lend (conserved : world.Conserved)
    (lends : (world.device.pool category).Lends world.device.fence.completed
      world.device.held pool (.ok allocator)) :
    (world.lend category pool allocator).Conserved := by
  have lent := lends.lent
  obtain ⟨distinct, serials⟩ := conserved.identities_lend lends
  have config : (world.lend category pool allocator).device.config = world.device.config :=
    (world.device.withPool_frame category pool).2.1
  refine ⟨?_, ?_, ?_, ?_, ?_, ?_, ?_, serials, distinct⟩
  · intro read
    rw [pool_lend]
    exact Device.forall_pool_withPool (fun each next => next.category = each)
      (lent.category.trans (conserved.category category))
      (fun each _ => conserved.category each) read
  · intro read
    rw [pool_lend, config]
    exact Device.forall_pool_withPool
      (fun _ next => next.limit = world.device.config.maxAllocators)
      (lent.limit.trans (conserved.limit category)) (fun each _ => conserved.limit each) read
  · intro read
    rw [pool_lend]
    exact Device.forall_pool_withPool
      (fun each next => ∀ allocator ∈ next.free, allocator.category = each)
      (fun each member => conserved.sorted category each (lent.kept.subset member))
      (fun each _ => conserved.sorted each) read
  · intro list member
    rcases List.mem_append.mp member with earlier | new
    · exact conserved.matched list earlier
    · rw [List.mem_singleton.mp new]
      exact conserved.category_of_lends lends
  · intro read
    rw [pool_lend, map_category_lend, List.count_append, List.count_singleton]
    refine Device.forall_pool_withPool
      (fun each next => next.live = next.free.length +
        ((world.lists.map CommandList.category).count each +
          if category == each then 1 else 0)) ?_ ?_ read
    · have before := conserved.counted category
      have balance := lent.balance
      simp only [if_true, beq_self_eq_true]
      omega
    · intro each different
      have before := conserved.counted each
      have other : (category == each) = false := by simpa using Ne.symm different
      simp only [other, Bool.false_eq_true, if_false]
      omega
  · intro read most limited
    rw [config] at limited
    rw [pool_lend]
    exact Device.forall_pool_withPool (fun _ next => next.live ≤ most)
      (conserved.live_le_of_lends lends limited)
      (fun each _ => conserved.bounded each most limited) read
  · change world.device.liveLists + 1 = (world.lists ++ [_]).length
    rw [List.length_append, conserved.living, List.length_singleton]

end Conserved

end Lending

section Queued

variable [Queue σ] {world : World σ}

/-- A list that is dropped gives its allocator back to the idle ones. -/
theorem pooled_drop_perm (world : World σ) (list : CommandList) :
    (world.drop list).device.pooled.Perm
      (list.allocator.givenBack list.retirementStamp world.device.held ::
        world.device.pooled) := by
  let back := list.allocator.givenBack list.retirementStamp world.device.held
  have given : ([back] ++ (world.device.pool list.allocator.category).free).Perm
      ([] ++ ((world.device.pool list.allocator.category).putBack back).free) :=
    (List.perm_append_singleton back _).symm
  have pooled := world.device.pooled_withPool_perm list.allocator.category
    ((world.device.pool list.allocator.category).putBack back) [back] [] given
  rw [drop, Device.retire_fst]
  exact pooled.symm

theorem mem_pooled_drop_iff {list : CommandList} {allocator : Allocator} :
    allocator ∈ (world.drop list).device.pooled ↔
      allocator = list.allocator.givenBack list.retirementStamp world.device.held ∨
        allocator ∈ world.device.pooled :=
  (world.pooled_drop_perm list).mem_iff.trans List.mem_cons

/-- After a list was dropped there are the same allocators as before. -/
theorem Registered.map_id_drop_perm (registered : world.Registered) {list : CommandList}
    (member : list ∈ world.lists) :
    ((world.drop list).allocators.map Allocator.id).Perm
      (world.allocators.map Allocator.id) := by
  have lists := (registered.lists_drop_perm member).map fun each => each.allocator.id
  have pooled := (world.pooled_drop_perm list).map Allocator.id
  rw [List.map_cons, Allocator.id_givenBack] at pooled
  rw [map_id_allocators, map_id_allocators]
  exact (pooled.append_right _).trans
    (List.perm_middle.symm.trans (lists.symm.append_left _))

/-- Dropping a list conserves the allocators. -/
theorem Conserved.drop (conserved : world.Conserved) (registered : world.Registered)
    {list : CommandList} (member : list ∈ world.lists) : (world.drop list).Conserved := by
  have lists := registered.lists_drop_perm member
  have ids := registered.map_id_drop_perm member
  have category : list.allocator.category = list.category := conserved.matched list member
  obtain ⟨_, config, _, _, living, _⟩ := world.drop_frame list
  refine ⟨?_, ?_, ?_, ?_, ?_, ?_, ?_, ?_, ids.nodup_iff.mpr conserved.distinct⟩
  · intro read
    rw [pool_drop]
    refine Device.forall_pool_withPool (fun each next => next.category = each) ?_
      (fun each _ => conserved.category each) read
    exact conserved.category list.allocator.category
  · intro read
    rw [pool_drop, config]
    refine Device.forall_pool_withPool
      (fun _ next => next.limit = world.device.config.maxAllocators) ?_
      (fun each _ => conserved.limit each) read
    exact conserved.limit list.allocator.category
  · intro read
    rw [pool_drop]
    refine Device.forall_pool_withPool
      (fun each next => ∀ allocator ∈ next.free, allocator.category = each) ?_
      (fun each _ => conserved.sorted each) read
    intro each pooled
    rcases List.mem_append.mp pooled with earlier | new
    · exact conserved.sorted _ each earlier
    · rw [List.mem_singleton.mp new, Allocator.category, Allocator.id_givenBack]
      rfl
  · intro each later
    exact conserved.matched each (lists.symm.subset (List.mem_cons_of_mem list later))
  · intro read
    rw [pool_drop]
    refine Device.forall_pool_withPool
      (fun each next => next.live = next.free.length +
        ((world.drop list).lists.map CommandList.category).count each) ?_ ?_ read
    · have before := conserved.counted list.allocator.category
      have split := (lists.map CommandList.category).count_eq list.allocator.category
      rw [List.map_cons, ← category, List.count_cons_self] at split
      rw [Pool.free_putBack, List.length_append, List.length_singleton]
      change (world.device.pool list.allocator.category).live = _
      omega
    · intro each different
      have before := conserved.counted each
      have split := (lists.map CommandList.category).count_eq each
      rw [List.map_cons, ← category, List.count_cons_of_ne (Ne.symm different)] at split
      omega
  · intro read most limited
    rw [config] at limited
    rw [pool_drop]
    refine Device.forall_pool_withPool (fun _ next => next.live ≤ most) ?_
      (fun each _ => conserved.bounded each most limited) read
    exact conserved.bounded list.allocator.category most limited
  · rw [living, conserved.living, lists.length_eq]
    rfl
  · intro id present
    have serial := conserved.serials id (ids.subset present)
    rw [pool_drop]
    refine Nat.lt_of_lt_of_le serial (Device.forall_pool_withPool
      (fun each next => (world.device.pool each).nextSerial ≤ next.nextSerial) ?_
      (fun _ _ => Nat.le_refl _) id.category)
    exact Nat.le_refl (world.device.pool list.allocator.category).nextSerial

variable {moves : Clocked σ → Clocked σ → Prop}

/-- What happened, as far as allocators change hands. -/
inductive Custody (world : World σ) : World σ → Prop
  | kept {after : World σ} (config : after.device.config = world.device.config)
      (living : after.device.liveLists = world.device.liveLists)
      (pools : ∀ category,
        (world.device.pool category).Rearranged (after.device.pool category))
      (loans : after.lists.map CommandList.loan = world.lists.map CommandList.loan) :
      Custody world after
  | lent {category : Category} {pool : Pool} {allocator : Allocator}
      (lends : (world.device.pool category).Lends world.device.fence.completed
        world.device.held pool (.ok allocator)) :
      Custody world (world.lend category pool allocator)
  | returned {list : CommandList} (member : list ∈ world.lists) :
      Custody world (world.drop list)

theorem Effect.custody {after : World σ} (effect : Effect moves world after) :
    Custody world after := by
  have still : ∀ category,
      (world.device.pool category).Rearranged (world.device.pool category) :=
    fun category => Pool.Rearranged.refl _
  cases effect with
  | idle => exact Custody.kept rfl rfl still rfl
  | @rearranged category pool rearranged =>
      obtain ⟨_, config, _, _, _, living, _⟩ := world.device.withPool_frame category pool
      refine Custody.kept config living ?_ rfl
      exact Device.forall_pool_withPool
        (fun each next => (world.device.pool each).Rearranged next) rearranged
        (fun each _ => still each)
  | lent lends => exact Custody.lent lends
  | recorded member accepted => exact Custody.kept rfl rfl still (map_amend _ _ fun _ => rfl)
  | closed member opened => exact Custody.kept rfl rfl still (map_amend _ _ fun _ => rfl)
  | rejected offers own refused =>
      exact Custody.kept rfl rfl (fun category => by cases category <;> exact still _)
        (map_amend _ _ fun _ => rfl)
  | accepted offers own taken =>
      exact Custody.kept rfl rfl (fun category => by cases category <;> exact still _)
        (map_amend _ _ fun _ => rfl)
  | dropped member => exact Custody.returned member
  | prepared library capacity =>
      exact Custody.kept rfl rfl (fun category => by cases category <;> exact still _) rfl
  | moved moved =>
      exact Custody.kept rfl rfl (fun category => by cases category <;> exact still _) rfl

theorem Conserved.custody {after : World σ} (conserved : world.Conserved)
    (registered : world.Registered) (custody : Custody world after) : after.Conserved := by
  cases custody with
  | kept config living pools loans => exact conserved.frame config living pools loans
  | lent lends => exact conserved.lend lends
  | returned member => exact conserved.drop registered member

/-- No allocator is lost. -/
theorem Custody.map_id_subset {after : World σ} (registered : world.Registered)
    (custody : Custody world after) :
    world.allocators.map Allocator.id ⊆ after.allocators.map Allocator.id := by
  cases custody with
  | kept config living pools loans =>
      exact (map_id_perm_of_rearranged pools loans).symm.subset
  | lent lends =>
      rcases map_id_lend lends with same | ⟨_, more⟩
      · exact same.symm.subset
      · intro id member
        exact more.symm.subset (List.mem_cons_of_mem _ member)
  | returned member => exact (registered.map_id_drop_perm member).symm.subset

theorem Fresh.pooled_new (fresh : world.Fresh) {allocator : Allocator}
    (pooled : allocator ∈ world.device.pooled) : allocator = Allocator.new allocator.id := by
  obtain ⟨category, idle⟩ := Device.mem_pooled_iff.mp pooled
  exact (fresh.untouched category).fresh allocator idle

theorem Fresh.conserved (fresh : world.Fresh) : world.Conserved := by
  have lists := fresh.lists
  have pooled : world.allocators = world.device.pooled := by
    rw [allocators, lists, List.map_nil, List.append_nil]
  refine ⟨fresh.category, fresh.limit, ?_, by simp [lists], ?_, ?_, ?_, ?_, ?_⟩
  · intro category allocator member
    rw [(fresh.untouched category).sorted allocator member, fresh.category]
  · intro category
    rw [(fresh.untouched category).counted, lists]
    rfl
  · intro category most limited
    exact (fresh.untouched category).bounded most ((fresh.limit category).trans limited)
  · rw [fresh.liveLists, lists]
    rfl
  · intro id member
    rw [pooled] at member
    obtain ⟨allocator, present, rfl⟩ := List.mem_map.mp member
    obtain ⟨category, idle⟩ := Device.mem_pooled_iff.mp present
    have sorted := (fresh.untouched category).sorted allocator idle
    rw [fresh.category, Allocator.category] at sorted
    rw [sorted]
    exact (fresh.untouched category).serials allocator idle
  · rw [pooled, Device.pooled, List.map_append, List.nodup_append]
    refine ⟨(fresh.untouched .compute).distinct, (fresh.untouched .copy).distinct, ?_⟩
    intro left leftMember right rightMember equal
    obtain ⟨computing, computingIdle, rfl⟩ := List.mem_map.mp leftMember
    obtain ⟨copying, copyingIdle, rfl⟩ := List.mem_map.mp rightMember
    have computes := (fresh.untouched .compute).sorted computing computingIdle
    have copies := (fresh.untouched .copy).sorted copying copyingIdle
    rw [fresh.category, Allocator.category] at computes copies
    rw [equal, copies] at computes
    cases computes

theorem Leads.conserved {start : World σ} (begun : start.Begins)
    (leads : Leads moves start world) : world.Conserved := by
  refine leads.invariant begun begun.fresh.conserved ?_
  intro before after earlier conserved effect
  exact conserved.custody (Leads.registered begun earlier) effect.custody

theorem Leads.map_id_subset {start later : World σ} (begun : start.Begins)
    (leads : Leads moves start world) (onward : Leads moves world later) :
    world.allocators.map Allocator.id ⊆ later.allocators.map Allocator.id := by
  induction onward with
  | refl => exact List.Subset.refl _
  | tail earlier step inductionHypothesis =>
      have registered := Leads.registered begun (leads.trans earlier)
      exact List.Subset.trans inductionHypothesis
        ((step.effect registered).custody.map_id_subset registered)

/-- A refused opening: nothing that can be observed is different after it. -/
structure Unharmed (world after : World σ) : Prop where
  live : ∀ category, (after.device.pool category).live = (world.device.pool category).live
  available : ∀ category,
    (after.device.pool category).available.Perm (world.device.pool category).available
  lists : after.lists = world.lists
  fence : after.device.fence = world.device.fence

theorem unharmed_of_refused {category : Category} {error : Error}
    (refused : (world.device.openList category).result = .error error) :
    world.Unharmed (world.openList category) := by
  have result := Device.requested_of_refused refused
  have lends := world.device.lends_requested category
  rw [result] at lends
  have rearranged := lends.rearranged
  obtain ⟨_, _, fence, _⟩ :=
    world.device.withPool_frame category (world.device.requested category).state
  rw [openList_of_refused result]
  refine ⟨?_, ?_, rfl, fence⟩
  · exact Device.forall_pool_withPool
      (fun each next => next.live = (world.device.pool each).live) rearranged.live
      (fun _ _ => rfl)
  · exact Device.forall_pool_withPool
      (fun each next => next.available.Perm (world.device.pool each).available)
      (rearranged.free.map _) (fun _ _ => List.Perm.refl _)

/-- The allocators of a device are neither lost nor doubled, and its numbers count them. -/
structure Balanced (moves : Clocked σ → Clocked σ → Prop) (world : World σ) : Prop where
  counted : ∀ category, (world.device.pool category).live =
    (world.device.pool category).available.length +
      (world.lists.map CommandList.category).count category
  bounded : ∀ category most, world.device.config.maxAllocators = some most →
    (world.device.pool category).live ≤ most
  distinct : (world.allocators.map Allocator.id).Nodup
  kept : ∀ later, Leads moves world later →
    world.allocators.map Allocator.id ⊆ later.allocators.map Allocator.id
  living : world.device.stats.liveLists = world.lists.length
  dropped : ∀ list ∈ world.lists,
    (world.drop list).device.stats.liveLists + 1 = world.device.stats.liveLists
  refused : ∀ category error, (world.device.openList category).result = .error error →
    world.Unharmed (world.openList category)

/-- Whatever happens to a device, and whatever fails, its allocators are conserved. -/
theorem balanced_of_leads {start : World σ} (begun : start.Begins)
    (leads : Leads moves start world) : world.Balanced moves := by
  have conserved := Leads.conserved begun leads
  refine ⟨?_, conserved.bounded, conserved.distinct, ?_, conserved.living, ?_, ?_⟩
  · intro category
    rw [conserved.counted category, Pool.available, List.length_map]
  · intro later onward
    exact Leads.map_id_subset begun leads onward
  · intro list member
    obtain ⟨_, _, _, _, living, _⟩ := world.drop_frame list
    have some : 0 < world.lists.length := List.length_pos_of_mem member
    change (world.drop list).device.liveLists + 1 = world.device.liveLists
    rw [living, conserved.living]
    exact Nat.sub_add_cancel some
  · intro category error refused
    exact unharmed_of_refused refused

end Queued

/-- Also when the queue still refers to the one allocator there may be, so that no list can be
opened. -/
theorem balanced_of_leads_early :
    (small (ManualQueue.new ManualQueue.defaultLabel)).Begins ∧
      Leads Queue.AnyMove (small (ManualQueue.new ManualQueue.defaultLabel)) early ∧
      (early.device.openList .copy).result = .error (.allocatorInFlight ⟨.copy, 0⟩ 1) ∧
      early.Balanced Queue.AnyMove :=
  ⟨begins_manual, leads_early, rfl, balanced_of_leads begins_manual leads_early⟩

end World

end CommandQueue
