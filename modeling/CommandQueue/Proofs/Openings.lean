import CommandQueue.Proofs.Conservation

/-!
# Lists and the allocators they were opened on

The journal tells on which allocator a list was opened.  `World.Booked` ties it
to the world: to the lists at hand, to the frozen recordings of idle allocators,
and to the streams that the queue has accepted.
-/

namespace CommandQueue

namespace World

variable {σ : Type}

/-- The list that is opened next has this identity. -/
def nextList (world : World σ) : ListId := ⟨world.device.listsOpened + 1⟩

/-- What the journal says of lists is so. -/
structure Booked (world : World σ) : Prop where
  numbered : ∀ list allocator, Journal.openedOn world.journal list = some allocator →
    list.number ≤ world.device.listsOpened
  lists : ∀ list ∈ world.lists,
    Journal.openedOn world.journal list.id = some list.allocator.id
  own : ∀ list ∈ world.lists, ∀ name, list.allocator.frozenBy = some name → name = list.id
  frozen : ∀ allocator ∈ world.device.pooled, ∀ name, allocator.frozenBy = some name →
    Journal.openedOn world.journal name = some allocator.id
  streams : ∀ entry ∈ world.entries, ∀ stream ∈ entry.streams,
    ∃ allocator, Journal.openedOn world.journal stream.list = some allocator ∧
      allocator.category = stream.category

namespace Booked

theorem ne_nextList {world : World σ} (booked : world.Booked) {list : ListId}
    {allocator : AllocatorId}
    (known : Journal.openedOn world.journal list = some allocator) :
    world.nextList ≠ list := by
  rintro rfl
  exact Nat.not_succ_le_self _ (booked.numbered _ allocator known)

theorem openedOn_nextList {world : World σ} (booked : world.Booked) :
    Journal.openedOn world.journal world.nextList = none := by
  cases opened : Journal.openedOn world.journal world.nextList with
  | none => rfl
  | some allocator => exact absurd rfl (booked.ne_nextList opened)

/-- The stream of a list that was frozen goes by the name of the list. -/
theorem stream_freeze {world : World σ} (booked : world.Booked) {list : CommandList}
    (member : list ∈ world.lists) :
    list.freeze.stream = ⟨list.id, list.category, list.recorded⟩ := by
  have name : list.freeze.allocator.frozenBy.getD list.id = list.id := by
    change (some (list.allocator.frozenBy.getD list.id)).getD list.id = list.id
    rw [Option.getD_some]
    cases frozen : list.allocator.frozenBy with
    | none => rfl
    | some name => exact booked.own list member name frozen
  change (⟨_, _, _⟩ : Stream) = _
  exact congrArg (fun name => (⟨name, list.category, list.recorded⟩ : Stream)) name

/-- Lists may change as long as they keep their allocators and the names of their recordings. -/
theorem frame {world after : World σ} (booked : world.Booked)
    (opened : Journal.openedOn after.journal = Journal.openedOn world.journal)
    (number : after.device.listsOpened = world.device.listsOpened)
    (lists : ∀ list ∈ after.lists, ∃ earlier ∈ world.lists,
      earlier.id = list.id ∧ earlier.allocator.id = list.allocator.id ∧
        ∀ name, list.allocator.frozenBy = some name → name = list.id)
    (pooled : ∀ allocator ∈ after.device.pooled, allocator ∈ world.device.pooled ∨
      ∀ name, allocator.frozenBy = some name →
        Journal.openedOn world.journal name = some allocator.id)
    (entries : ∀ entry ∈ after.entries, entry ∈ world.entries ∨
      ∀ stream ∈ entry.streams, ∃ allocator,
        Journal.openedOn world.journal stream.list = some allocator ∧
          allocator.category = stream.category) :
    after.Booked := by
  refine ⟨?_, ?_, ?_, ?_, ?_⟩
  · rw [opened, number]
    exact booked.numbered
  · intro list member
    obtain ⟨earlier, earlierMember, sameId, sameAllocator, _⟩ := lists list member
    rw [opened, ← sameId, ← sameAllocator]
    exact booked.lists earlier earlierMember
  · intro list member
    obtain ⟨_, _, _, _, own⟩ := lists list member
    exact own
  · intro allocator member
    rw [opened]
    rcases pooled allocator member with earlier | new
    · exact booked.frozen allocator earlier
    · exact new
  · intro entry member
    rw [opened]
    rcases entries entry member with earlier | new
    · exact booked.streams entry earlier
    · exact new

theorem lists_refl {world : World σ} (booked : world.Booked) :
    ∀ list ∈ world.lists, ∃ earlier ∈ world.lists,
      earlier.id = list.id ∧ earlier.allocator.id = list.allocator.id ∧
        ∀ name, list.allocator.frozenBy = some name → name = list.id :=
  fun list member => ⟨list, member, rfl, rfl, booked.own list member⟩

theorem lists_amend {world : World σ} (booked : world.Booked) (named : List ListId)
    {change : CommandList → CommandList}
    (kept : ∀ list, (change list).id = list.id ∧ (change list).allocator.id = list.allocator.id)
    (frozen : ∀ list, (change list).allocator.frozenBy = list.allocator.frozenBy ∨
      (change list).allocator.frozenBy = some (list.allocator.frozenBy.getD list.id)) :
    ∀ list ∈ amend world.lists named change, ∃ earlier ∈ world.lists,
      earlier.id = list.id ∧ earlier.allocator.id = list.allocator.id ∧
        ∀ name, list.allocator.frozenBy = some name → name = list.id := by
  refine forall_amend booked.lists_refl ?_
  intro list member _
  obtain ⟨sameId, sameAllocator⟩ := kept list
  refine ⟨list, member, sameId.symm, sameAllocator.symm, ?_⟩
  intro name recording
  rw [sameId]
  rcases frozen list with same | new
  · exact booked.own list member name (same ▸ recording)
  · rw [new] at recording
    cases earlier : list.allocator.frozenBy with
    | none =>
        rw [earlier] at recording
        exact (Option.some.inj recording).symm
    | some first =>
        rw [earlier] at recording
        rw [← Option.some.inj recording]
        exact booked.own list member first earlier

end Booked

section Queued

variable [Queue σ] {moves : Clocked σ → Clocked σ → Prop} {world after : World σ}

theorem mem_pooled_lend {category : Category} {pool : Pool} {lent allocator : Allocator}
    (lends : (world.device.pool category).Lends world.device.fence.completed
      world.device.held pool (.ok lent))
    (member : allocator ∈ (world.lend category pool lent).device.pooled) :
    allocator ∈ world.device.pooled := by
  cases origin_of_lends lends with
  | idle _ _ _ pooled => exact pooled.symm.subset (List.mem_cons_of_mem _ member)
  | new _ pooled => exact pooled.symm.subset member

theorem Booked.lend (booked : world.Booked) {category : Category} {pool : Pool}
    {allocator : Allocator}
    (lends : (world.device.pool category).Lends world.device.fence.completed
      world.device.held pool (.ok allocator)) :
    (world.lend category pool allocator).Booked := by
  have lasting : ∀ {list known}, Journal.openedOn world.journal list = some known →
      Journal.openedOn (world.lend category pool allocator).journal list = some known :=
    fun known => Journal.openedOn_append_of_some _ known
  have new : Journal.openedOn (world.lend category pool allocator).journal world.nextList =
      some allocator.id :=
    Journal.openedOn_opened_self _ booked.openedOn_nextList
  refine ⟨?_, ?_, ?_, ?_, ?_⟩
  · intro list known opened
    change list.number ≤ world.device.listsOpened + 1
    by_cases next : world.nextList = list
    · rw [← next]
      exact Nat.le_refl _
    · change Journal.openedOn (world.journal ++ [.opened world.nextList allocator.id]) list =
        some known at opened
      rw [Journal.openedOn_opened_of_ne _ _ next] at opened
      exact Nat.le_succ_of_le (booked.numbered list known opened)
  · intro list member
    rcases List.mem_append.mp member with earlier | newest
    · exact lasting (booked.lists list earlier)
    · rw [List.mem_singleton.mp newest]
      exact new
  · intro list member name frozen
    rcases List.mem_append.mp member with earlier | newest
    · exact booked.own list earlier name frozen
    · rw [List.mem_singleton.mp newest] at frozen
      change allocator.frozenBy = some name at frozen
      rw [← lends.cleared] at frozen
      cases frozen
  · intro idle member name frozen
    exact lasting (booked.frozen idle (mem_pooled_lend lends member) name frozen)
  · intro entry member stream chosen
    obtain ⟨known, opened, category⟩ := booked.streams entry member stream chosen
    exact ⟨known, lasting opened, category⟩

theorem Booked.effect (booked : world.Booked) (conserved : world.Conserved)
    (effect : Effect moves world after) : after.Booked := by
  have keep : ∀ entry ∈ world.entries, entry ∈ world.entries ∨
      ∀ stream ∈ entry.streams, ∃ allocator,
        Journal.openedOn world.journal stream.list = some allocator ∧
          allocator.category = stream.category :=
    fun entry member => Or.inl member
  cases effect with
  | idle => exact booked
  | @rearranged category pool rearranged =>
      obtain ⟨_, _, _, _, opened, _⟩ := world.device.withPool_frame category pool
      refine booked.frame rfl opened booked.lists_refl ?_ keep
      intro allocator member
      exact Or.inl ((world.device.pooled_perm_of_rearranged rearranged).subset member)
  | lent lends => exact booked.lend lends
  | recorded member accepted =>
      refine booked.frame ?_ rfl
        (booked.lists_amend _ (fun _ => ⟨rfl, rfl⟩) fun _ => Or.inl rfl)
        (fun _ => Or.inl) keep
      exact funext fun list => Journal.openedOn_recorded _ _ _ _
  | closed member opened =>
      exact booked.frame rfl rfl
        (booked.lists_amend _ (fun _ => ⟨rfl, rfl⟩) fun _ => Or.inl rfl)
        (fun _ => Or.inl) keep
  | rejected offers own refused =>
      exact booked.frame rfl rfl
        (booked.lists_amend _ (fun _ => ⟨rfl, rfl⟩) fun _ => Or.inr rfl)
        (fun _ => Or.inl) keep
  | @accepted slice offers own taken =>
      refine booked.frame ?_ rfl
        (booked.lists_amend _ (fun _ => ⟨rfl, rfl⟩) fun _ => Or.inr rfl)
        (fun _ => Or.inl) ?_
      · exact funext fun list => Journal.openedOn_accepted _ _ _ _
      · intro entry member
        rcases List.mem_append.mp member with earlier | new
        · exact Or.inl earlier
        · refine Or.inr ?_
          rw [List.mem_singleton.mp new]
          intro stream chosen
          obtain ⟨frozen, frozenMember, shape⟩ := List.mem_map.mp chosen
          obtain ⟨list, member, rfl⟩ := List.mem_map.mp frozenMember
          have present := (own list member).1
          rw [← shape, booked.stream_freeze present]
          exact ⟨list.allocator.id, booked.lists list present, conserved.matched list present⟩
  | @dropped list member =>
      obtain ⟨_, _, _, opened, _⟩ := world.drop_frame list
      refine booked.frame rfl opened ?_ ?_ keep
      · intro other left
        exact booked.lists_refl other (List.mem_of_mem_eraseP left)
      · intro allocator pooled
        rcases mem_pooled_drop_iff.mp pooled with back | earlier
        · refine Or.inr ?_
          intro name frozen
          rw [back] at frozen ⊢
          have recording := (Allocator.givenBack_of_frozenBy frozen).1
          rw [booked.own list member name recording, Allocator.id_givenBack]
          exact booked.lists list member
        · exact Or.inl earlier
  | prepared library capacity =>
      exact booked.frame rfl rfl booked.lists_refl (fun _ => Or.inl) keep
  | moved moved => exact booked.frame rfl rfl booked.lists_refl (fun _ => Or.inl) keep

theorem Leads.booked {start : World σ} (begun : start.Begins)
    (leads : Leads moves start world) : world.Booked := by
  have fresh := begun.fresh
  have first : start.Booked := by
    refine ⟨?_, ?_, ?_, ?_, ?_⟩
    · intro list allocator opened
      rw [fresh.journal] at opened
      cases opened
    · simp [fresh.lists]
    · simp [fresh.lists]
    · intro allocator member name frozen
      rw [fresh.pooled_new member] at frozen
      cases frozen
    · simp [fresh.entries]
  exact leads.invariant begun first fun earlier booked effect =>
    booked.effect (Leads.conserved begun earlier) effect

/-- What a list was opened on is known for good. -/
theorem Effect.openedOn_of_some (effect : Effect moves world after) {list : ListId}
    {allocator : AllocatorId}
    (known : Journal.openedOn world.journal list = some allocator) :
    Journal.openedOn after.journal list = some allocator := by
  cases effect with
  | lent lends => exact Journal.openedOn_append_of_some _ known
  | recorded member accepted => exact Journal.openedOn_append_of_some _ known
  | accepted offers own taken => exact Journal.openedOn_append_of_some _ known
  | _ => exact known

/-- Lists were opened only on allocators that are still there. -/
def Present (world : World σ) : Prop :=
  ∀ list allocator, Journal.openedOn world.journal list = some allocator →
    allocator ∈ world.allocators.map Allocator.id

theorem Present.effect (present : world.Present) (registered : world.Registered)
    (booked : world.Booked) (effect : Effect moves world after) : after.Present := by
  have kept := effect.custody.map_id_subset registered
  cases effect with
  | @lent category pool lent lends =>
      intro list allocator opened
      by_cases next : world.nextList = list
      · have known : Journal.openedOn (world.journal ++ [.opened world.nextList lent.id]) list =
            some allocator := opened
        rw [← next, Journal.openedOn_opened_self _ booked.openedOn_nextList] at known
        have holder : lent ∈ (world.lend category pool lent).allocators :=
          List.mem_append_right _
            (List.mem_map.mpr ⟨_, List.mem_append_right _ (List.mem_singleton_self _), rfl⟩)
        rw [← Option.some.inj known]
        exact List.mem_map_of_mem holder
      · have known : Journal.openedOn (world.journal ++ [.opened world.nextList lent.id]) list =
            some allocator := opened
        rw [Journal.openedOn_opened_of_ne _ _ next] at known
        exact kept (present list allocator known)
  | recorded member accepted =>
      intro list allocator opened
      rw [Journal.openedOn_recorded] at opened
      exact kept (present list allocator opened)
  | accepted offers own taken =>
      intro list allocator opened
      change Journal.openedOn (world.journal ++ [_]) list = some allocator at opened
      rw [Journal.openedOn_accepted] at opened
      exact kept (present list allocator opened)
  | _ => exact fun list allocator opened => kept (present list allocator opened)

theorem Leads.present {start : World σ} (begun : start.Begins)
    (leads : Leads moves start world) : world.Present := by
  have first : start.Present := by
    intro list allocator opened
    rw [begun.fresh.journal] at opened
    cases opened
  exact leads.invariant begun first fun earlier present effect =>
    present.effect (Leads.registered begun earlier) (Leads.booked begun earlier) effect

end Queued

end World

end CommandQueue
