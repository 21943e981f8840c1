import CommandQueue.Proofs.Openings
import CommandQueue.Proofs.Timeline

/-!
# Fidelity of streams

What the queue has accepted is what the callers recorded.  `World.Traced` ties
the recordings of lists and of idle allocators to the journal, and with them the
contents of the accepted submissions; these are the ones that the queue was
handed and took (`World.Leads.serves`).  A stream stays as it is in its allocator
as long as the queue refers to it, since `World.Owned` never lets go of it.
-/

namespace CommandQueue

/-- The signal of a submission, and the commands of its streams with their lists. -/
def Submission.contents (submission : Submission) :
    FenceValue × List (ListId × List Command) :=
  (submission.signal, submission.streams.map fun stream => (stream.list, stream.commands))

namespace World

variable {σ : Type}

/-- The frozen recording that goes by the name of a list, where it is stored. -/
def storage (world : World σ) (list : ListId) : Option Stream :=
  (world.allocators.find? fun allocator => allocator.frozenBy == some list).bind
    Allocator.stream?

/-- Recordings are what the journal says, and the accepted submissions were made of them. -/
structure Traced (world : World σ) : Prop where
  recorded : ∀ list ∈ world.lists,
    list.recorded = Journal.commandsOf world.journal list.id
  unfrozen : ∀ list ∈ world.lists, list.state = .opened → list.allocator.frozenBy = none
  idle : ∀ allocator ∈ world.device.pooled, ∀ name, allocator.frozenBy = some name →
    allocator.recorded = Journal.commandsOf world.journal name ∧
      ∀ list ∈ world.lists, list.id ≠ name
  settled : ∀ acceptance ∈ Journal.acceptances world.journal, ∀ name ∈ acceptance.2,
    (∃ allocator, Journal.openedOn world.journal name = some allocator) ∧
      ∀ list ∈ world.lists, list.id = name → list.state = .submitted
  contents : world.entries.map Submission.contents = Journal.submissions world.journal

namespace Traced

/-- Lists may be closed, frozen and dropped, as long as recordings stay as they are. -/
theorem frame {world after : World σ} (traced : world.Traced)
    (journal : after.journal = world.journal) (entries : after.entries = world.entries)
    (lists : ∀ list ∈ after.lists, ∃ earlier ∈ world.lists,
      earlier.id = list.id ∧ earlier.recorded = list.recorded ∧
        (earlier.state = .submitted → list.state = .submitted) ∧
          (list.state = .opened → list.allocator.frozenBy = none))
    (pooled : ∀ allocator ∈ after.device.pooled, allocator ∈ world.device.pooled ∨
      ∀ name, allocator.frozenBy = some name →
        allocator.recorded = Journal.commandsOf world.journal name ∧
          ∀ list ∈ after.lists, list.id ≠ name) :
    after.Traced := by
  refine ⟨?_, ?_, ?_, ?_, ?_⟩
  · intro list member
    obtain ⟨earlier, earlierMember, sameId, sameCommands, _⟩ := lists list member
    rw [journal, ← sameId, ← sameCommands]
    exact traced.recorded earlier earlierMember
  · intro list member
    obtain ⟨_, _, _, _, _, unfrozen⟩ := lists list member
    exact unfrozen
  · intro allocator member name frozen
    rw [journal]
    rcases pooled allocator member with same | new
    · obtain ⟨commands, gone⟩ := traced.idle allocator same name frozen
      refine ⟨commands, ?_⟩
      intro list present
      obtain ⟨earlier, earlierMember, sameId, _⟩ := lists list present
      rw [← sameId]
      exact gone earlier earlierMember
    · exact new name frozen
  · rw [journal]
    intro acceptance accepted name chosen
    obtain ⟨known, submitted⟩ := traced.settled acceptance accepted name chosen
    refine ⟨known, ?_⟩
    intro list present sameName
    obtain ⟨earlier, earlierMember, sameId, _, kept, _⟩ := lists list present
    exact kept (submitted earlier earlierMember (sameId.trans sameName))
  · rw [entries, journal]
    exact traced.contents

theorem lists_refl {world : World σ} (traced : world.Traced) :
    ∀ list ∈ world.lists, ∃ earlier ∈ world.lists,
      earlier.id = list.id ∧ earlier.recorded = list.recorded ∧
        (earlier.state = .submitted → list.state = .submitted) ∧
          (list.state = .opened → list.allocator.frozenBy = none) :=
  fun list member => ⟨list, member, rfl, rfl, id, traced.unfrozen list member⟩

/-- Every stream that the queue has accepted consists of the commands of its list. -/
theorem commands_of_stream {world : World σ} (traced : world.Traced) {entry : Submission}
    (accepted : entry ∈ world.entries) {stream : Stream} (member : stream ∈ entry.streams) :
    stream.commands = Journal.commandsOf world.journal stream.list := by
  have listed : entry.contents ∈ Journal.submissions world.journal := by
    rw [← traced.contents]
    exact List.mem_map_of_mem accepted
  obtain ⟨acceptance, _, shape⟩ := List.mem_map.mp listed
  have streams := congrArg Prod.snd shape
  have present : (stream.list, stream.commands) ∈ entry.contents.2 :=
    List.mem_map_of_mem (f := fun each : Stream => (each.list, each.commands)) member
  rw [← streams] at present
  obtain ⟨name, _, same⟩ := List.mem_map.mp present
  obtain ⟨sameName, sameCommands⟩ := Prod.mk.inj same
  rw [← sameCommands, sameName]

end Traced

/-- The name of a frozen recording tells where and what was recorded. -/
theorem recorded_of_frozenBy {world : World σ} (booked : world.Booked) (traced : world.Traced)
    {allocator : Allocator} (member : allocator ∈ world.allocators) {name : ListId}
    (frozen : allocator.frozenBy = some name) :
    Journal.openedOn world.journal name = some allocator.id ∧
      allocator.recorded = Journal.commandsOf world.journal name := by
  rcases List.mem_append.mp member with pooled | lent
  · exact ⟨booked.frozen allocator pooled name frozen, (traced.idle allocator pooled name frozen).1⟩
  · obtain ⟨list, present, rfl⟩ := List.mem_map.mp lent
    rw [booked.own list present name frozen]
    exact ⟨booked.lists list present, traced.recorded list present⟩

/-- An accepted call adds its command to the recording of its list and to no other one. -/
theorem Traced.record {world : World σ} (traced : world.Traced) {list : CommandList} {call : Call}
    (member : list ∈ world.lists)
    (accepted : list.record call = .ok (list.append call.command)) :
    Traced { world with
      lists := amend world.lists [list.id] fun each => each.append call.command
      journal := world.journal ++ [.recorded list.id call.command] } := by
  refine ⟨?_, ?_, ?_, ?_, ?_⟩
  · intro each present
    rcases mem_amend_iff.mp present with ⟨earlier, earlierMember, chosen, shape⟩ | ⟨same, other⟩
    · have sameId : list.id = earlier.id := (List.mem_singleton.mp chosen).symm
      rw [shape, CommandList.recorded_append, traced.recorded earlier earlierMember, sameId]
      exact (Journal.commandsOf_recorded_self _ _ _).symm
    · have different : list.id ≠ each.id :=
        fun sameId => other (List.mem_singleton.mpr sameId.symm)
      rw [traced.recorded each same]
      exact (Journal.commandsOf_recorded_of_ne _ _ different).symm
  · exact forall_amend traced.unfrozen fun each present _ => traced.unfrozen each present
  · intro allocator pooled name frozen
    obtain ⟨commands, gone⟩ := traced.idle allocator pooled name frozen
    refine ⟨?_, forall_amend gone fun each present _ => gone each present⟩
    rw [commands]
    exact (Journal.commandsOf_recorded_of_ne _ _ (gone list member)).symm
  · change ∀ acceptance ∈ Journal.acceptances (world.journal ++ [_]), _
    rw [Journal.acceptances_recorded]
    intro acceptance settled name chosen
    obtain ⟨⟨known, opened⟩, submitted⟩ := traced.settled acceptance settled name chosen
    exact ⟨⟨known, Journal.openedOn_append_of_some _ opened⟩,
      forall_amend submitted fun each present _ => submitted each present⟩
  · change world.entries.map Submission.contents =
      Journal.submissions (world.journal ++ [.recorded list.id call.command])
    rw [traced.contents]
    refine (Journal.submissions_of_unchanged (Journal.acceptances_recorded _ _ _) ?_).symm
    intro acceptance settled name chosen
    -- A list that was accepted is no longer open, so this call was made on another one.
    refine Journal.commandsOf_recorded_of_ne _ _ ?_
    intro sameName
    have submitted := (traced.settled acceptance settled name chosen).2 list member sameName
    rw [CommandList.opened_of_record accepted] at submitted
    cases submitted

/-- A submission contains what its lists have recorded. -/
theorem Traced.contents_submission {world : World σ} (traced : world.Traced)
    (booked : world.Booked) {slice : List CommandList}
    (members : ∀ list ∈ slice, list ∈ world.lists) :
    (world.device.submission (slice.map CommandList.freeze)).contents =
      (world.device.fence.signalNext.2, (slice.map CommandList.id).map fun name =>
        (name, Journal.commandsOf world.journal name)) := by
  have streams :
      (slice.map CommandList.freeze).map (fun list => (list.stream.list, list.recorded)) =
        (slice.map CommandList.id).map fun name =>
          (name, Journal.commandsOf world.journal name) := by
    rw [List.map_map, List.map_map]
    apply List.map_congr_left
    intro list chosen
    have member := members list chosen
    change (list.freeze.stream.list, list.freeze.recorded) = _
    rw [booked.stream_freeze member, CommandList.recorded_freeze, traced.recorded list member]
    rfl
  rw [← streams]
  change (_, ((slice.map CommandList.freeze).map CommandList.stream).map _) = _
  rw [List.map_map]
  rfl

section Queued

variable [Queue σ] {moves : Clocked σ → Clocked σ → Prop} {world after : World σ}

/-- A list that was just opened has nothing recorded, whatever its allocator was used for. -/
theorem Traced.lend (traced : world.Traced) (booked : world.Booked) {category : Category}
    {pool : Pool} {allocator : Allocator}
    (lends : (world.device.pool category).Lends world.device.fence.completed
      world.device.held pool (.ok allocator)) :
    (world.lend category pool allocator).Traced := by
  have unaffected : ∀ {name known}, Journal.openedOn world.journal name = some known →
      Journal.commandsOf (world.lend category pool allocator).journal name =
        Journal.commandsOf world.journal name :=
    fun known => Journal.commandsOf_opened_of_ne _ _ (booked.ne_nextList known)
  refine ⟨?_, ?_, ?_, ?_, ?_⟩
  · intro list member
    rcases List.mem_append.mp member with earlier | new
    · rw [unaffected (booked.lists list earlier)]
      exact traced.recorded list earlier
    · rw [List.mem_singleton.mp new]
      change allocator.recorded =
        Journal.commandsOf (world.journal ++ [.opened world.nextList allocator.id]) world.nextList
      rw [Journal.commandsOf_opened_self, ← lends.cleared]
      rfl
  · intro list member
    rcases List.mem_append.mp member with earlier | new
    · exact traced.unfrozen list earlier
    · rw [List.mem_singleton.mp new]
      intro _
      change allocator.frozenBy = none
      rw [← lends.cleared]
      rfl
  · intro idle member name frozen
    have pooled := mem_pooled_lend lends member
    have known := booked.frozen idle pooled name frozen
    obtain ⟨commands, gone⟩ := traced.idle idle pooled name frozen
    refine ⟨commands.trans (unaffected known).symm, ?_⟩
    intro list present
    rcases List.mem_append.mp present with earlier | new
    · exact gone list earlier
    · rw [List.mem_singleton.mp new]
      exact booked.ne_nextList known
  · change ∀ acceptance ∈ Journal.acceptances (world.journal ++ [_]), _
    rw [Journal.acceptances_opened]
    intro acceptance accepted name chosen
    obtain ⟨⟨known, opened⟩, submitted⟩ := traced.settled acceptance accepted name chosen
    refine ⟨⟨known, Journal.openedOn_append_of_some _ opened⟩, ?_⟩
    intro list present sameName
    rcases List.mem_append.mp present with earlier | new
    · exact submitted list earlier sameName
    · rw [List.mem_singleton.mp new] at sameName
      exact absurd sameName (booked.ne_nextList opened)
  · change world.entries.map Submission.contents =
      Journal.submissions (world.journal ++ [.opened world.nextList allocator.id])
    rw [traced.contents]
    refine (Journal.submissions_of_unchanged (Journal.acceptances_opened _ _ _) ?_).symm
    intro acceptance accepted name chosen
    obtain ⟨⟨known, opened⟩, _⟩ := traced.settled acceptance accepted name chosen
    exact unaffected opened

/-- Accepted lists are submitted as they were recorded. -/
theorem Traced.accept (traced : world.Traced) (booked : world.Booked)
    {slice : List CommandList}
    (own : ∀ list ∈ slice, list ∈ world.lists ∧ list.state ≠ .submitted) :
    (world.accept slice).Traced := by
  have contents := traced.contents_submission booked fun list chosen => (own list chosen).1
  refine ⟨?_, ?_, ?_, ?_, ?_⟩
  · change ∀ list ∈ amend world.lists _ _, _ = Journal.commandsOf (world.journal ++ [_]) _
    simp only [Journal.commandsOf_accepted]
    exact forall_amend traced.recorded fun list member _ => traced.recorded list member
  · refine forall_amend traced.unfrozen ?_
    intro list _ _ opened
    cases opened
  · intro allocator pooled name frozen
    obtain ⟨commands, gone⟩ := traced.idle allocator pooled name frozen
    change _ = Journal.commandsOf (world.journal ++ [_]) name ∧ _
    rw [Journal.commandsOf_accepted]
    exact ⟨commands, forall_amend gone fun list member _ => gone list member⟩
  · change ∀ acceptance ∈ Journal.acceptances (world.journal ++ [_]), _
    rw [Journal.acceptances_accepted]
    intro acceptance accepted name chosen
    rcases List.mem_append.mp accepted with earlier | new
    · obtain ⟨⟨known, opened⟩, submitted⟩ := traced.settled acceptance earlier name chosen
      exact ⟨⟨known, Journal.openedOn_append_of_some _ opened⟩,
        forall_amend submitted fun _ _ _ _ => rfl⟩
    · rw [List.mem_singleton.mp new] at chosen
      obtain ⟨list, listChosen, rfl⟩ := List.mem_map.mp chosen
      have opened := booked.lists list (own list listChosen).1
      refine ⟨⟨_, Journal.openedOn_append_of_some _ opened⟩, ?_⟩
      intro each member sameName
      rcases mem_amend_iff.mp member with ⟨earlier, _, _, shape⟩ | ⟨_, spared⟩
      · rw [shape]
        rfl
      · rw [sameName] at spared
        exact absurd chosen spared
  · change (world.entries ++ [_]).map Submission.contents =
      Journal.submissions (world.journal ++ [_])
    rw [Journal.submissions_accepted, List.map_append, traced.contents, ← contents]
    rfl

theorem Traced.effect (traced : world.Traced) (registered : world.Registered)
    (booked : world.Booked) (effect : Effect moves world after) : after.Traced := by
  cases effect with
  | idle => exact traced
  | @rearranged category pool rearranged =>
      refine traced.frame rfl rfl traced.lists_refl ?_
      intro allocator member
      exact Or.inl ((world.device.pooled_perm_of_rearranged rearranged).subset member)
  | lent lends => exact traced.lend booked lends
  | recorded member accepted => exact traced.record member accepted
  | closed member opened =>
      refine traced.frame rfl rfl (forall_amend traced.lists_refl ?_) fun _ => Or.inl
      intro list present chosen
      have same := registered.eq_of_id present member (List.mem_singleton.mp chosen)
      refine ⟨list, present, rfl, rfl, ?_, nofun⟩
      intro submitted
      rw [same, opened] at submitted
      cases submitted
  | @rejected slice error offers own refused =>
      refine traced.frame rfl rfl (forall_amend traced.lists_refl ?_) fun _ => Or.inl
      intro list present chosen
      have offered := registered.mem_of_id (fun each member => (own each member).1) present chosen
      have unsubmitted := (own list offered).2
      exact ⟨list, present, rfl, rfl, fun submitted => absurd submitted unsubmitted, nofun⟩
  | accepted offers own taken => exact traced.accept booked own
  | @dropped list member =>
      refine traced.frame rfl rfl ?_ ?_
      · intro other left
        exact traced.lists_refl other (registered.of_mem_drop member left).1
      · intro allocator pooled
        rcases mem_pooled_drop_iff.mp pooled with back | earlier
        · refine Or.inr ?_
          intro name frozen
          rw [back] at frozen ⊢
          obtain ⟨recording, shape⟩ := Allocator.givenBack_of_frozenBy frozen
          rw [booked.own list member name recording, shape]
          exact ⟨traced.recorded list member, fun other left =>
            (registered.of_mem_drop member left).2⟩
        · exact Or.inl earlier
  | prepared library capacity =>
      exact traced.frame rfl rfl traced.lists_refl fun _ => Or.inl
  | moved moved => exact traced.frame rfl rfl traced.lists_refl fun _ => Or.inl

theorem Leads.traced {start : World σ} (begun : start.Begins)
    (leads : Leads moves start world) : world.Traced := by
  have fresh := begun.fresh
  have first : start.Traced := by
    refine ⟨?_, ?_, ?_, ?_, ?_⟩
    · simp [fresh.lists]
    · simp [fresh.lists]
    · intro allocator member name frozen
      rw [fresh.pooled_new member] at frozen
      cases frozen
    · simp [fresh.journal, Journal.acceptances]
    · simp [fresh.journal, fresh.entries, Journal.submissions, Journal.acceptances]
  exact leads.invariant begun first fun earlier traced effect =>
    traced.effect (Leads.registered begun earlier) (Leads.booked begun earlier) effect

/-! ## Streams that the queue refers to -/

/-- Every stream that the queue refers to is in the storage of an allocator. -/
def Owned (world : World σ) : Prop :=
  ∀ name, world.device.held name = true →
    ∃ allocator ∈ world.allocators, allocator.frozenBy = some name

theorem Owned.amended {named : List ListId} {change : CommandList → CommandList}
    (owned : world.Owned) (pooled : after.device.pooled = world.device.pooled)
    (lists : after.lists = amend world.lists named change)
    (kept : ∀ list name, list.allocator.frozenBy = some name →
      (change list).allocator.frozenBy = some name)
    (held : ∀ name, after.device.held name = true → world.device.held name = true ∨
      ∃ allocator ∈ after.allocators, allocator.frozenBy = some name) :
    after.Owned := by
  intro name holds
  rcases held name holds with before | new
  · obtain ⟨allocator, member, frozen⟩ := owned name before
    rcases List.mem_append.mp member with idle | lent
    · exact ⟨allocator, List.mem_append_left _ (pooled ▸ idle), frozen⟩
    · obtain ⟨list, present, rfl⟩ := List.mem_map.mp lent
      by_cases chosen : list.id ∈ named
      · have changed : change list ∈ after.lists := by
          rw [lists]
          exact mem_amend_iff.mpr (Or.inl ⟨list, present, chosen, rfl⟩)
        exact ⟨_, List.mem_append_right _ (List.mem_map_of_mem changed), kept list name frozen⟩
      · have same : list ∈ after.lists := by
          rw [lists]
          exact mem_amend_iff.mpr (Or.inr ⟨present, chosen⟩)
        exact ⟨_, List.mem_append_right _ (List.mem_map_of_mem same), frozen⟩
  · exact new

/-- An allocator whose recording the queue still refers to is not lent. -/
theorem Owned.lend (owned : world.Owned) {category : Category} {pool : Pool}
    {allocator : Allocator}
    (lends : (world.device.pool category).Lends world.device.fence.completed
      world.device.held pool (.ok allocator)) :
    (world.lend category pool allocator).Owned := by
  obtain ⟨_, _, _, _, _, _, _, queue⟩ := world.device.withPool_frame category pool
  intro name holds
  have before : world.device.held name = true := by
    rw [Device.held, ← queue]
    exact holds
  obtain ⟨other, member, frozen⟩ := owned name before
  rcases List.mem_append.mp member with idle | lent
  · -- The queue does not refer to the recording of the lent allocator, so this is another one.
    have left : other ∈ (world.device.withPool category pool).pooled := by
      cases origin_of_lends lends with
      | @idle taken _ _ free pooled =>
          rcases List.mem_cons.mp (pooled.subset idle) with same | left
          · rw [← same, Allocator.inFlight, frozen, Option.any_some, before] at free
            cases free
          · exact left
      | new _ pooled => exact pooled.subset idle
    exact ⟨other, List.mem_append_left _ left, frozen⟩
  · refine ⟨other, List.mem_append_right _ ?_, frozen⟩
    exact List.map_subset _ (List.subset_append_left _ _) lent

/-- A list that is dropped leaves its recording with its allocator as long as the queue refers to
it. -/
theorem Owned.drop (owned : world.Owned) (registered : world.Registered) {list : CommandList}
    (member : list ∈ world.lists) : (world.drop list).Owned := by
  obtain ⟨_, _, _, _, _, _, queue⟩ := world.drop_frame list
  intro name holds
  have before : world.device.held name = true := by
    rw [Device.held, ← queue]
    exact holds
  obtain ⟨allocator, present, frozen⟩ := owned name before
  rcases List.mem_append.mp present with idle | lent
  · exact ⟨allocator, List.mem_append_left _ (mem_pooled_drop_iff.mpr (Or.inr idle)), frozen⟩
  · obtain ⟨holder, holderPresent, rfl⟩ := List.mem_map.mp lent
    rcases List.mem_cons.mp ((registered.lists_drop_perm member).subset holderPresent) with
      same | left
    · subst same
      have back := Allocator.givenBack_of_held holder.retirementStamp frozen before
      refine ⟨_, List.mem_append_left _ (mem_pooled_drop_iff.mpr (Or.inl rfl)), ?_⟩
      rw [back]
      exact frozen
    · exact ⟨_, List.mem_append_right _ (List.mem_map_of_mem left), frozen⟩

/-- What the queue refers to once it was handed lists: what it referred to before, and the lists
that are frozen now. -/
theorem held_offered (lawful : Queue.Lawful moves) {slice : List CommandList} {name : ListId}
    (holds : Queue.holds (world.device.offered slice).state.queue name = true) :
    world.device.held name = true ∨
      ∃ list ∈ slice, list.freeze.allocator.frozenBy = some name := by
  rcases lawful.submit_holds holds with before | mentioned
  · exact Or.inl before
  · obtain ⟨stream, member, same⟩ := List.any_eq_true.mp mentioned
    obtain ⟨frozen, frozenMember, shape⟩ := List.mem_map.mp member
    obtain ⟨list, chosen, rfl⟩ := List.mem_map.mp frozenMember
    refine Or.inr ⟨list, chosen, ?_⟩
    rw [← eq_of_beq same, ← shape]
    rfl

theorem Owned.effect (owned : world.Owned) (lawful : Queue.Lawful moves)
    (registered : world.Registered) (effect : Effect moves world after) : after.Owned := by
  have frozen : ∀ (list : CommandList) name, list.allocator.frozenBy = some name →
      list.freeze.allocator.frozenBy = some name := by
    intro list name recording
    change some (list.allocator.frozenBy.getD list.id) = some name
    rw [recording]
    rfl
  cases effect with
  | idle => exact owned
  | @rearranged category pool rearranged =>
      obtain ⟨_, _, _, _, _, _, _, queue⟩ := world.device.withPool_frame category pool
      intro name holds
      change Queue.holds (world.device.withPool category pool).queue name = true at holds
      rw [queue] at holds
      obtain ⟨allocator, member, recording⟩ := owned name holds
      have pooled := (world.device.pooled_perm_of_rearranged rearranged).symm
      exact ⟨allocator, (pooled.append_right _).subset member, recording⟩
  | lent lends => exact owned.lend lends
  | recorded member accepted =>
      exact owned.amended rfl rfl (fun _ _ recording => recording) fun _ => Or.inl
  | closed member opened =>
      exact owned.amended rfl rfl (fun _ _ recording => recording) fun _ => Or.inl
  | @rejected slice error offers own refused =>
      refine owned.amended rfl rfl frozen ?_
      intro name holds
      rcases held_offered lawful holds with before | ⟨list, chosen, recording⟩
      · exact Or.inl before
      · have changed : list.freeze ∈ (world.reject slice).lists :=
          mem_amend_iff.mpr
            (Or.inl ⟨list, (own list chosen).1, List.mem_map_of_mem chosen, rfl⟩)
        exact Or.inr ⟨_, List.mem_append_right _ (List.mem_map_of_mem changed), recording⟩
  | @accepted slice offers own taken =>
      refine owned.amended rfl rfl frozen ?_
      intro name holds
      rcases held_offered lawful holds with before | ⟨list, chosen, recording⟩
      · exact Or.inl before
      · have changed : list.freeze.markSubmitted world.device.fence.signalNext.2 ∈
            (world.accept slice).lists :=
          mem_amend_iff.mpr
            (Or.inl ⟨list, (own list chosen).1, List.mem_map_of_mem chosen, rfl⟩)
        exact Or.inr ⟨_, List.mem_append_right _ (List.mem_map_of_mem changed), recording⟩
  | dropped member => exact owned.drop registered member
  | prepared library capacity => exact owned
  | moved moved =>
      intro name holds
      exact owned name (lawful.moves_hold moved holds)

theorem Leads.owned {start : World σ} (lawful : Queue.Lawful moves) (begun : start.Begins)
    (leads : Leads moves start world) : world.Owned := by
  have first : start.Owned := by
    intro name holds
    rw [Device.held, begun.fresh.unheld name] at holds
    cases holds
  exact leads.invariant begun first fun earlier owned effect =>
    owned.effect lawful (Leads.registered begun earlier) effect

/-- A stream that the queue has accepted and still refers to is stored as it was accepted. -/
theorem storage_of_held (booked : world.Booked) (traced : world.Traced) (owned : world.Owned)
    {entry : Submission} (accepted : entry ∈ world.entries) {stream : Stream}
    (member : stream ∈ entry.streams) (holds : world.device.held stream.list = true) :
    world.storage stream.list = some stream := by
  obtain ⟨allocator, present, frozen⟩ := owned stream.list holds
  cases found : world.allocators.find? fun each => each.frozenBy == some stream.list with
  | none =>
      have missed := List.find?_eq_none.mp found allocator present
      exact absurd (beq_iff_eq.mpr frozen) missed
  | some keeper =>
      have matching : (keeper.frozenBy == some stream.list) = true :=
        List.find?_some (p := fun each : Allocator => each.frozenBy == some stream.list) found
      have name : keeper.frozenBy = some stream.list := beq_iff_eq.mp matching
      obtain ⟨opened, recorded⟩ :=
        recorded_of_frozenBy booked traced (List.mem_of_find?_eq_some found) name
      obtain ⟨known, sameOpened, category⟩ := booked.streams entry accepted stream member
      rw [opened] at sameOpened
      have keeperCategory : keeper.category = stream.category := by
        rw [← category, ← Option.some.inj sameOpened]
        rfl
      have commands := traced.commands_of_stream accepted member
      rw [storage, found, Option.bind_some, Allocator.stream?, name, Option.map_some,
        keeperCategory, recorded, ← commands]

/-- Submissions that were accepted stay in the record. -/
theorem Effect.entries_lasting (effect : Effect moves world after) :
    world.entries <+: after.entries := by
  cases effect with
  | accepted offers own taken => exact List.prefix_append _ _
  | _ => exact List.prefix_refl _

theorem Leads.entries_lasting {start later : World σ} (begun : start.Begins)
    (leads : Leads moves start world) (onward : Leads moves world later) :
    world.entries <+: later.entries := by
  induction onward with
  | refl => exact List.prefix_refl _
  | tail earlier step inductionHypothesis =>
      have registered := Leads.registered begun (leads.trans earlier)
      exact inductionHypothesis.trans (step.effect registered).entries_lasting

/-- What becomes of lists that are handed over: the device objects to them, or its queue is given
one submission, which is put on record exactly if the queue takes it. -/
inductive HandedOver (world : World σ) (slice : List CommandList) : Prop
  | objected {error : Error} (objection : world.device.ensureAllOwn slice = .error error)
      (clocked : (world.execute slice).clocked = world.clocked)
      (entries : (world.execute slice).entries = world.entries)
  | rejected (submission : Submission) {error : Error}
      (refused : (Queue.submit world.device.queue world.device.fence.signalNext.1
        world.device.heap submission).result = .error error)
      (clocked : (world.execute slice).clocked =
        let left := (Queue.submit world.device.queue world.device.fence.signalNext.1
          world.device.heap submission).state
        ⟨left.queue, left.fence.cancel submission.signal⟩)
      (entries : (world.execute slice).entries = world.entries)
  | taken (submission : Submission)
      (accepted : (Queue.submit world.device.queue world.device.fence.signalNext.1
        world.device.heap submission).result = .ok ())
      (clocked : (world.execute slice).clocked =
        (Queue.submit world.device.queue world.device.fence.signalNext.1 world.device.heap
          submission).state)
      (entries : (world.execute slice).entries = world.entries ++ [submission])

theorem handedOver_execute (world : World σ) (slice : List CommandList) :
    world.HandedOver slice := by
  cases own : world.device.ensureAllOwn slice with
  | error error =>
      have same := Device.execute_of_refused own
      refine HandedOver.objected own ?_ ?_
      · rw [execute, same]
        rfl
      · rw [execute, same]
        rfl
  | ok checked =>
      cases answer : (world.device.offered slice).result with
      | error error =>
          obtain ⟨device, _, result⟩ := Device.execute_of_rejected own answer
          refine HandedOver.rejected (world.device.submission (slice.map CommandList.freeze)) answer
            ?_ ?_
          · simp only [clocked, execute, handOver, result, device]
            rfl
          · simp only [execute, handOver, result]
      | ok value =>
          obtain ⟨device, _, result⟩ := Device.execute_of_taken own answer
          refine HandedOver.taken (world.device.submission (slice.map CommandList.freeze)) answer
            ?_ ?_
          · simp only [clocked, execute, handOver, result, device]
            rfl
          · simp only [execute, handOver, result]

/-- The allocator that is lent to a list was not in use by the queue. -/
theorem inFlight_of_lends (conserved : world.Conserved) {category : Category} {pool : Pool}
    {allocator idle : Allocator}
    (lends : (world.device.pool category).Lends world.device.fence.completed
      world.device.held pool (.ok allocator))
    (pooled : idle ∈ world.device.pooled) (sameId : idle.id = allocator.id) :
    idle.inFlight world.device.held = false := by
  have present : idle ∈ world.allocators := List.mem_append_left _ pooled
  cases origin_of_lends lends with
  | @idle taken member _ free _ =>
      have takenPooled := Device.mem_pooled_iff.mpr ⟨category, member⟩
      have same := conserved.eq_of_id present (List.mem_append_left _ takenPooled) sameId
      rw [same]
      exact free
  | new _ _ =>
      have used : idle.id ∈ world.allocators.map Allocator.id := List.mem_map_of_mem present
      rw [sameId] at used
      exact absurd used (conserved.unused_of_nextSerial category)

/-- The queue executes what was recorded, and storage is not used again under its feet. -/
structure Faithful (moves : Clocked σ → Clocked σ → Prop) (world start : World σ) : Prop where
  served : Queue.Serves moves start.clocked world.entries world.clocked
  handed : ∀ slice, world.HandedOver slice
  contents : world.entries.map Submission.contents = Journal.submissions world.journal
  lasting : ∀ later, Leads moves world later → world.entries <+: later.entries
  stored : ∀ entry ∈ world.entries, ∀ stream ∈ entry.streams,
    world.device.held stream.list = true → world.storage stream.list = some stream
  unfrozen : ∀ list ∈ world.lists, list.state = .opened → list.allocator.frozenBy = none
  lent : ∀ category allocator,
    ((world.device.pool category).acquire world.device.fence.completed
      world.device.held).result = .ok allocator →
    ∀ idle ∈ world.device.pooled, idle.id = allocator.id →
      idle.inFlight world.device.held = false
  emptied : ∀ category list, (world.device.openList category).result = .ok list →
    list.recorded = []

/-- Whatever the queue completes and keeps, its streams are what was recorded. -/
theorem faithful_of_leads {start : World σ} (lawful : Queue.Lawful moves)
    (begun : start.Begins) (leads : Leads moves start world) : world.Faithful moves start := by
  have conserved := Leads.conserved begun leads
  have booked := Leads.booked begun leads
  have traced := Leads.traced begun leads
  have owned := Leads.owned lawful begun leads
  refine ⟨Leads.serves begun leads, world.handedOver_execute, traced.contents, ?_, ?_,
    traced.unfrozen, ?_, ?_⟩
  · intro later onward
    exact Leads.entries_lasting begun leads onward
  · intro entry accepted stream member holds
    exact storage_of_held booked traced owned accepted member holds
  · intro category allocator acquired idle pooled sameId
    have lends := world.device.lends_requested category
    change (world.device.requested category).result = .ok allocator at acquired
    rw [acquired] at lends
    exact inFlight_of_lends conserved lends pooled sameId
  · intro category list opened
    have lends := Device.lends_of_opened opened
    rw [CommandList.recorded, ← lends.cleared]
    rfl

end Queued

/-- A list was dropped before the queue let go of its stream, although its signal is completed. -/
theorem faithful_of_leads_early :
    Queue.Lawful Queue.AnyMove (σ := ManualQueue) ∧
      (small (ManualQueue.new ManualQueue.defaultLabel)).Begins ∧
      Leads Queue.AnyMove (small (ManualQueue.new ManualQueue.defaultLabel)) early ∧
      early.device.held takenCopy.id = true ∧
      early.Faithful Queue.AnyMove (small (ManualQueue.new ManualQueue.defaultLabel)) :=
  ⟨ManualQueue.forgetful.toLawful, begins_manual, leads_early, rfl,
    faithful_of_leads ManualQueue.forgetful.toLawful begins_manual leads_early⟩

end World

end CommandQueue
