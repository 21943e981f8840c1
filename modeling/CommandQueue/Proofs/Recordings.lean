import CommandQueue.Proofs.Fidelity

/-!
# Lists along runs

Every list of a run was opened empty by its device and became what it is by
accepted calls, by closing, and by being handed over.  What holds of a list when
it is opened and survives all this is `CommandList.Lasting`, and it holds of
every list of every run.  One such property is that of being admitted: the
commands of the list passed the checks of their recording calls.

Recordings come from somewhere.  Each command of a list was added by an accepted
call at some moment of the run, and each stream that the queue has accepted was
the recording of a list at some moment.
-/

namespace CommandQueue

namespace CommandList

/-- A property that holds of lists when they are opened on a device with a heap of the given
capacity, and survives everything that is done to them. -/
structure Lasting (device capacity : Nat) (property : CommandList → Prop) : Prop where
  opened (id : ListId) (category : Category) {allocator : Allocator} :
    allocator.cleared = allocator →
      property (CommandList.opened id device category allocator
        (if category.usesDescriptors then some capacity else none))
  appended {list : CommandList} {call : Call} :
    list.record call = .ok (list.append call.command) → property list →
      property (list.append call.command)
  closed {list : CommandList} :
    list.state = .opened → property list → property { list with state := .closed }
  frozen {list : CommandList} :
    list.state ≠ .submitted → property list → property list.freeze
  submitted {list : CommandList} (value : FenceValue) :
    list.state ≠ .submitted → property list → property (list.freeze.markSubmitted value)

theorem category_of_record {list next : CommandList} {call : Call}
    (accepted : list.record call = .ok next) (needs : call.needsCompute = true) :
    list.category = .compute := by
  have supported := (record_eq_ok_iff.mp accepted).2.1
  by_contra other
  rw [ensureSupported, if_pos ⟨needs, other⟩] at supported
  cases supported

theorem end_of_ensureInside {capacity : Nat} {range : DescriptorRange}
    (inside : ensureInside capacity range = .ok ()) :
    range.end? = some (range.start + range.count) ∧ range.start + range.count ≤ capacity := by
  unfold ensureInside at inside
  by_cases word : range.start + range.count < wordBound
  · have last : range.end? = some (range.start + range.count) := if_pos word
    refine ⟨last, ?_⟩
    by_contra beyond
    simp [last, beyond] at inside
  · have none : range.end? = none := if_neg word
    simp [none] at inside

end CommandList

/-- The arguments of a command passed the checks against a heap of the given capacity. -/
def Command.Fits (capacity : Nat) : Command → Prop
  | .setPipeline _ => True
  | .setTable slot range =>
      slot < tableSlots ∧ range.end? = some (range.start + range.count) ∧
        range.start + range.count ≤ capacity
  | .copyRegion region => region.InBounds
  | .dispatch _ => True

namespace CommandList

/-- The commands of a list are such as its recording calls admit. -/
structure Admitted (capacity : Nat) (list : CommandList) : Prop where
  heap : list.heapCapacity = if list.category.usesDescriptors then some capacity else none
  fits : ∀ command ∈ list.recorded, command.Fits capacity
  copies : list.category = .copy → ∀ command ∈ list.recorded, command.kind = .copyRegion

theorem Admitted.fits_of_record {capacity : Nat} {list next : CommandList} {call : Call}
    (admitted : list.Admitted capacity) (accepted : list.record call = .ok next) :
    call.command.Fits capacity := by
  have passed := (record_eq_ok_iff.mp accepted).2.2.1
  cases call with
  | bindPipeline bundle => trivial
  | bindTable slot range =>
      have heap : list.heapCapacity = some capacity := by
        rw [admitted.heap, category_of_record accepted rfl]
        rfl
      simp only [ensureArguments, heap] at passed
      by_cases beyond : tableSlots ≤ slot
      · rw [if_pos beyond] at passed
        cases passed
      · rw [if_neg beyond] at passed
        exact ⟨Nat.lt_of_not_le beyond, end_of_ensureInside passed⟩
  | copyRegion region =>
      simp only [ensureArguments] at passed
      by_cases inBounds : region.InBounds
      · exact inBounds
      · rw [if_neg inBounds] at passed
        cases passed
  | dispatch grid => trivial

theorem Admitted.append {capacity : Nat} {list next : CommandList} {call : Call}
    (admitted : list.Admitted capacity) (accepted : list.record call = .ok next) :
    (list.append call.command).Admitted capacity := by
  refine ⟨admitted.heap, ?_, ?_⟩
  · intro command member
    rcases List.mem_append.mp member with earlier | new
    · exact admitted.fits command earlier
    · rw [List.mem_singleton.mp new]
      exact admitted.fits_of_record accepted
  · intro copying command member
    rcases List.mem_append.mp member with earlier | new
    · exact admitted.copies copying command earlier
    · rw [List.mem_singleton.mp new]
      cases call with
      | copyRegion region => rfl
      | _ =>
          have compute := category_of_record accepted rfl
          rw [show list.category = .copy from copying] at compute
          cases compute

/-- Whatever calls are made on a list, its commands are admitted. -/
theorem lasting_admitted (device capacity : Nat) :
    Lasting device capacity (Admitted capacity) where
  opened id category allocator cleared := by
    have empty : (CommandList.opened id device category allocator
        (if category.usesDescriptors then some capacity else none)).recorded = [] := by
      rw [recorded, ← cleared]
      rfl
    refine ⟨rfl, ?_, ?_⟩
    · simp [empty]
    · simp [empty]
  appended accepted admitted := admitted.append accepted
  closed _ admitted := ⟨admitted.heap, admitted.fits, admitted.copies⟩
  frozen _ admitted := ⟨admitted.heap, admitted.fits, admitted.copies⟩
  submitted _ _ admitted := ⟨admitted.heap, admitted.fits, admitted.copies⟩

theorem lasting_unsubmitted (device capacity : Nat) :
    Lasting device capacity fun list => list.state ≠ .submitted → list.submitted = none where
  opened _ _ _ _ _ := rfl
  appended _ unsubmitted := unsubmitted
  closed {list} opened unsubmitted _ := by
    refine unsubmitted ?_
    rw [opened]
    exact nofun
  frozen state unsubmitted _ := unsubmitted state
  submitted _ _ _ state := absurd rfl state

end CommandList

namespace World

variable {σ : Type}

section Queued

variable [Queue σ] {moves : Clocked σ → Clocked σ → Prop} {world after start : World σ}

theorem heap_drop (world : World σ) (list : CommandList) :
    (world.drop list).device.heap = world.device.heap := by
  obtain ⟨_, _, _, heap, _⟩ :=
    world.device.withPool_frame list.allocator.category
      ((world.device.pool list.allocator.category).putBack
        (list.allocator.givenBack list.retirementStamp world.device.held))
  rw [drop, Device.retire_fst]
  exact heap

/-- A device keeps its key and the capacity of its heap. -/
theorem Effect.fixed (effect : Effect moves world after) :
    after.device.key = world.device.key ∧
      after.device.heap.capacity = world.device.heap.capacity := by
  cases effect with
  | @rearranged category pool rearranged =>
      obtain ⟨key, _, _, heap, _⟩ := world.device.withPool_frame category pool
      exact ⟨key, congrArg DescriptorHeap.capacity heap⟩
  | @lent category pool allocator lends =>
      obtain ⟨key, _, _, heap, _⟩ := world.device.withPool_frame category pool
      exact ⟨key, congrArg DescriptorHeap.capacity heap⟩
  | @dropped list member =>
      exact ⟨(world.drop_frame list).1, congrArg DescriptorHeap.capacity (heap_drop world list)⟩
  | prepared library capacity => exact ⟨rfl, capacity⟩
  | _ => exact ⟨rfl, rfl⟩

theorem Leads.fixed (begun : start.Begins) (leads : Leads moves start world) :
    world.device.key = start.device.key ∧
      world.device.heap.capacity = start.device.heap.capacity := by
  refine @Leads.invariant _ _ _ _
    (fun each => each.device.key = start.device.key ∧
      each.device.heap.capacity = start.device.heap.capacity) _ begun ⟨rfl, rfl⟩ ?_ leads
  intro before after _ fixed effect
  exact ⟨effect.fixed.1.trans fixed.1, effect.fixed.2.trans fixed.2⟩

theorem Effect.forall_lists {property : CommandList → Prop}
    (lasting :
      CommandList.Lasting world.device.key world.device.heap.capacity property)
    (registered : world.Registered) (before : ∀ list ∈ world.lists, property list)
    (effect : Effect moves world after) : ∀ list ∈ after.lists, property list := by
  cases effect with
  | lent lends =>
      intro list member
      rcases List.mem_append.mp member with earlier | new
      · exact before list earlier
      · rw [List.mem_singleton.mp new]
        exact lasting.opened _ _ lends.cleared
  | @recorded recorder call member accepted =>
      refine forall_amend before ?_
      intro list present chosen
      have same := registered.eq_of_id present member (List.mem_singleton.mp chosen)
      rw [same]
      exact lasting.appended accepted (before recorder member)
  | @closed closing member opened =>
      refine forall_amend before ?_
      intro list present chosen
      have same := registered.eq_of_id present member (List.mem_singleton.mp chosen)
      rw [same]
      exact lasting.closed opened (before closing member)
  | rejected offers own refused =>
      refine forall_amend before ?_
      intro list present chosen
      have offered := registered.mem_of_id (fun each member => (own each member).1) present chosen
      exact lasting.frozen (own list offered).2 (before list present)
  | accepted offers own taken =>
      refine forall_amend before ?_
      intro list present chosen
      have offered := registered.mem_of_id (fun each member => (own each member).1) present chosen
      exact lasting.submitted _ (own list offered).2 (before list present)
  | dropped member => exact fun list left => before list (registered.of_mem_drop member left).1
  | _ => exact before

/-- A lasting property holds of every list of a run. -/
theorem Leads.forall_lists {property : CommandList → Prop}
    (lasting :
      CommandList.Lasting start.device.key start.device.heap.capacity property)
    (begun : start.Begins) (leads : Leads moves start world) :
    ∀ list ∈ world.lists, property list := by
  refine @Leads.invariant _ _ _ _ (fun each => ∀ list ∈ each.lists, property list) _ begun
    ?_ ?_ leads
  · simp [begun.fresh.lists]
  · intro before after earlier held effect
    obtain ⟨key, capacity⟩ := Leads.fixed begun earlier
    refine effect.forall_lists ?_ (Leads.registered begun earlier) held
    rw [key, capacity]
    exact lasting

/-- A command of an extended recording is the last one, or it stood in the recording before. -/
theorem append_singleton_eq {recorded front back : List Command} {last command : Command}
    (shape : recorded ++ [last] = front ++ command :: back) :
    (recorded = front ∧ last = command) ∨ ∃ rest, recorded = front ++ command :: rest := by
  rcases List.eq_nil_or_concat back with rfl | ⟨between, final, rfl⟩
  · obtain ⟨sameFront, sameCommand⟩ := List.append_inj' shape rfl
    exact Or.inl ⟨sameFront, List.head_eq_of_cons_eq sameCommand⟩
  · rw [List.concat_eq_append, ← List.cons_append, ← List.append_assoc] at shape
    exact Or.inr ⟨between, (List.append_inj' shape rfl).1⟩

/-- A step leaves recordings as they are, apart from the recording call that it may be. -/
theorem Effect.recorded_or_kept (registered : world.Registered)
    (effect : Effect moves world after) :
    (∃ list ∈ world.lists, ∃ call, list.record call = .ok (list.append call.command) ∧
        after = world.record list call) ∨
      ∀ list ∈ after.lists, list.recorded = [] ∨
        ∃ earlier ∈ world.lists, earlier.id = list.id ∧ earlier.recorded = list.recorded := by
  have amended : ∀ (named : List ListId) (change : CommandList → CommandList),
      (∀ list, (change list).id = list.id ∧ (change list).recorded = list.recorded) →
        ∀ list ∈ amend world.lists named change, list.recorded = [] ∨
          ∃ earlier ∈ world.lists,
            earlier.id = list.id ∧ earlier.recorded = list.recorded := by
    intro named change same
    refine forall_amend ?_ ?_
    · exact fun list member => Or.inr ⟨list, member, rfl, rfl⟩
    · exact fun list member _ => Or.inr ⟨list, member, (same list).1.symm, (same list).2.symm⟩
  cases effect with
  | @recorded list call member accepted =>
      exact Or.inl ⟨list, member, call, accepted,
        (registered.record_of_accepted member accepted).symm⟩
  | lent lends =>
      right
      intro list member
      rcases List.mem_append.mp member with earlier | new
      · exact Or.inr ⟨list, earlier, rfl, rfl⟩
      · left
        rw [List.mem_singleton.mp new, CommandList.recorded, ← lends.cleared]
        rfl
  | dropped member =>
      exact Or.inr fun list left =>
        Or.inr ⟨list, (registered.of_mem_drop member left).1, rfl, rfl⟩
  | closed | rejected | accepted => exact Or.inr (amended _ _ fun _ => ⟨rfl, rfl⟩)
  | _ => exact Or.inr fun list member => Or.inr ⟨list, member, rfl, rfl⟩

/-- A call was accepted at a moment of a run, and the run went on from there. -/
structure Accepts (moves : Clocked σ → Clocked σ → Prop) (start moment : World σ)
    (list : CommandList) (call : Call) (world : World σ) : Prop where
  reached : Leads moves start moment
  member : list ∈ moment.lists
  accepted : list.record call = .ok (list.append call.command)
  onward : Leads moves (moment.record list call) world

theorem Accepts.later {moment : World σ} {list : CommandList} {call : Call}
    (accepts : Accepts moves start moment list call world) (onward : Leads moves world after) :
    Accepts moves start moment list call after :=
  ⟨accepts.reached, accepts.member, accepts.accepted, accepts.onward.trans onward⟩

/-- Every command of a list was recorded at some moment of the run, when the list held the
commands before it. -/
theorem Leads.moment_of_command (begun : start.Begins) (leads : Leads moves start world)
    {list : CommandList} (member : list ∈ world.lists) {front back : List Command}
    {command : Command} (shape : list.recorded = front ++ command :: back) :
    ∃ moment held call, Accepts moves start moment held call world ∧
      held.id = list.id ∧ held.recorded = front ∧ call.command = command := by
  induction leads generalizing list back with
  | refl =>
      rw [begun.fresh.lists] at member
      cases member
  | @tail before after earlier step inductionHypothesis =>
      have registered := Leads.registered begun earlier
      -- If the list had the command already before this step, the moment is an earlier one.
      have sooner : ∀ former ∈ before.lists, former.id = list.id →
          (∃ rest, former.recorded = front ++ command :: rest) →
            ∃ moment held call, Accepts moves start moment held call after ∧
              held.id = list.id ∧ held.recorded = front ∧ call.command = command := by
        rintro former present sameId ⟨rest, formerShape⟩
        obtain ⟨moment, held, call, accepts, heldId, heldFront⟩ :=
          inductionHypothesis present formerShape
        exact ⟨moment, held, call, accepts.later (Relation.ReflTransGen.single step),
          heldId.trans sameId, heldFront⟩
      rcases (step.effect registered).recorded_or_kept registered with
        ⟨recorder, present, call, accepted, rfl⟩ | kept
      · rw [registered.record_of_accepted present accepted] at member
        rcases mem_amend_iff.mp member with ⟨former, formerMember, chosen, rfl⟩ | ⟨same, _⟩
        · have equal : former = recorder :=
            registered.eq_of_id formerMember present (List.mem_singleton.mp chosen)
          subst equal
          -- The call added one command: the one in question, or one behind it.
          rcases append_singleton_eq shape with ⟨sameFront, sameCommand⟩ | shorter
          · exact ⟨before, former, call,
              ⟨earlier, formerMember, accepted, Relation.ReflTransGen.refl⟩, rfl, sameFront,
              sameCommand⟩
          · exact sooner former formerMember rfl shorter
        · exact sooner list same rfl ⟨back, shape⟩
      · rcases kept list member with empty | ⟨former, present, sameId, same⟩
        · simp [empty] at shape
        · exact sooner former present sameId ⟨back, same.trans shape⟩

/-- The streams that a step adds to the accepted ones are recordings of lists. -/
theorem Effect.stream_recorded_or_kept (booked : world.Booked)
    (effect : Effect moves world after) {entry : Submission} (accepted : entry ∈ after.entries)
    {stream : Stream} (chosen : stream ∈ entry.streams) :
    entry ∈ world.entries ∨
      ∃ list ∈ world.lists, stream = ⟨list.id, list.category, list.recorded⟩ := by
  cases effect with
  | accepted offers own taken =>
      rcases List.mem_append.mp accepted with known | new
      · exact Or.inl known
      · rw [List.mem_singleton.mp new] at chosen
        obtain ⟨frozen, frozenMember, rfl⟩ := List.mem_map.mp chosen
        obtain ⟨list, offered, rfl⟩ := List.mem_map.mp frozenMember
        exact Or.inr ⟨list, (own list offered).1, booked.stream_freeze (own list offered).1⟩
  | _ => exact Or.inl accepted

/-- Every stream that the queue has accepted was the recording of a list at some moment of the
run. -/
theorem Leads.moment_of_stream (begun : start.Begins) (leads : Leads moves start world)
    {entry : Submission} (accepted : entry ∈ world.entries) {stream : Stream}
    (chosen : stream ∈ entry.streams) :
    ∃ moment list, Leads moves start moment ∧ Leads moves moment world ∧
      list ∈ moment.lists ∧ stream = ⟨list.id, list.category, list.recorded⟩ := by
  induction leads with
  | refl =>
      rw [begun.fresh.entries] at accepted
      cases accepted
  | @tail before after earlier step inductionHypothesis =>
      have booked := Leads.booked begun earlier
      rcases (step.effect (Leads.registered begun earlier)).stream_recorded_or_kept booked accepted
        chosen with known | ⟨list, member, shape⟩
      · obtain ⟨moment, list, reached, onward, member, shape⟩ := inductionHypothesis known
        exact ⟨moment, list, reached, onward.tail step, member, shape⟩
      · exact ⟨before, list, earlier, Relation.ReflTransGen.single step, member, shape⟩

end Queued

/-- Make calls in order on the list that a world has. -/
def recordAll (world : World σ) (list : CommandList) : List Call → World σ
  | [] => world
  | call :: rest => (world.record list call).recordAll (list.append call.command) rest

theorem lists_record_of_only {world : World σ} {list : CommandList} {call : Call}
    (only : world.lists = [list])
    (accepted : list.record call = .ok (list.append call.command)) :
    (world.record list call).lists = [list.append call.command] := by
  have same : list.isSame (list.append call.command) = true :=
    CommandList.isSame_iff.mpr ⟨rfl, rfl⟩
  simp [record, accepted, keep, only, same]

/-- Calls that the only list of a world accepts are made one after the other. -/
theorem recordAll_of_only {relation : World σ → World σ → Prop} {world : World σ}
    {list last : CommandList} {calls : List Call} (only : world.lists = [list])
    (accepted : calls.foldlM CommandList.record list = .ok last)
    (related : ∀ world list call, list ∈ world.lists → call ∈ calls →
      relation world (world.record list call)) :
    Relation.ReflTransGen relation world (world.recordAll list calls) ∧
      (world.recordAll list calls).lists = [last] := by
  induction calls generalizing world list with
  | nil =>
      cases accepted
      exact ⟨Relation.ReflTransGen.refl, only⟩
  | cons call rest inductionHypothesis =>
      rw [List.foldlM_cons] at accepted
      cases first : list.record call with
      | error error =>
          rw [first] at accepted
          cases accepted
      | ok next =>
          have appended := CommandList.eq_append_of_record first
          subst appended
          rw [first] at accepted
          have member : list ∈ world.lists := by
            rw [only]
            exact List.mem_singleton_self list
          obtain ⟨others, lists⟩ :=
            inductionHypothesis (lists_record_of_only only first) accepted
              fun world list call present chosen =>
                related world list call present (List.mem_cons_of_mem _ chosen)
          exact ⟨Relation.ReflTransGen.head
            (related world list call member List.mem_cons_self) others, lists⟩

end World

end CommandQueue
