import CommandQueue.Proofs.World

/-!
# What a step can do

`World.Effect` lists all that a step of a run can do to a world whose lists are
registered: each case gives the world after the step in full.  Every later
invariant is preserved case by case along this list, and `World.Leads.invariant`
carries it over a whole run.
-/

namespace CommandQueue

namespace CommandList

/-- An accepted recording call was made on an open list. -/
theorem opened_of_record {list next : CommandList} {call : Call}
    (accepted : list.record call = .ok next) : list.state = .opened := by
  have opened := (record_eq_ok_iff.mp accepted).1
  by_contra notOpened
  rw [ensureOpen, if_neg notOpened] at opened
  cases opened

theorem close_eq_ok_iff {list next : CommandList} :
    list.close = .ok next ↔
      list.state = .opened ∧ next = { list with state := .closed } := by
  by_cases opened : list.state = .opened
  · simp [close, ensureOpen, opened, bind, Except.bind, pure, Except.pure, eq_comm]
  · simp [close, ensureOpen, opened, bind, Except.bind]

theorem ensureSubmittable_eq_ok_iff {list : CommandList} :
    list.ensureSubmittable = .ok () ↔ list.state ≠ .submitted := by
  unfold ensureSubmittable
  cases list.state <;> simp

theorem isSame_iff {left right : CommandList} :
    left.isSame right = true ↔ left.device = right.device ∧ left.id = right.id := by
  simp [isSame]

end CommandList

namespace Device

variable {σ : Type}

theorem pool_withPool (device : Device σ) (written read : Category) (pool : Pool) :
    (device.withPool written pool).pool read =
      if read = written then pool else device.pool read := by
  by_cases same : read = written
  · rw [if_pos same, same, pool_withPool_self]
  · rw [if_neg same, pool_withPool_of_ne device pool same]

/-- What holds of the new pool and held of the other one holds of both pools. -/
theorem forall_pool_withPool {device : Device σ} {written : Category} {pool : Pool}
    (property : Category → Pool → Prop) (changed : property written pool)
    (kept : ∀ read, read ≠ written → property read (device.pool read)) (read : Category) :
    property read ((device.withPool written pool).pool read) := by
  rw [pool_withPool]
  by_cases same : read = written
  · rw [if_pos same, same]
    exact changed
  · rw [if_neg same]
    exact kept read same

theorem withPool_frame (device : Device σ) (category : Category) (pool : Pool) :
    (device.withPool category pool).key = device.key ∧
      (device.withPool category pool).config = device.config ∧
      (device.withPool category pool).fence = device.fence ∧
      (device.withPool category pool).heap = device.heap ∧
      (device.withPool category pool).listsOpened = device.listsOpened ∧
      (device.withPool category pool).liveLists = device.liveLists ∧
      (device.withPool category pool).submissions = device.submissions ∧
      (device.withPool category pool).queue = device.queue := by
  cases category <;> exact ⟨rfl, rfl, rfl, rfl, rfl, rfl, rfl, rfl⟩

theorem ensureOwn_eq_ok_iff {device : Device σ} {list : CommandList} :
    device.ensureOwn list = .ok () ↔
      list.device = device.key ∧ list.state ≠ .submitted := by
  unfold ensureOwn
  by_cases own : list.device = device.key
  · simp [own, CommandList.ensureSubmittable_eq_ok_iff]
  · simp [own]

theorem ensureAllOwn_eq_ok_iff {device : Device σ} {lists : List CommandList} :
    device.ensureAllOwn lists = .ok () ↔
      ∀ list ∈ lists, list.device = device.key ∧ list.state ≠ .submitted := by
  induction lists with
  | nil => simp [ensureAllOwn]
  | cons list rest inductionHypothesis =>
      rw [List.forall_mem_cons, ← ensureOwn_eq_ok_iff, ← inductionHypothesis, ensureAllOwn]
      cases device.ensureOwn list with
      | error error => simp
      | ok _ => simp

section Queued

variable [Queue σ]

/-- What the pool of a category answers to a request for an allocator. -/
def requested (device : Device σ) (category : Category) : Outcome Pool Allocator :=
  (device.pool category).acquire device.fence.completed device.held

theorem lends_requested (device : Device σ) (category : Category) :
    (device.pool category).Lends device.fence.completed device.held
      (device.requested category).state (device.requested category).result :=
  Pool.lends_acquire _ _ _

theorem openList_of_refused {device : Device σ} {category : Category} {error : Error}
    (refused : (device.requested category).result = .error error) :
    device.openList category =
      ⟨device.withPool category (device.requested category).state, .error error,
        (device.requested category).events⟩ := by
  unfold requested at refused
  simp [openList, requested, Outcome.andThen, Outcome.within, refused]

theorem openList_of_lent {device : Device σ} {category : Category} {allocator : Allocator}
    (lent : (device.requested category).result = .ok allocator) :
    device.openList category =
      ⟨{ device.withPool category (device.requested category).state with
          listsOpened := device.listsOpened + 1
          liveLists := device.liveLists + 1 },
        .ok (CommandList.opened ⟨device.listsOpened + 1⟩ device.key category allocator
          (if category.usesDescriptors then some device.heap.capacity else none)),
        (device.requested category).events ++
          [.listOpened category ⟨device.listsOpened + 1⟩ allocator.id]⟩ := by
  obtain ⟨key, _, _, heap, opened, live, _, _⟩ :=
    device.withPool_frame category (device.requested category).state
  unfold requested at lent key heap opened live
  simp [openList, requested, Outcome.andThen, Outcome.within, Outcome.done, lent, key, heap,
    opened, live]

theorem lends_of_opened {device : Device σ} {category : Category} {list : CommandList}
    (opened : (device.openList category).result = .ok list) :
    (device.pool category).Lends device.fence.completed device.held
      (device.requested category).state (.ok list.allocator) := by
  have lends := device.lends_requested category
  cases result : (device.requested category).result with
  | error error =>
      rw [openList_of_refused result] at opened
      cases opened
  | ok allocator =>
      rw [openList_of_lent result] at opened
      rw [result] at lends
      cases opened
      exact lends

theorem requested_of_refused {device : Device σ} {category : Category} {error : Error}
    (refused : (device.openList category).result = .error error) :
    (device.requested category).result = .error error := by
  cases result : (device.requested category).result with
  | error problem =>
      rw [openList_of_refused result] at refused
      cases refused
      rfl
  | ok allocator =>
      rw [openList_of_lent result] at refused
      cases refused

/-- What the queue makes of lists that are frozen and handed over to it. -/
def offered (device : Device σ) (slice : List CommandList) : Outcome (Clocked σ) Unit :=
  Queue.submit device.queue device.fence.signalNext.1 device.heap
    (device.submission (slice.map CommandList.freeze))

theorem execute_of_refused {device : Device σ} {slice : List CommandList} {error : Error}
    (refused : device.ensureAllOwn slice = .error error) :
    device.execute slice = ⟨device, slice, .error error, []⟩ := by
  rw [execute, refused]

theorem execute_of_rejected {device : Device σ} {slice : List CommandList} {error : Error}
    (own : device.ensureAllOwn slice = .ok ())
    (rejected : (device.offered slice).result = .error error) :
    (device.execute slice).device =
        { device with
          queue := (device.offered slice).state.queue
          fence := (device.offered slice).state.fence.cancel device.fence.signalNext.2 } ∧
      (device.execute slice).lists = slice.map CommandList.freeze ∧
      (device.execute slice).result = .error error := by
  unfold offered at rejected
  simp only [execute, own, submitFrozen, rejected, and_true]
  rfl

theorem execute_of_taken {device : Device σ} {slice : List CommandList}
    (own : device.ensureAllOwn slice = .ok ())
    (taken : (device.offered slice).result = .ok ()) :
    (device.execute slice).device =
        { device with
          queue := (device.offered slice).state.queue
          fence := (device.offered slice).state.fence
          submissions := device.submissions + 1 } ∧
      (device.execute slice).lists =
        slice.map (fun list => list.freeze.markSubmitted device.fence.signalNext.2) ∧
      (device.execute slice).result = .ok device.fence.signalNext.2 := by
  unfold offered at taken
  simp only [execute, own, submitFrozen, taken, List.map_map, and_true]
  exact ⟨rfl, rfl⟩

theorem retire_fst (device : Device σ) (list : CommandList) :
    (device.retire list).1 =
      { device.withPool list.allocator.category
          ((device.pool list.allocator.category).putBack
            (list.allocator.givenBack list.retirementStamp device.held)) with
        liveLists := device.liveLists - 1 } := by
  rw [← Pool.release_fst]
  rfl

end Queued

end Device

namespace World

variable {σ : Type}

/-- The lists with some of them changed. -/
def amend (lists : List CommandList) (named : List ListId)
    (change : CommandList → CommandList) : List CommandList :=
  lists.map fun list => if list.id ∈ named then change list else list

theorem mem_amend_iff {lists : List CommandList} {named : List ListId}
    {change : CommandList → CommandList} {list : CommandList} :
    list ∈ amend lists named change ↔
      (∃ before ∈ lists, before.id ∈ named ∧ list = change before) ∨
        list ∈ lists ∧ list.id ∉ named := by
  constructor
  · intro member
    obtain ⟨before, beforeMember, shape⟩ := List.mem_map.mp member
    by_cases chosen : before.id ∈ named
    · rw [if_pos chosen] at shape
      exact Or.inl ⟨before, beforeMember, chosen, shape.symm⟩
    · rw [if_neg chosen] at shape
      subst shape
      exact Or.inr ⟨beforeMember, chosen⟩
  · rintro (⟨before, beforeMember, chosen, shape⟩ | ⟨member, spared⟩)
    · exact List.mem_map.mpr ⟨before, beforeMember, by rw [if_pos chosen, shape]⟩
    · exact List.mem_map.mpr ⟨list, member, if_neg spared⟩

/-- What holds of every list and survives the change holds of every list after it. -/
theorem forall_amend {lists : List CommandList} {named : List ListId}
    {change : CommandList → CommandList} {property : CommandList → Prop}
    (before : ∀ list ∈ lists, property list)
    (preserved : ∀ list ∈ lists, list.id ∈ named → property (change list)) :
    ∀ list ∈ amend lists named change, property list := by
  intro list member
  rcases mem_amend_iff.mp member with ⟨earlier, earlierMember, chosen, shape⟩ | ⟨same, _⟩
  · rw [shape]
    exact preserved earlier earlierMember chosen
  · exact before list same

/-- A value that no change touches has the same values over all lists. -/
theorem map_amend {α : Type} (lists : List CommandList) (named : List ListId)
    {change : CommandList → CommandList} {value : CommandList → α}
    (kept : ∀ list, value (change list) = value list) :
    (amend lists named change).map value = lists.map value := by
  rw [amend, List.map_map]
  apply List.map_congr_left
  intro list _
  by_cases chosen : list.id ∈ named
  · simp [chosen, kept]
  · simp [chosen]

/-- Every list belongs to the device of the world and has a number of its own. -/
structure Registered (world : World σ) : Prop where
  own : ∀ list ∈ world.lists, list.device = world.device.key
  numbered : ∀ list ∈ world.lists, list.id.number ≤ world.device.listsOpened
  distinct : (world.lists.map CommandList.id).Nodup

theorem Registered.eq_of_id {world : World σ} (registered : world.Registered)
    {left right : CommandList} (leftMember : left ∈ world.lists)
    (rightMember : right ∈ world.lists) (sameId : left.id = right.id) : left = right :=
  List.inj_on_of_nodup_map registered.distinct leftMember rightMember sameId

theorem Registered.isSame_iff {world : World σ} (registered : world.Registered)
    {left right : CommandList} (leftMember : left ∈ world.lists)
    (rightMember : right ∈ world.lists) : left.isSame right = true ↔ left = right := by
  rw [CommandList.isSame_iff]
  constructor
  · exact fun same => registered.eq_of_id leftMember rightMember same.2
  · rintro rfl
    exact ⟨rfl, rfl⟩

/-- A list with the number of one of the lists handed over is that list. -/
theorem Registered.mem_of_id {world : World σ} (registered : world.Registered)
    {slice : List CommandList} (members : ∀ list ∈ slice, list ∈ world.lists)
    {list : CommandList} (member : list ∈ world.lists)
    (chosen : list.id ∈ slice.map CommandList.id) : list ∈ slice := by
  obtain ⟨other, otherChosen, sameId⟩ := List.mem_map.mp chosen
  rw [← registered.eq_of_id (members other otherChosen) member sameId]
  exact otherChosen

theorem Registered.ensureAllOwn_of_own {world : World σ} (registered : world.Registered)
    {slice : List CommandList}
    (own : ∀ list ∈ slice, list ∈ world.lists ∧ list.state ≠ .submitted) :
    world.device.ensureAllOwn slice = .ok () :=
  Device.ensureAllOwn_eq_ok_iff.mpr fun list chosen =>
    ⟨registered.own list (own list chosen).1, (own list chosen).2⟩

theorem own_of_ensureAllOwn {world : World σ} {slice : List CommandList}
    (present : ∀ list ∈ slice, list.device = world.device.key → list ∈ world.lists)
    (check : world.device.ensureAllOwn slice = .ok ()) :
    ∀ list ∈ slice, list ∈ world.lists ∧ list.state ≠ .submitted := by
  intro list chosen
  obtain ⟨key, state⟩ := Device.ensureAllOwn_eq_ok_iff.mp check list chosen
  exact ⟨present list chosen key, state⟩

/-- Putting back changed lists changes just these lists. -/
theorem keep_map {world : World σ} (registered : world.Registered) (slice : List CommandList)
    (members : ∀ list ∈ slice, list ∈ world.lists) (change : CommandList → CommandList)
    (same : ∀ list other : CommandList, list.isSame (change other) = list.isSame other) :
    keep world.lists (slice.map change) =
      amend world.lists (slice.map CommandList.id) change := by
  apply List.map_congr_left
  intro list member
  have sameAs : ∀ other ∈ slice, list.isSame other = true ↔ list = other :=
    fun other chosen => registered.isSame_iff member (members other chosen)
  cases found : (slice.map change).find? list.isSame with
  | none =>
      have absent : list.id ∉ slice.map CommandList.id := by
        intro chosen
        obtain ⟨other, otherMember, sameId⟩ := List.mem_map.mp chosen
        have equal := registered.eq_of_id (members other otherMember) member sameId
        have missed :=
          List.find?_eq_none.mp found (change other) (List.mem_map_of_mem otherMember)
        rw [same] at missed
        exact missed ((sameAs other otherMember).mpr equal.symm)
      rw [if_neg absent]
      rfl
  | some returned =>
      obtain ⟨other, otherMember, shape⟩ := List.mem_map.mp (List.mem_of_find?_eq_some found)
      have matching : list.isSame returned = true := List.find?_some found
      rw [← shape, same] at matching
      have equal := (sameAs other otherMember).mp matching
      have present : list.id ∈ slice.map CommandList.id := by
        rw [equal]
        exact List.mem_map_of_mem otherMember
      rw [if_pos present, Option.getD_some, ← shape, equal]

/-- An accepted call changes the list on which it was made. -/
theorem Registered.record_of_accepted {world : World σ} (registered : world.Registered)
    {list : CommandList} (member : list ∈ world.lists) {call : Call}
    (accepted : list.record call = .ok (list.append call.command)) :
    world.record list call =
      { world with
        lists := amend world.lists [list.id] fun each => each.append call.command
        journal := world.journal ++ [.recorded list.id call.command] } := by
  have kept :
      keep world.lists [list.append call.command] =
        amend world.lists [list.id] fun each => each.append call.command :=
    keep_map registered [list] (by simpa using member)
      (fun each => each.append call.command) (fun _ _ => rfl)
  simp only [record, accepted, kept]

/-- Lists that come back unchanged change nothing. -/
theorem keep_offered {world : World σ} (registered : world.Registered)
    {slice : List CommandList} (offers : world.Offers slice) :
    keep world.lists slice = world.lists := by
  unfold keep
  conv_rhs => rw [← List.map_id world.lists]
  apply List.map_congr_left
  intro list member
  cases found : slice.find? list.isSame with
  | none => rfl
  | some returned =>
      have returnedMember := List.mem_of_find?_eq_some found
      have matching : list.isSame returned = true := List.find?_some found
      have sameDevice := (CommandList.isSame_iff.mp matching).1
      have own : returned.device = world.device.key := by
        rw [← sameDevice, registered.own list member]
      have equal :=
        (registered.isSame_iff member (offers.present returned returnedMember own)).mp matching
      rw [Option.getD_some, ← equal]
      rfl

def lend (world : World σ) (category : Category) (pool : Pool) (allocator : Allocator) :
    World σ :=
  let id : ListId := ⟨world.device.listsOpened + 1⟩
  { world with
    device :=
      { world.device.withPool category pool with
        listsOpened := world.device.listsOpened + 1
        liveLists := world.device.liveLists + 1 }
    lists :=
      world.lists ++
        [CommandList.opened id world.device.key category allocator
          (if category.usesDescriptors then some world.device.heap.capacity else none)]
    journal := world.journal ++ [.opened id allocator.id] }

/-- Lists keep their registration as long as they keep their numbers and their device. -/
theorem Registered.of_sublist {world after : World σ} (registered : world.Registered)
    (key : after.device.key = world.device.key)
    (opened : world.device.listsOpened ≤ after.device.listsOpened)
    (lists :
      (after.lists.map fun list => (list.id, list.device)).Sublist
        (world.lists.map fun list => (list.id, list.device))) :
    after.Registered := by
  have before :
      ∀ list ∈ after.lists, ∃ earlier ∈ world.lists,
        earlier.id = list.id ∧ earlier.device = list.device := by
    intro list member
    have tag := lists.subset (List.mem_map_of_mem member)
    obtain ⟨earlier, earlierMember, same⟩ := List.mem_map.mp tag
    exact ⟨earlier, earlierMember, Prod.mk.inj same⟩
  refine ⟨?_, ?_, ?_⟩
  · intro list member
    obtain ⟨earlier, earlierMember, _, sameDevice⟩ := before list member
    rw [← sameDevice, key]
    exact registered.own earlier earlierMember
  · intro list member
    obtain ⟨earlier, earlierMember, sameId, _⟩ := before list member
    rw [← sameId]
    exact Nat.le_trans (registered.numbered earlier earlierMember) opened
  · have ids := lists.map Prod.fst
    rw [List.map_map, List.map_map] at ids
    exact ids.nodup registered.distinct

theorem Registered.lend {world : World σ} (registered : world.Registered)
    (category : Category) (pool : Pool) (allocator : Allocator) :
    (world.lend category pool allocator).Registered := by
  obtain ⟨key, _⟩ := world.device.withPool_frame category pool
  refine ⟨?_, ?_, ?_⟩
  · intro list member
    change list.device = (world.device.withPool category pool).key
    rw [key]
    rcases List.mem_append.mp member with earlier | new
    · exact registered.own list earlier
    · rw [List.mem_singleton.mp new]
      rfl
  · intro list member
    change list.id.number ≤ world.device.listsOpened + 1
    rcases List.mem_append.mp member with earlier | new
    · exact Nat.le_succ_of_le (registered.numbered list earlier)
    · rw [List.mem_singleton.mp new]
      exact Nat.le_refl _
  · change ((world.lists ++ [_]).map CommandList.id).Nodup
    rw [List.map_append, List.nodup_append]
    refine ⟨registered.distinct, List.nodup_singleton _, ?_⟩
    intro id earlier new newMember equal
    obtain ⟨list, member, rfl⟩ := List.mem_map.mp earlier
    have number := registered.numbered list member
    rw [equal, List.mem_singleton.mp newMember] at number
    exact Nat.not_succ_le_self _ number

section Queued

variable [Queue σ]

def reject (world : World σ) (slice : List CommandList) : World σ :=
  { world with
    device :=
      { world.device with
        queue := (world.device.offered slice).state.queue
        fence :=
          (world.device.offered slice).state.fence.cancel world.device.fence.signalNext.2 }
    lists := amend world.lists (slice.map CommandList.id) CommandList.freeze }

def accept (world : World σ) (slice : List CommandList) : World σ :=
  let signal := world.device.fence.signalNext.2
  { device :=
      { world.device with
        queue := (world.device.offered slice).state.queue
        fence := (world.device.offered slice).state.fence
        submissions := world.device.submissions + 1 }
    lists :=
      amend world.lists (slice.map CommandList.id)
        fun list => list.freeze.markSubmitted signal
    journal := world.journal ++ [.accepted signal (slice.map CommandList.id)]
    entries := world.entries ++ [world.device.submission (slice.map CommandList.freeze)] }

/-- Everything that a step can do to a world. -/
inductive Effect (moves : Clocked σ → Clocked σ → Prop) (world : World σ) :
    World σ → Prop
  | idle : Effect moves world world
  | rearranged {category : Category} {pool : Pool}
      (rearranged : (world.device.pool category).Rearranged pool) :
      Effect moves world { world with device := world.device.withPool category pool }
  | lent {category : Category} {pool : Pool} {allocator : Allocator}
      (lends : (world.device.pool category).Lends world.device.fence.completed
        world.device.held pool (.ok allocator)) :
      Effect moves world (world.lend category pool allocator)
  | recorded {list : CommandList} {call : Call} (member : list ∈ world.lists)
      (accepted : list.record call = .ok (list.append call.command)) :
      Effect moves world
        { world with
          lists := amend world.lists [list.id] fun each => each.append call.command
          journal := world.journal ++ [.recorded list.id call.command] }
  | closed {list : CommandList} (member : list ∈ world.lists) (opened : list.state = .opened) :
      Effect moves world
        { world with
          lists := amend world.lists [list.id] fun each => { each with state := .closed } }
  | rejected {slice : List CommandList} {error : Error} (offers : world.Offers slice)
      (own : ∀ list ∈ slice, list ∈ world.lists ∧ list.state ≠ .submitted)
      (refused : (world.device.offered slice).result = .error error) :
      Effect moves world (world.reject slice)
  | accepted {slice : List CommandList} (offers : world.Offers slice)
      (own : ∀ list ∈ slice, list ∈ world.lists ∧ list.state ≠ .submitted)
      (taken : (world.device.offered slice).result = .ok ()) :
      Effect moves world (world.accept slice)
  | dropped {list : CommandList} (member : list ∈ world.lists) :
      Effect moves world (world.drop list)
  | prepared {heap : DescriptorHeap} (library : Library)
      (capacity : heap.capacity = world.device.heap.capacity) :
      Effect moves world
        { world with device := { world.device with heap := heap, library := library } }
  | moved {after : Clocked σ} (moved : moves world.clocked after) :
      Effect moves world (world.moved after)

variable {moves : Clocked σ → Clocked σ → Prop} {world : World σ}

theorem openList_of_refused {category : Category} {error : Error}
    (refused : (world.device.requested category).result = .error error) :
    world.openList category =
      { world with
        device := world.device.withPool category (world.device.requested category).state } := by
  simp only [openList, Device.openList_of_refused refused]

theorem openList_of_lent {category : Category} {allocator : Allocator}
    (lent : (world.device.requested category).result = .ok allocator) :
    world.openList category =
      world.lend category (world.device.requested category).state allocator := by
  simp only [openList, Device.openList_of_lent lent]
  rfl

theorem effect_openList (world : World σ) (category : Category) :
    Effect moves world (world.openList category) := by
  have lends := world.device.lends_requested category
  cases result : (world.device.requested category).result with
  | error error =>
      rw [result] at lends
      rw [openList_of_refused result]
      exact Effect.rearranged lends.rearranged
  | ok allocator =>
      rw [result] at lends
      rw [openList_of_lent result]
      exact Effect.lent lends

theorem Registered.effect_record (registered : world.Registered) {list : CommandList}
    (member : list ∈ world.lists) (call : Call) :
    Effect moves world (world.record list call) := by
  cases result : list.record call with
  | error error =>
      simpa [record, result] using Effect.idle
  | ok next =>
      have appended := CommandList.eq_append_of_record result
      subst appended
      rw [registered.record_of_accepted member result]
      exact Effect.recorded member result

theorem Registered.effect_close (registered : world.Registered) {list : CommandList}
    (member : list ∈ world.lists) : Effect moves world (world.close list) := by
  cases result : list.close with
  | error error =>
      simpa [close, result] using Effect.idle
  | ok closed =>
      obtain ⟨opened, shape⟩ := CommandList.close_eq_ok_iff.mp result
      have kept :
          keep world.lists [{ list with state := .closed }] =
            amend world.lists [list.id] fun each => { each with state := .closed } :=
        keep_map registered [list] (by simpa using member)
          (fun each => { each with state := .closed }) (fun _ _ => rfl)
      subst shape
      simpa [close, result, kept] using Effect.closed member opened

/-- Lists that the queue accepts are submitted, and what it accepted is noted. -/
theorem Registered.execute_of_taken (registered : world.Registered) {slice : List CommandList}
    (own : ∀ list ∈ slice, list ∈ world.lists ∧ list.state ≠ .submitted)
    (taken : (world.device.offered slice).result = .ok ()) :
    world.execute slice = world.accept slice := by
  obtain ⟨device, lists, result⟩ :=
    Device.execute_of_taken (registered.ensureAllOwn_of_own own) taken
  have kept :=
    keep_map registered slice (fun list chosen => (own list chosen).1)
      (fun list => list.freeze.markSubmitted world.device.fence.signalNext.2)
      (fun _ _ => rfl)
  simp only [execute, handOver, accept, device, lists, result, kept]

/-- Lists that the queue refuses stay frozen. -/
theorem Registered.execute_of_rejected (registered : world.Registered)
    {slice : List CommandList} {error : Error}
    (own : ∀ list ∈ slice, list ∈ world.lists ∧ list.state ≠ .submitted)
    (rejected : (world.device.offered slice).result = .error error) :
    world.execute slice = world.reject slice := by
  obtain ⟨device, lists, result⟩ :=
    Device.execute_of_rejected (registered.ensureAllOwn_of_own own) rejected
  have kept :=
    keep_map registered slice (fun list chosen => (own list chosen).1) CommandList.freeze
      (fun _ _ => rfl)
  simp [execute, handOver, reject, device, lists, result, kept]

theorem Registered.effect_execute (registered : world.Registered) {slice : List CommandList}
    (offers : world.Offers slice) : Effect moves world (world.execute slice) := by
  cases check : world.device.ensureAllOwn slice with
  | error error =>
      rw [execute, Device.execute_of_refused check]
      simpa [handOver, keep_offered registered offers] using Effect.idle
  | ok _ =>
      have own := own_of_ensureAllOwn offers.present check
      cases answer : (world.device.offered slice).result with
      | error error =>
          rw [registered.execute_of_rejected own answer]
          exact Effect.rejected offers own answer
      | ok _ =>
          rw [registered.execute_of_taken own answer]
          exact Effect.accepted offers own answer

theorem Registered.effect_executeOpen (registered : world.Registered) {list : CommandList}
    (member : list ∈ world.lists) : Effect moves world (world.executeOpen list) := by
  have offers : world.Offers [list] := offers_singleton member
  cases check : list.ensureOpen "execute_and_wait" with
  | error error =>
      have shape : world.executeOpen list = world := by
        simp [executeOpen, Device.executeOpen, handOver, check,
          keep_offered registered offers]
      rw [shape]
      exact Effect.idle
  | ok _ =>
      have shape : world.executeOpen list = world.execute [list] := by
        simp [executeOpen, execute, Device.executeOpen, check]
      rw [shape]
      exact registered.effect_execute offers

/-- Every step of a world with registered lists has one of the listed effects. -/
theorem Step.effect {after : World σ} (registered : world.Registered)
    (step : Step moves world after) : Effect moves world after := by
  cases step with
  | opens category => exact effect_openList world category
  | records member call => exact registered.effect_record member call
  | closes member => exact registered.effect_close member
  | executes offers => exact registered.effect_execute offers
  | executesOpen member => exact registered.effect_executeOpen member
  | drops member => exact Effect.dropped member
  | prepares library capacity => exact Effect.prepared library capacity
  | reserves category memory =>
      exact Effect.rearranged ⟨List.Perm.refl _, rfl, rfl, rfl, Nat.le_refl _⟩
  | moves moved => exact Effect.moved moved

/-- Dropping a list takes just this list away. -/
theorem Registered.lists_drop_perm (registered : world.Registered) {list : CommandList}
    (member : list ∈ world.lists) : world.lists.Perm (list :: (world.drop list).lists) := by
  have same : list.isSame list = true := (registered.isSame_iff member member).mpr rfl
  obtain ⟨found, front, back, _, matching, shape, rest⟩ := List.exists_of_eraseP member same
  have foundMember : found ∈ world.lists := by
    rw [shape]
    exact List.mem_append_right front List.mem_cons_self
  have equal := (registered.isSame_iff member foundMember).mp matching
  subst equal
  change world.lists.Perm (list :: world.lists.eraseP list.isSame)
  rw [rest, shape]
  exact List.perm_middle

/-- The lists that are left are other lists. -/
theorem Registered.of_mem_drop (registered : world.Registered) {list other : CommandList}
    (member : list ∈ world.lists) (left : other ∈ (world.drop list).lists) :
    other ∈ world.lists ∧ other.id ≠ list.id := by
  have lists := registered.lists_drop_perm member
  have distinct := ((lists.map CommandList.id).nodup_iff).mp registered.distinct
  refine ⟨lists.symm.subset (List.mem_cons_of_mem list left), ?_⟩
  intro sameId
  exact (List.nodup_cons.mp distinct).1 (sameId ▸ List.mem_map_of_mem left)

theorem pool_drop (world : World σ) (list : CommandList) (read : Category) :
    (world.drop list).device.pool read =
      (world.device.withPool list.allocator.category
        ((world.device.pool list.allocator.category).putBack
          (list.allocator.givenBack list.retirementStamp world.device.held))).pool read := by
  rw [drop, Device.retire_fst]
  cases read <;> rfl

/-- Dropping a list changes pools, the number of undropped lists, and nothing else. -/
theorem drop_frame (world : World σ) (list : CommandList) :
    (world.drop list).device.key = world.device.key ∧
      (world.drop list).device.config = world.device.config ∧
      (world.drop list).device.fence = world.device.fence ∧
      (world.drop list).device.listsOpened = world.device.listsOpened ∧
      (world.drop list).device.liveLists = world.device.liveLists - 1 ∧
      (world.drop list).device.submissions = world.device.submissions ∧
      (world.drop list).device.queue = world.device.queue := by
  obtain ⟨key, config, fence, _, opened, _, submissions, queue⟩ :=
    world.device.withPool_frame list.allocator.category
      ((world.device.pool list.allocator.category).putBack
        (list.allocator.givenBack list.retirementStamp world.device.held))
  rw [drop, Device.retire_fst]
  exact ⟨key, config, fence, opened, rfl, submissions, queue⟩

theorem Effect.registered {after : World σ} (registered : world.Registered)
    (effect : Effect moves world after) : after.Registered := by
  have amended :
      ∀ (named : List ListId) (change : CommandList → CommandList),
        (∀ list, ((change list).id, (change list).device) = (list.id, list.device)) →
          ((amend world.lists named change).map fun list => (list.id, list.device)).Sublist
            (world.lists.map fun list => (list.id, list.device)) := by
    intro named change kept
    rw [map_amend world.lists named kept]
  cases effect with
  | idle => exact registered
  | @rearranged category pool rearranged =>
      obtain ⟨key, _, _, _, opened, _⟩ := world.device.withPool_frame category pool
      exact registered.of_sublist key (Nat.le_of_eq opened.symm) (List.Sublist.refl _)
  | lent lends => exact registered.lend _ _ _
  | recorded member accepted =>
      exact registered.of_sublist rfl (Nat.le_refl _) (amended _ _ fun _ => rfl)
  | closed member opened =>
      exact registered.of_sublist rfl (Nat.le_refl _) (amended _ _ fun _ => rfl)
  | rejected offers own refused =>
      exact registered.of_sublist rfl (Nat.le_refl _) (amended _ _ fun _ => rfl)
  | accepted offers own taken =>
      exact registered.of_sublist rfl (Nat.le_refl _) (amended _ _ fun _ => rfl)
  | @dropped list member =>
      obtain ⟨key, _, _, opened, _⟩ := world.drop_frame list
      exact registered.of_sublist key (Nat.le_of_eq opened.symm) (List.eraseP_sublist.map _)
  | prepared library capacity =>
      exact registered.of_sublist rfl (Nat.le_refl _) (List.Sublist.refl _)
  | moved moved => exact registered.of_sublist rfl (Nat.le_refl _) (List.Sublist.refl _)

theorem Leads.registered {start : World σ} (begun : start.Begins)
    (leads : Leads moves start world) : world.Registered := by
  induction leads with
  | refl =>
      have none := begun.fresh.lists
      exact ⟨by simp [none], by simp [none], by simp [none]⟩
  | tail _ step inductionHypothesis =>
      exact (step.effect inductionHypothesis).registered inductionHypothesis

/-- A property that holds at the beginning of a run and survives every effect holds ever after. -/
theorem Leads.invariant {property : World σ → Prop} {start : World σ} (begun : start.Begins)
    (first : property start)
    (preserved : ∀ {before after : World σ}, Leads moves start before → property before →
      Effect moves before after → property after)
    (leads : Leads moves start world) : property world := by
  induction leads with
  | refl => exact first
  | tail earlier step inductionHypothesis =>
      exact preserved earlier inductionHypothesis
        (step.effect (Leads.registered begun earlier))

end Queued

end World

end CommandQueue
