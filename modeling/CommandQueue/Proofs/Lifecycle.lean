import CommandQueue.Proofs.Replay

/-!
# The life of a list

A list is open, then closed, then submitted, and it never goes back.  It takes
commands while it is open.  `CommandList.Answers` says what it answers to each
recording call, from the arguments of the call alone; `CommandList.Advances`
relates a list to what it is at a later moment of the run.
-/

namespace CommandQueue

namespace ListState

/-- The place of a state on the way from the first one to the last one. -/
def rank : ListState → Nat
  | .opened => 0
  | .closed => 1
  | .submitted => 2

theorem rank_le_rank_submitted (state : ListState) : state.rank ≤ ListState.submitted.rank := by
  cases state <;> decide

theorem rank_le_rank_closed {state : ListState} (unsubmitted : state ≠ .submitted) :
    state.rank ≤ ListState.closed.rank := by
  cases state with
  | submitted => exact absurd rfl unsubmitted
  | _ => decide

end ListState

namespace Call

/-- Lists of the category take such calls. -/
def Suits (category : Category) : Call → Prop
  | .copyRegion _ => True
  | _ => category = .compute

/-- The arguments of the call are right when this is bound and the heap has this capacity. -/
def Fits (capacity : Nat) (bindings : Bindings) : Call → Prop
  | .bindPipeline _ => True
  | .bindTable slot range =>
      slot < tableSlots ∧ range.start + range.count < wordBound ∧
        range.start + range.count ≤ capacity
  | .copyRegion region =>
      region.sourceOffset + region.size ≤ region.source.size ∧
        region.targetOffset + region.size ≤ region.target.size
  | .dispatch _ => bindings.pipeline ≠ none

/-- What is wrong with the arguments of the call; the slot counts before the range. -/
inductive Faulty (capacity : Nat) (list : CommandList) : Call → Error → Prop
  | slot {slot : Nat} {range : DescriptorRange} (beyond : tableSlots ≤ slot) :
      Faulty capacity list (.bindTable slot range) (.slotOutOfRange slot tableSlots)
  | range {slot : Nat} {range : DescriptorRange} (inside : slot < tableSlots)
      (beyond : wordBound ≤ range.start + range.count ∨ capacity < range.start + range.count) :
      Faulty capacity list (.bindTable slot range)
        (.descriptorOutOfRange (min (range.start + range.count) (wordBound - 1)) capacity)
  | bounds {region : CopyRegion}
      (beyond : region.source.size < region.sourceOffset + region.size ∨
        region.target.size < region.targetOffset + region.size) :
      Faulty capacity list (.copyRegion region)
        (.copyOutOfBounds region.sourceOffset region.source.size region.targetOffset
          region.target.size region.size)
  | unbound {grid : Extent} (none : list.bindings.pipeline = none) :
      Faulty capacity list (.dispatch grid) (.noPipelineBound list.id list.category)

theorem suits_iff {call : Call} {category : Category} :
    call.Suits category ↔ ¬ (call.needsCompute = true ∧ category ≠ .compute) := by
  cases call <;> simp [Suits, needsCompute]

end Call

namespace CommandList

variable {list next : CommandList} {call : Call} {capacity : Nat}

/-- A list took a call: it has one more command, and only what the call names is bound anew. -/
structure Takes (list : CommandList) (call : Call) (next : CommandList) : Prop where
  recorded : next.recorded = list.recorded ++ [call.command]
  pipeline : next.bindings.pipeline = call.command.bundle?.or list.bindings.pipeline
  tables : ∀ slot,
    next.bindings.table slot = (call.command.range? slot).or (list.bindings.table slot)
  frame : next =
    { list with
      allocator := { list.allocator with recorded := next.recorded }
      bindings := next.bindings }

/-- What a list answers to a recording call on a device with a heap of the given capacity.  Its
state counts first, then its category, then the arguments. -/
structure Answers (capacity : Nat) (list : CommandList) (call : Call) : Prop where
  accepts_iff : (∃ next, list.record call = .ok next) ↔
    list.state = .opened ∧ call.Suits list.category ∧ call.Fits capacity list.bindings
  late : list.state ≠ .opened →
    list.record call =
      .error (.invalidState list.id list.category list.state call.operation)
  unsupported : list.state = .opened → ¬ call.Suits list.category →
    list.record call = .error (.unsupportedOperation list.id list.category call.operation)
  faulty : list.state = .opened → call.Suits list.category →
    ¬ call.Fits capacity list.bindings →
      ∃ error, call.Faulty capacity list error ∧ list.record call = .error error
  takes : ∀ next, list.record call = .ok next → list.Takes call next

/-- A list and what became of it later. -/
structure Advances (list later : CommandList) : Prop where
  state : list.state.rank ≤ later.state.rank
  recorded : list.recorded <+: later.recorded
  sealed : list.state ≠ .opened →
    later.recorded = list.recorded ∧ later.bindings = list.bindings
  submitted : ∀ value, list.submitted = some value → later.submitted = some value
  fixed : (later.id, later.device, later.category, later.allocator.id) =
    (list.id, list.device, list.category, list.allocator.id)

/-! ## Answers to recording calls -/

theorem record_of_late (late : list.state ≠ .opened) (call : Call) :
    list.record call =
      .error (.invalidState list.id list.category list.state call.operation) := by
  simp [record, ensureOpen, late, invalidState, bind, Except.bind]

theorem record_of_unsupported (opened : list.state = .opened)
    (unsuited : ¬ call.Suits list.category) :
    list.record call =
      .error (.unsupportedOperation list.id list.category call.operation) := by
  have refused : call.needsCompute = true ∧ list.category ≠ .compute := by
    by_contra supported
    exact unsuited (Call.suits_iff.mpr supported)
  simp [record, ensureOpen, opened, ensureSupported, refused, bind, Except.bind]

/-- Once state and category admit a call, its arguments decide. -/
theorem record_of_suits (opened : list.state = .opened) (suits : call.Suits list.category) :
    list.record call =
      (list.ensureArguments call).map fun _ => list.append call.command := by
  have supported := Call.suits_iff.mp suits
  rw [record, ensureOpen, if_pos opened, ensureSupported, if_neg supported]
  cases list.ensureArguments call with
  | error error => rfl
  | ok _ => rfl

theorem ensureInside_eq_ok {range : DescriptorRange}
    (word : range.start + range.count < wordBound)
    (inside : range.start + range.count ≤ capacity) :
    ensureInside capacity range = .ok () := by
  have last : range.end? = some (range.start + range.count) := if_pos word
  simp [ensureInside, last, inside]

theorem ensureInside_eq_error {range : DescriptorRange}
    (beyond : wordBound ≤ range.start + range.count ∨ capacity < range.start + range.count) :
    ensureInside capacity range =
      .error (.descriptorOutOfRange (min (range.start + range.count) (wordBound - 1))
        capacity) := by
  have outside : range.end?.any (· ≤ capacity) = false := by
    by_cases word : range.start + range.count < wordBound
    · have last : range.end? = some (range.start + range.count) := if_pos word
      have past : capacity < range.start + range.count := by omega
      simp [last, past]
    · have none : range.end? = none := if_neg word
      simp [none]
  simp [ensureInside, outside, DescriptorRange.saturatedEnd]

theorem Admitted.heapCapacity_eq (admitted : list.Admitted capacity)
    (compute : list.category = .compute) : list.heapCapacity = some capacity := by
  rw [admitted.heap, compute]
  rfl

theorem Admitted.ensureArguments_of_fits (admitted : list.Admitted capacity)
    (suits : call.Suits list.category) (fits : call.Fits capacity list.bindings) :
    list.ensureArguments call = .ok () := by
  cases call with
  | bindPipeline bundle => rfl
  | bindTable slot range =>
      obtain ⟨present, word, inside⟩ := fits
      have known : ¬ tableSlots ≤ slot := Nat.not_le_of_lt present
      simp only [ensureArguments, if_neg known, admitted.heapCapacity_eq suits]
      exact ensureInside_eq_ok word inside
  | copyRegion region => exact if_pos fits
  | dispatch grid => exact if_pos (Option.isSome_iff_ne_none.mpr fits)

theorem Admitted.ensureArguments_of_not_fits (admitted : list.Admitted capacity)
    (suits : call.Suits list.category) (misfit : ¬ call.Fits capacity list.bindings) :
    ∃ error, call.Faulty capacity list error ∧ list.ensureArguments call = .error error := by
  cases call with
  | bindPipeline bundle => exact absurd trivial misfit
  | bindTable slot range =>
      by_cases beyond : tableSlots ≤ slot
      · exact ⟨_, .slot beyond, if_pos beyond⟩
      · have present : slot < tableSlots := Nat.lt_of_not_le beyond
        have outside : wordBound ≤ range.start + range.count ∨
            capacity < range.start + range.count := by
          by_contra inside
          exact misfit ⟨present, by omega, by omega⟩
        refine ⟨_, .range present outside, ?_⟩
        simp only [ensureArguments, if_neg beyond, admitted.heapCapacity_eq suits]
        exact ensureInside_eq_error outside
  | copyRegion region =>
      have beyond : region.source.size < region.sourceOffset + region.size ∨
          region.target.size < region.targetOffset + region.size := by
        by_contra inside
        exact misfit ⟨by omega, by omega⟩
      exact ⟨_, .bounds beyond, if_neg misfit⟩
  | dispatch grid =>
      have none : list.bindings.pipeline = none := not_not.mp misfit
      refine ⟨_, .unbound none, ?_⟩
      simp [ensureArguments, none]

theorem table_append (slots : list.bindings.tables.length = tableSlots)
    (fits : call.Fits capacity list.bindings) (slot : Nat) :
    (list.append call.command).bindings.table slot =
      (call.command.range? slot).or (list.bindings.table slot) := by
  cases call with
  | bindTable named range =>
      have inside : named < list.bindings.tables.length := by
        rw [slots]
        exact fits.1
      by_cases same : named = slot
      · simp [Call.command, Bindings.table, Command.range?, ← same, inside]
      · simp [Call.command, Bindings.table, Command.range?, same]
  | _ => rfl

theorem takes_append (slots : list.bindings.tables.length = tableSlots)
    (fits : call.Fits capacity list.bindings) :
    list.Takes call (list.append call.command) where
  recorded := rfl
  pipeline := by cases call <;> rfl
  tables := table_append slots fits
  frame := rfl

theorem Admitted.answers (admitted : list.Admitted capacity)
    (slots : list.bindings.tables.length = tableSlots) (call : Call) :
    list.Answers capacity call := by
  have onlyThen : ∀ next, list.record call = .ok next →
      list.state = .opened ∧ call.Suits list.category ∧ call.Fits capacity list.bindings := by
    intro next accepted
    have opened := opened_of_record accepted
    by_cases suits : call.Suits list.category
    · refine ⟨opened, suits, ?_⟩
      by_contra misfit
      obtain ⟨error, _, refused⟩ := admitted.ensureArguments_of_not_fits suits misfit
      rw [record_of_suits opened suits, refused] at accepted
      cases accepted
    · rw [record_of_unsupported opened suits] at accepted
      cases accepted
  refine ⟨⟨?_, ?_⟩, ?_, record_of_unsupported, ?_, ?_⟩
  · rintro ⟨next, accepted⟩
    exact onlyThen next accepted
  · rintro ⟨opened, suits, fits⟩
    refine ⟨list.append call.command, ?_⟩
    rw [record_of_suits opened suits, admitted.ensureArguments_of_fits suits fits]
    rfl
  · exact fun late => record_of_late late call
  · intro opened suits misfit
    obtain ⟨error, faulty, refused⟩ := admitted.ensureArguments_of_not_fits suits misfit
    refine ⟨error, faulty, ?_⟩
    rw [record_of_suits opened suits, refused]
    rfl
  · intro next accepted
    obtain ⟨_, _, fits⟩ := onlyThen next accepted
    rw [eq_append_of_record accepted]
    exact takes_append slots fits

theorem close_of_late (late : list.state ≠ .opened) :
    list.close = .error (.invalidState list.id list.category list.state "close") := by
  simp [close, ensureOpen, late, invalidState, bind, Except.bind]

/-! ## What becomes of a list -/

namespace Advances

theorem refl (list : CommandList) : list.Advances list :=
  ⟨Nat.le_refl _, List.prefix_rfl, fun _ => ⟨rfl, rfl⟩, fun _ known => known, rfl⟩

/-- A list that is past being open stays so. -/
theorem state_ne_opened {later : CommandList} (advances : list.Advances later)
    (shut : list.state ≠ .opened) : later.state ≠ .opened := by
  intro opened
  have onward := advances.state
  rw [opened] at onward
  cases known : list.state with
  | opened => exact shut known
  | _ =>
      rw [known] at onward
      exact absurd onward (by decide)

theorem trans {middle later : CommandList} (first : list.Advances middle)
    (second : middle.Advances later) : list.Advances later := by
  refine ⟨Nat.le_trans first.state second.state, first.recorded.trans second.recorded, ?_, ?_,
    second.fixed.trans first.fixed⟩
  · intro shut
    obtain ⟨firstRecorded, firstBindings⟩ := first.sealed shut
    obtain ⟨recorded, bindings⟩ := second.sealed (first.state_ne_opened shut)
    exact ⟨recorded.trans firstRecorded, bindings.trans firstBindings⟩
  · exact fun value known => second.submitted value (first.submitted value known)

theorem append (opened : list.state = .opened) (command : Command) :
    list.Advances (list.append command) where
  state := Nat.le_refl _
  recorded := List.prefix_append _ _
  sealed := fun shut => absurd opened shut
  submitted := fun _ known => known
  fixed := rfl

theorem close (opened : list.state = .opened) :
    list.Advances { list with state := .closed } where
  state := by
    rw [opened]
    exact Nat.zero_le _
  recorded := List.prefix_rfl
  sealed := fun _ => ⟨rfl, rfl⟩
  submitted := fun _ known => known
  fixed := rfl

theorem freeze (unsubmitted : list.state ≠ .submitted) : list.Advances list.freeze where
  state := ListState.rank_le_rank_closed unsubmitted
  recorded := List.prefix_rfl
  sealed := fun _ => ⟨rfl, rfl⟩
  submitted := fun _ known => known
  fixed := rfl

theorem submit (unvalued : list.submitted = none) (value : FenceValue) :
    list.Advances (list.freeze.markSubmitted value) where
  state := ListState.rank_le_rank_submitted _
  recorded := List.prefix_rfl
  sealed := fun _ => ⟨rfl, rfl⟩
  submitted := by
    intro earlier known
    rw [unvalued] at known
    cases known
  fixed := rfl

end Advances

/-- A list has a value exactly when it is submitted. -/
theorem lasting_valued (device capacity : Nat) :
    Lasting device capacity fun list => list.submitted.isSome = true ↔ list.state = .submitted where
  opened _ _ _ _ := by simp [CommandList.opened]
  appended _ valued := valued
  closed {list} opened valued := by
    change list.submitted.isSome = true ↔ ListState.closed = .submitted
    rw [valued, opened]
    decide
  frozen {list} unsubmitted valued := by
    change list.submitted.isSome = true ↔ ListState.closed = .submitted
    rw [valued]
    exact ⟨fun submitted => absurd submitted unsubmitted, nofun⟩
  submitted _ _ _ := ⟨fun _ => rfl, fun _ => rfl⟩

end CommandList

namespace Device

variable {σ : Type} [Queue σ]

/-- A device takes no lists together with one of another device, and changes none of them. -/
theorem execute_of_foreign {device : Device σ} {slice : List CommandList} {list : CommandList}
    (offered : list ∈ slice) (foreign : list.device ≠ device.key) :
    (device.execute slice).device = device ∧ (device.execute slice).lists = slice := by
  cases check : device.ensureAllOwn slice with
  | error error =>
      rw [execute_of_refused check]
      exact ⟨rfl, rfl⟩
  | ok _ => exact absurd (ensureAllOwn_eq_ok_iff.mp check list offered).1 foreign

end Device

namespace World

variable {σ : Type} {world : World σ}

theorem Registered.map_eq_amend (registered : world.Registered) {list : CommandList}
    (member : list ∈ world.lists) (change : CommandList → CommandList) :
    amend world.lists [list.id] change =
      world.lists.map fun each => if each.id = list.id then change list else each := by
  apply List.map_congr_left
  intro each present
  by_cases same : each.id = list.id
  · have equal := registered.eq_of_id present member same
    simp [equal]
  · simp [same]

theorem Registered.close_of_opened (registered : world.Registered) {list : CommandList}
    (member : list ∈ world.lists) (opened : list.state = .opened) :
    world.close list =
      { world with
        lists := world.lists.map fun each =>
          if each.id = list.id then { list with state := .closed } else each } := by
  have closed : list.close = .ok { list with state := .closed } :=
    CommandList.close_eq_ok_iff.mpr ⟨opened, rfl⟩
  have kept :
      keep world.lists [{ list with state := .closed }] =
        amend world.lists [list.id] fun each => { each with state := .closed } :=
    keep_map registered [list] (by simpa using member)
      (fun each => { each with state := .closed }) (fun _ _ => rfl)
  rw [registered.map_eq_amend member] at kept
  simp only [close, closed, kept]

section Queued

variable [Queue σ] {moves : Clocked σ → Clocked σ → Prop} {after later start : World σ}

theorem Effect.listsOpened_le (effect : Effect moves world after) :
    world.device.listsOpened ≤ after.device.listsOpened := by
  cases effect with
  | @rearranged category pool rearranged =>
      obtain ⟨_, _, _, _, opened, _⟩ := world.device.withPool_frame category pool
      exact Nat.le_of_eq opened.symm
  | lent lends => exact Nat.le_succ _
  | @dropped list member => exact Nat.le_of_eq (world.drop_frame list).2.2.2.1.symm
  | _ => exact Nat.le_refl _

/-- After a step each list is a new one or has advanced. -/
theorem Effect.advances (registered : world.Registered)
    (unsubmitted : ∀ list ∈ world.lists, list.state ≠ .submitted → list.submitted = none)
    (effect : Effect moves world after) :
    ∀ list ∈ after.lists, world.device.listsOpened < list.id.number ∨
      ∃ earlier ∈ world.lists, earlier.Advances list := by
  have same : ∀ list ∈ world.lists, world.device.listsOpened < list.id.number ∨
      ∃ earlier ∈ world.lists, earlier.Advances list :=
    fun list member => Or.inr ⟨list, member, CommandList.Advances.refl list⟩
  cases effect with
  | lent lends =>
      intro list member
      rcases List.mem_append.mp member with earlier | new
      · exact same list earlier
      · left
        rw [List.mem_singleton.mp new]
        exact Nat.lt_succ_self _
  | @recorded recorder call member accepted =>
      refine forall_amend same ?_
      intro list present chosen
      have equal := registered.eq_of_id present member (List.mem_singleton.mp chosen)
      subst equal
      exact Or.inr ⟨list, present, .append (CommandList.opened_of_record accepted) call.command⟩
  | @closed closing member opened =>
      refine forall_amend same ?_
      intro list present chosen
      have equal := registered.eq_of_id present member (List.mem_singleton.mp chosen)
      subst equal
      exact Or.inr ⟨list, present, .close opened⟩
  | rejected offers own refused =>
      refine forall_amend same ?_
      intro list present chosen
      have offered := registered.mem_of_id (fun each member => (own each member).1) present chosen
      exact Or.inr ⟨list, present, .freeze (own list offered).2⟩
  | accepted offers own taken =>
      refine forall_amend same ?_
      intro list present chosen
      have offered := registered.mem_of_id (fun each member => (own each member).1) present chosen
      have unvalued := unsubmitted list present (own list offered).2
      exact Or.inr ⟨list, present, .submit unvalued _⟩
  | dropped member => exact fun list left => same list (registered.of_mem_drop member left).1
  | _ => exact same

/-- What a run makes of the lists it finds, as long as it does not drop them. -/
theorem Leads.advances (begun : start.Begins) (reached : Leads moves start world)
    (onward : Leads moves world later) :
    ∀ list ∈ world.lists, ∀ after ∈ later.lists, after.id = list.id → list.Advances after := by
  intro list member
  have registered := Leads.registered begun reached
  suffices both : list.id.number ≤ later.device.listsOpened ∧
      ∀ after ∈ later.lists, after.id = list.id → list.Advances after from both.2
  induction onward with
  | refl =>
      refine ⟨registered.numbered list member, ?_⟩
      intro after present sameId
      rw [registered.eq_of_id present member sameId]
      exact CommandList.Advances.refl list
  | @tail before after earlier step inductionHypothesis =>
      obtain ⟨numbered, advanced⟩ := inductionHypothesis
      have run := reached.trans earlier
      have unsubmitted := Leads.forall_lists (CommandList.lasting_unsubmitted _ _) begun run
      have known := Leads.registered begun run
      have effect := step.effect known
      refine ⟨Nat.le_trans numbered effect.listsOpened_le, ?_⟩
      intro last present sameId
      rcases effect.advances known unsubmitted last present with new | ⟨middle, earlierMember, on⟩
      · -- The numbers of new lists are above those of lists that exist.
        rw [sameId] at new
        exact absurd numbered (Nat.not_le_of_lt new)
      · have middleId : last.id = middle.id := congrArg Prod.fst on.fixed
        exact (advanced middle earlierMember (middleId.symm.trans sameId)).trans on

/-- The rules that all lists of a world keep to, now and from now on. -/
structure Orders (moves : Clocked σ → Clocked σ → Prop) (world : World σ) : Prop where
  answers : ∀ list ∈ world.lists, ∀ call, list.Answers world.device.heap.capacity call
  takes : ∀ list ∈ world.lists, ∀ call next, list.record call = .ok next →
    (world.record list call).device = world.device ∧
      (world.record list call).lists =
        world.lists.map fun each => if each.id = list.id then next else each
  refuses : ∀ list ∈ world.lists, ∀ call error, list.record call = .error error →
    world.record list call = world
  closes : ∀ list ∈ world.lists, list.state = .opened →
    world.close list =
      { world with
        lists := world.lists.map fun each =>
          if each.id = list.id then { list with state := .closed } else each }
  staysShut : ∀ list ∈ world.lists, list.state ≠ .opened →
    list.close = .error (.invalidState list.id list.category list.state "close") ∧
      world.close list = world
  elsewhere : ∀ list ∈ world.lists, ∀ (other : Device σ) (slice : List CommandList),
    other.key ≠ world.device.key → list ∈ slice →
      (other.execute slice).device = other ∧ (other.execute slice).lists = slice
  valued : ∀ list ∈ world.lists, list.submitted.isSome = true ↔ list.state = .submitted
  onward : ∀ later, Leads moves world later → ∀ list ∈ world.lists, ∀ after ∈ later.lists,
    after.id = list.id → list.Advances after

/-- Lists of every world of a run keep to the rules. -/
theorem orders_of_leads (begun : start.Begins) (leads : Leads moves start world) :
    world.Orders moves := by
  have registered := Leads.registered begun leads
  have admitted := Leads.forall_lists (CommandList.lasting_admitted _ _) begun leads
  have replayed := Leads.forall_lists (CommandList.lasting_replay _ _) begun leads
  have capacity := (Leads.fixed begun leads).2
  refine ⟨?_, ?_, ?_, ?_, ?_, ?_, ?_, ?_⟩
  · intro list member call
    have slots : list.bindings.tables.length = tableSlots := by
      rw [replayed list member, Bindings.length_tables_replay]
    rw [capacity]
    exact (admitted list member).answers slots call
  · intro list member call next accepted
    have appended := CommandList.eq_append_of_record accepted
    subst appended
    rw [registered.record_of_accepted member accepted]
    exact ⟨rfl, registered.map_eq_amend member _⟩
  · intro list member call error refused
    rw [record, refused]
  · exact fun list member opened => registered.close_of_opened member opened
  · intro list member shut
    have refused := CommandList.close_of_late shut
    refine ⟨refused, ?_⟩
    rw [close, refused]
  · intro list member other slice different offered
    refine Device.execute_of_foreign offered ?_
    rw [registered.own list member]
    exact different.symm
  · exact Leads.forall_lists (CommandList.lasting_valued _ _) begun leads
  · exact fun later onward => Leads.advances begun leads onward

end Queued

/-- The list that waits for its turn on a small device. -/
theorem orders_of_leads_busy :
    (small (SoftQueue.new SoftQueue.defaultLabel)).Begins ∧
      Leads SoftQueue.Runs (small (SoftQueue.new SoftQueue.defaultLabel))
        (busy (SoftQueue.new SoftQueue.defaultLabel)) ∧
      (busy (SoftQueue.new SoftQueue.defaultLabel)).Orders SoftQueue.Runs ∧
      (busy (SoftQueue.new SoftQueue.defaultLabel)).lists = [takenCopy] :=
  ⟨begins_soft, leads_busy rfl, orders_of_leads begins_soft (leads_busy rfl), rfl⟩

end World

end CommandQueue
