import CommandQueue.Proofs.Particles
import CommandQueue.Proofs.Simulated

/-!
# Interleavings of the workers

In a frame each of the workers records a list, hands it over, waits until the
queue has run it, and lets it go.  `Simulation.Round` keeps track of who has come
how far.  An order of steps is an interleaving when it brings every worker from
the beginning to the end.

`Simulation.Moment` is what holds at each moment of each interleaving: no pool
has grown, the timeline has no gaps, and the batches whose lists were run are
moved.
-/

namespace CommandQueue

/-- The pool has the allocators that it began with.  Those that are not lent are empty, and their
stamps are completed. -/
structure Pool.Stocked (category : Category) (lent : Nat) (completed : FenceValue) (pool : Pool) :
    Prop where
  live : pool.live = Demo.Simulation.workers
  serial : pool.nextSerial = Demo.Simulation.workers
  idle : pool.free.length + lent = Demo.Simulation.workers
  sorted : ∀ allocator ∈ pool.free, allocator.category = category
  empty : ∀ allocator ∈ pool.free, allocator.frozenBy = none
  reached : ∀ allocator ∈ pool.free, allocator.stamp ≤ completed

namespace Pool.Stocked

variable {pool next : Pool} {category : Category} {lent : Nat} {completed : FenceValue}

theorem later (stocked : pool.Stocked category lent completed) {value : FenceValue}
    (grown : completed ≤ value) : pool.Stocked category lent value :=
  { stocked with
    reached := fun allocator member => Nat.le_trans (stocked.reached allocator member) grown }

/-- As long as one allocator is idle, one of them is lent and none is created. -/
theorem of_lends (stocked : pool.Stocked category lent completed)
    (room : lent < Demo.Simulation.workers) {held : ListId → Bool}
    {result : Except Error Allocator} (lends : pool.Lends completed held next result) :
    ∃ allocator, result = .ok allocator ∧ allocator.category = category ∧
      allocator.frozenBy = none ∧ allocator.recorded = [] ∧
      next.Stocked category (lent + 1) completed := by
  cases lends with
  | @reused front back allocator shape skipped reached idle =>
      have member : allocator ∈ pool.free := by
        rw [shape]
        exact List.mem_append_right front List.mem_cons_self
      have others : ∀ other ∈ front ++ back, other ∈ pool.free := by
        intro other chosen
        rw [shape]
        exact ((List.sublist_cons_self allocator back).append_left front).subset chosen
      have count := stocked.idle
      rw [shape, List.length_append, List.length_cons] at count
      refine ⟨_, rfl, stocked.sorted allocator member, rfl, rfl, stocked.live, stocked.serial,
        ?_, fun other chosen => stocked.sorted other (others other chosen),
        fun other chosen => stocked.empty other (others other chosen),
        fun other chosen => stocked.reached other (others other chosen)⟩
      rw [List.length_append]
      omega
  | @stuck front back allocator shape skipped reached busy =>
      have member : allocator ∈ pool.free := by
        rw [shape]
        exact List.mem_append_right front List.mem_cons_self
      -- An idle allocator is empty, so the queue cannot refer to what is recorded on it.
      rw [Allocator.inFlight, stocked.empty allocator member] at busy
      cases busy
  | missed skipped creates =>
      have some : 0 < pool.free.length := by
        have count := stocked.idle
        omega
      obtain ⟨allocator, member⟩ := List.exists_mem_of_length_pos some
      have reached := stocked.reached allocator member
      exact absurd reached (Nat.not_le_of_lt (skipped allocator member))

/-- An allocator to which the queue refers no more is back for the next request. -/
theorem putBack (stocked : pool.Stocked category (lent + 1) completed) {allocator : Allocator}
    (sorted : allocator.category = category) {held : ListId → Bool}
    (idle : allocator.inFlight held = false) {stamp : FenceValue} (reached : stamp ≤ completed) :
    (pool.putBack (allocator.givenBack stamp held)).Stocked category lent completed := by
  have count := stocked.idle
  have given : allocator.givenBack stamp held = { allocator with stamp := stamp }.cleared := by
    rw [Allocator.givenBack, idle]
    rfl
  rw [given]
  refine ⟨stocked.live, stocked.serial, ?_, ?_, ?_, ?_⟩
  · rw [free_putBack, List.length_append, List.length_singleton]
    omega
  · rw [free_putBack, List.forall_mem_append]
    exact ⟨stocked.sorted, List.forall_mem_singleton.mpr sorted⟩
  · rw [free_putBack, List.forall_mem_append]
    exact ⟨stocked.empty, List.forall_mem_singleton.mpr rfl⟩
  · rw [free_putBack, List.forall_mem_append]
    exact ⟨stocked.reached, List.forall_mem_singleton.mpr reached⟩

end Pool.Stocked

/-- A dispatch visits its groups with the buffers that the tables name. -/
theorem Execution.dispatch_of_resolved {heap : DescriptorHeap} {bindings : Bindings}
    {bundle : Bundle} {tables : List (List Buffer)} (bound : bindings.pipeline = some bundle)
    (resolved : resolveTables heap (bindings.tables.take bundle.slots) = .ok tables)
    (grid : Extent) (scene : Scene) :
    (dispatch heap bindings grid scene).1 = (bundle.program.visit grid tables scene).1 := by
  simp only [dispatch, bound, resolved]

namespace Demo.Simulation

/-! ## Who has come how far -/

/-- How far a worker has come in a frame. -/
inductive Place where
  /-- The worker has not begun. -/
  | resting
  /-- The worker has recorded a list. -/
  | recorded
  /-- The queue has taken the list. -/
  | waiting
  /-- The queue has run the list. -/
  | served
  /-- The worker has let the list go. -/
  | gone
  deriving DecidableEq

/-- How far all workers have come. -/
structure Round where
  places : List Place
  /-- The workers whose lists wait in the queue, in the order in which they were taken. -/
  line : List Nat
  /-- The workers whose lists were run, in this order. -/
  ran : List Nat

namespace Round

def start : Round := ⟨List.replicate workers .resting, [], []⟩

/-- The round after a step, if the step can be taken now. -/
def take? (round : Round) : Step → Option Round
  | .record worker =>
      if round.places[worker]? = some .resting then
        some { round with places := round.places.set worker .recorded }
      else
        none
  | .handOver worker =>
      if round.places[worker]? = some .recorded then
        some
          { round with
            places := round.places.set worker .waiting
            line := round.line ++ [worker] }
      else
        none
  | .run =>
      match round.line with
      | [] => none
      | worker :: rest =>
          some ⟨round.places.set worker .served, rest, round.ran ++ [worker]⟩
  | .letGo worker =>
      if round.places[worker]? = some .served then
        some { round with places := round.places.set worker .gone }
      else
        none

/-- Every worker has let its list go. -/
def finished (round : Round) : Bool := round.places.all (· = .gone)

/-- What the places tell about the queue. -/
structure Sound (round : Round) : Prop where
  length : round.places.length = workers
  line_iff : ∀ worker, worker ∈ round.line ↔ round.places[worker]? = some .waiting
  ran_iff : ∀ worker, worker ∈ round.ran ↔
    round.places[worker]? = some .served ∨ round.places[worker]? = some .gone
  lined : round.line.Nodup
  once : round.ran.Nodup

theorem sound_start : start.Sound := by
  refine ⟨rfl, ?_, ?_, List.nodup_nil, List.nodup_nil⟩
  · intro worker
    simp [start, List.getElem?_replicate]
  · intro worker
    simp [start, List.getElem?_replicate]

variable {round next : Round}

theorem Sound.lt_workers (sound : round.Sound) {worker : Nat} {place : Place}
    (present : round.places[worker]? = some place) : worker < workers := by
  rw [← sound.length]
  exact (List.getElem?_eq_some_iff.mp present).1

theorem Sound.getElem?_set (sound : round.Sound) {worker : Nat} (known : worker < workers)
    (place : Place) (other : Nat) :
    (round.places.set worker place)[other]? =
      if other = worker then some place else round.places[other]? := by
  rw [List.getElem?_set]
  by_cases same : worker = other
  · subst same
    simp [sound.length, known]
  · simp [same, Ne.symm same]

/-- One worker goes to another place, and the queue knows it. -/
theorem Sound.set (sound : round.Sound) {worker : Nat} (known : worker < workers) (place : Place)
    {line ran : List Nat} (lined : line.Nodup) (once : ran.Nodup)
    (waits : worker ∈ line ↔ place = .waiting)
    (served : worker ∈ ran ↔ place = .served ∨ place = .gone)
    (sameLine : ∀ other, other ≠ worker → (other ∈ line ↔ other ∈ round.line))
    (sameRan : ∀ other, other ≠ worker → (other ∈ ran ↔ other ∈ round.ran)) :
    (⟨round.places.set worker place, line, ran⟩ : Round).Sound := by
  refine ⟨(List.length_set ..).trans sound.length, ?_, ?_, lined, once⟩
  · intro other
    rw [sound.getElem?_set known]
    by_cases same : other = worker
    · simp [same, waits]
    · rw [if_neg same, sameLine other same]
      exact sound.line_iff other
  · intro other
    rw [sound.getElem?_set known]
    by_cases same : other = worker
    · simp [same, served]
    · rw [if_neg same, sameRan other same]
      exact sound.ran_iff other

theorem nodup_concat {workers : List Nat} (once : workers.Nodup) {worker : Nat}
    (new : worker ∉ workers) : (workers ++ [worker]).Nodup := by
  refine List.nodup_append.mpr ⟨once, List.nodup_singleton _, ?_⟩
  rintro other member _ last rfl
  rw [List.mem_singleton.mp last] at member
  exact new member

theorem Sound.take? (sound : round.Sound) {step : Step} (taken : round.take? step = some next) :
    next.Sound := by
  cases step with
  | record worker =>
      obtain ⟨present, shape⟩ := Option.ite_some_none_eq_some.mp taken
      subst shape
      refine sound.set (sound.lt_workers present) .recorded sound.lined sound.once ?_ ?_
        (fun _ _ => Iff.rfl) (fun _ _ => Iff.rfl)
      · simp [sound.line_iff, present]
      · simp [sound.ran_iff, present]
  | handOver worker =>
      obtain ⟨present, shape⟩ := Option.ite_some_none_eq_some.mp taken
      subst shape
      have new : worker ∉ round.line := by simp [sound.line_iff, present]
      refine sound.set (sound.lt_workers present) .waiting (nodup_concat sound.lined new)
        sound.once ?_ ?_ ?_ (fun _ _ => Iff.rfl)
      · simp
      · simp [sound.ran_iff, present]
      · intro other different
        simp [different]
  | run =>
      rw [Round.take?] at taken
      cases line : round.line with
      | nil =>
          rw [line] at taken
          cases taken
      | cons worker rest =>
          rw [line] at taken
          cases taken
          have lined := sound.lined
          rw [line, List.nodup_cons] at lined
          have present : round.places[worker]? = some .waiting := by
            rw [← sound.line_iff, line]
            exact List.mem_cons_self
          -- Who is first in line still waits, so its list has not run.
          have new : worker ∉ round.ran := by simp [sound.ran_iff, present]
          refine sound.set (sound.lt_workers present) .served lined.2
            (nodup_concat sound.once new) ?_ ?_ ?_ ?_
          · simp [lined.1]
          · simp
          · intro other different
            simp [line, different]
          · intro other different
            simp [different]
  | letGo worker =>
      obtain ⟨present, shape⟩ := Option.ite_some_none_eq_some.mp taken
      subst shape
      refine sound.set (sound.lt_workers present) .gone sound.lined sound.once ?_ ?_
        (fun _ _ => Iff.rfl) (fun _ _ => Iff.rfl)
      · simp [sound.line_iff, present]
      · simp [sound.ran_iff, present]

end Round

/-- The steps bring every worker from the beginning of a frame to its end. -/
def Interleaves (steps : List Step) : Prop :=
  (steps.foldlM Round.take? Round.start).any Round.finished = true

instance (steps : List Step) : Decidable (Interleaves steps) :=
  inferInstanceAs (Decidable (_ = true))

example : Interleaves inTurn := by decide

/-! ## The device of the simulation -/

def heapWith (count : Nat) : DescriptorHeap :=
  ⟨config.descriptorHeapCapacity, count,
    (List.range count).reverse.map fun number => (number, batchBuffer number)⟩

def furnished : DescriptorHeap := heapWith workers

/-- The buffers that the simulation sets aside. -/
def stage : Stage :=
  ⟨batchBuffer 0, ⟨workers, batchBytes⟩, (List.range workers).map fun number => ⟨number, 1⟩⟩

def workerCommands (worker : Nat) : List Command :=
  (workerCalls ⟨worker, 1⟩).map Call.command

theorem cases_of_lt_workers {worker : Nat} (known : worker < workers) :
    worker = 0 ∨ worker = 1 ∨ worker = 2 ∨ worker = 3 := by
  change worker < 4 at known
  omega

theorem ranges_stage {worker : Nat} (known : worker < workers) :
    stage.ranges[worker]? = some ⟨worker, 1⟩ := by
  rcases cases_of_lt_workers known with rfl | rfl | rfl | rfl <;> rfl

/-- Running what a worker recorded moves its batch. -/
theorem memory_run {worker : Nat} (known : worker < workers) (list : ListId) (scene : Scene) :
    ((⟨list, .compute, workerCommands worker⟩ : Stream).run furnished scene).scene.memory =
      moved scene.memory worker := by
  have resolved : Execution.resolveTables furnished [some ⟨worker, 1⟩] =
      .ok [[batchBuffer worker]] := by
    rcases cases_of_lt_workers known with rfl | rfl | rfl | rfl <;> rfl
  change (Execution.dispatch furnished
    ⟨some bundle, Bindings.none.tables.set 0 (some ⟨worker, 1⟩)⟩ grid scene).1.memory = _
  have program : bundle.program = integrate := rfl
  rw [Execution.dispatch_of_resolved rfl resolved, program, ← memory_visitBatch, visitBatch_eq]

def drafted (list : CommandList) (calls : List Call) : CommandList :=
  calls.foldl (fun each call => each.append call.command) list

theorem foldlM_workerCalls {worker : Nat} (known : worker < workers) (list : ListId)
    (device : Nat) (allocator : Allocator) :
    (workerCalls ⟨worker, 1⟩).foldlM CommandList.record
        (CommandList.opened list device .compute allocator (some furnished.capacity)) =
      .ok (drafted
        (CommandList.opened list device .compute allocator (some furnished.capacity))
        (workerCalls ⟨worker, 1⟩)) := by
  rcases cases_of_lt_workers known with rfl | rfl | rfl | rfl <;> rfl

/-- From a stocked pool a list is opened on an empty allocator. -/
theorem openList_of_stocked {device : Device SoftQueue} {category : Category} {lent : Nat}
    (stocked : (device.pool category).Stocked category lent device.fence.completed)
    (room : lent < workers) :
    ∃ allocator pool, allocator.category = category ∧ allocator.frozenBy = none ∧
      allocator.recorded = [] ∧
      pool.Stocked category (lent + 1) device.fence.completed ∧
      (device.openList category).result =
        .ok (CommandList.opened ⟨device.listsOpened + 1⟩ device.key category allocator
          (if category.usesDescriptors then some device.heap.capacity else none)) ∧
      (device.openList category).state =
        { device.withPool category pool with
          listsOpened := device.listsOpened + 1
          liveLists := device.liveLists + 1 } := by
  obtain ⟨allocator, granted, sorted, empty, unused, left⟩ :=
    stocked.of_lends room (device.lends_requested category)
  have opened := Device.openList_of_lent granted
  exact ⟨allocator, _, sorted, empty, unused, left, congrArg Outcome.result opened,
    congrArg Outcome.state opened⟩

/-- The soft queue takes a list of its device that it has not taken yet. -/
theorem execute_singleton {device : Device SoftQueue} {list : CommandList}
    (own : list.device = device.key) (fresh : list.state ≠ .submitted) :
    (device.execute [list]).result = .ok (device.fence.issued + 1) ∧
      (device.execute [list]).lists = [list.freeze.markSubmitted (device.fence.issued + 1)] ∧
      (device.execute [list]).device =
        { device with
          queue := device.queue.accept ⟨device.fence.issued + 1, [list.freeze.stream]⟩
          fence := ⟨device.fence.issued + 1, device.fence.completed⟩
          submissions := device.submissions + 1 } := by
  have accepted : device.ensureAllOwn [list] = .ok () := by
    refine Device.ensureAllOwn_eq_ok_iff.mpr ?_
    exact List.forall_mem_singleton.mpr ⟨own, fresh⟩
  obtain ⟨after, lists, result⟩ := Device.execute_of_taken accepted rfl
  exact ⟨result, lists, after⟩

/-! ## Moments of a frame -/

/-- The list was recorded by its worker and can be handed over. -/
structure Drafted (worker : Nat) (list : CommandList) : Prop where
  device : list.device = 0
  state : list.state = .opened
  category : list.category = .compute
  sorted : list.allocator.category = .compute
  unfrozen : list.allocator.frozenBy = none
  recorded : list.recorded = workerCommands worker

theorem drafted_opened {worker : Nat} (list : ListId) (heapCapacity : Option Nat)
    {allocator : Allocator} (sorted : allocator.category = .compute)
    (empty : allocator.frozenBy = none) (unused : allocator.recorded = []) :
    Drafted worker
      (drafted (CommandList.opened list 0 .compute allocator heapCapacity)
        (workerCalls ⟨worker, 1⟩)) := by
  refine ⟨rfl, rfl, rfl, sorted, empty, ?_⟩
  change ((allocator.recorded ++ [_]) ++ [_]) ++ [_] = _
  rw [unused]
  rfl

theorem Drafted.stream_freeze {worker : Nat} {list : CommandList} (ready : Drafted worker list) :
    list.freeze.stream = ⟨list.id, .compute, workerCommands worker⟩ := by
  change (⟨(some (list.allocator.frozenBy.getD list.id)).getD list.id, list.category,
    list.recorded⟩ : Stream) = _
  rw [ready.unfrozen, ready.category, ready.recorded]
  rfl

/-- The list was handed over with everything recorded on its allocator. -/
structure Handed (list : CommandList) : Prop where
  sorted : list.allocator.category = .compute
  frozen : list.allocator.frozenBy = some list.id

/-- What a worker has at hand when it has come so far. -/
inductive AtHand (worker : Nat) (completed : FenceValue) : Place → Option CommandList → Prop
  | resting : AtHand worker completed .resting none
  | recorded {list : CommandList} (drafted : Drafted worker list) :
      AtHand worker completed .recorded (some list)
  | waiting {list : CommandList} (handed : Handed list) :
      AtHand worker completed .waiting (some list)
  | served {list : CommandList} {value : FenceValue} (handed : Handed list)
      (submitted : list.submitted = some value) (reached : value ≤ completed) :
      AtHand worker completed .served (some list)
  | gone : AtHand worker completed .gone none

theorem AtHand.later {worker : Nat} {completed value : FenceValue} {place : Place}
    {list : Option CommandList} (atHand : AtHand worker completed place list)
    (grown : completed ≤ value) : AtHand worker value place list := by
  cases atHand with
  | resting => exact .resting
  | recorded drafted => exact .recorded drafted
  | waiting handed => exact .waiting handed
  | served handed submitted reached =>
      exact .served handed submitted (Nat.le_trans reached grown)
  | gone => exact .gone

section Desks

variable {round : Round} {completed opened : Nat} {lists : List (Option CommandList)} {worker : Nat}

/-- The number of workers with a list. -/
def busy (lists : List (Option CommandList)) : Nat := lists.countP Option.isSome

/-- The streams of the list that a worker has handed over. -/
def filed (lists : List (Option CommandList)) (worker : Nat) : List Stream :=
  (deskOf lists worker).toList.map fun list => ⟨list.id, .compute, workerCommands worker⟩

/-- The value that the list of a worker waits for. -/
def awaited (lists : List (Option CommandList)) (worker : Nat) : Option FenceValue :=
  (deskOf lists worker).bind CommandList.submitted

/-- Every worker has at hand what it should have, and no two lists have one identity. -/
structure Seated (round : Round) (completed opened : Nat) (lists : List (Option CommandList)) :
    Prop where
  length : lists.length = workers
  atHand : ∀ worker place, round.places[worker]? = some place →
    AtHand worker completed place (deskOf lists worker)
  numbered : ∀ worker list, deskOf lists worker = some list → list.id.number ≤ opened
  distinct : ∀ first second left right, deskOf lists first = some left →
    deskOf lists second = some right → left.id = right.id → first = second

theorem deskOf_set (known : worker < lists.length) (list : Option CommandList) (other : Nat) :
    deskOf (lists.set worker list) other = if other = worker then list else deskOf lists other := by
  rw [deskOf, deskOf, List.getElem?_set]
  by_cases same : worker = other
  · subst same
    simp [known]
  · simp [same, Ne.symm same]

theorem deskOf_eq_getElem (known : worker < lists.length) :
    deskOf lists worker = lists[worker] := by
  simp [deskOf, known]

/-- The number of workers with a list after one of them took or left one. -/
theorem busy_set (known : worker < lists.length) (list : Option CommandList) :
    busy (lists.set worker list) + (if (deskOf lists worker).isSome then 1 else 0) =
      busy lists + if list.isSome then 1 else 0 := by
  -- `List.countP_set` takes the old list off, which must have been counted.
  have counted : (if (deskOf lists worker).isSome then 1 else 0) ≤ busy lists := by
    split
    · rename_i taken
      rw [deskOf_eq_getElem known] at taken
      exact List.countP_pos_iff.mpr ⟨_, List.getElem_mem known, taken⟩
    · exact Nat.zero_le _
  rw [deskOf_eq_getElem known] at counted ⊢
  rw [busy, busy] at *
  rw [List.countP_set known]
  omega

/-- Where a worker has no list, not all workers have one. -/
theorem Seated.busy_lt (seated : Seated round completed opened lists) (known : worker < workers)
    (free : deskOf lists worker = none) : busy lists < workers := by
  have inside : worker < lists.length := seated.length ▸ known
  rw [busy, ← seated.length]
  refine Nat.lt_of_le_of_ne List.countP_le_length ?_
  intro all
  have taken := List.countP_eq_length.mp all _ (List.getElem_mem inside)
  rw [← deskOf_eq_getElem inside, free] at taken
  cases taken

theorem Seated.free (seated : Seated round completed opened lists)
    (present : round.places[worker]? = some .resting) : deskOf lists worker = none := by
  have atHand := seated.atHand worker .resting present
  generalize deskOf lists worker = held at atHand
  cases atHand
  rfl

theorem Seated.drafted (seated : Seated round completed opened lists)
    (present : round.places[worker]? = some .recorded) :
    ∃ list, deskOf lists worker = some list ∧ Drafted worker list := by
  have atHand := seated.atHand worker .recorded present
  generalize deskOf lists worker = held at atHand
  cases atHand with
  | recorded drafted => exact ⟨_, rfl, drafted⟩

theorem Seated.handed (seated : Seated round completed opened lists)
    (present : round.places[worker]? = some .waiting) :
    ∃ list, deskOf lists worker = some list ∧ Handed list := by
  have atHand := seated.atHand worker .waiting present
  generalize deskOf lists worker = held at atHand
  cases atHand with
  | waiting handed => exact ⟨_, rfl, handed⟩

theorem Seated.served (seated : Seated round completed opened lists)
    (present : round.places[worker]? = some .served) :
    ∃ list value, deskOf lists worker = some list ∧ Handed list ∧
      list.submitted = some value ∧ value ≤ completed := by
  have atHand := seated.atHand worker .served present
  generalize deskOf lists worker = held at atHand
  cases atHand with
  | served handed submitted reached => exact ⟨_, _, rfl, handed, submitted, reached⟩

/-- One worker takes, changes or leaves its list. -/
theorem Seated.set (seated : Seated round completed opened lists) (sound : round.Sound)
    (known : worker < workers) {place : Place} {list : Option CommandList}
    (new : AtHand worker completed place list)
    (numbered : ∀ each, list = some each → each.id.number ≤ opened)
    (distinct : ∀ each, list = some each → ∀ other theirs, other ≠ worker →
      deskOf lists other = some theirs → each.id ≠ theirs.id)
    (line ran : List Nat) :
    Seated ⟨round.places.set worker place, line, ran⟩ completed opened (lists.set worker list) := by
  have inside : worker < lists.length := seated.length ▸ known
  refine ⟨(List.length_set ..).trans seated.length, ?_, ?_, ?_⟩
  · intro other reached present
    rw [sound.getElem?_set known] at present
    rw [deskOf_set inside]
    by_cases same : other = worker
    · rw [if_pos same] at present
      cases present
      rw [if_pos same, same]
      exact new
    · rw [if_neg same] at present
      rw [if_neg same]
      exact seated.atHand other reached present
  · intro other each present
    rw [deskOf_set inside] at present
    by_cases same : other = worker
    · rw [if_pos same] at present
      exact numbered each present
    · rw [if_neg same] at present
      exact seated.numbered other each present
  · intro first second left right leftPresent rightPresent sameId
    rw [deskOf_set inside] at leftPresent rightPresent
    by_cases firstSame : first = worker
    · by_cases secondSame : second = worker
      · exact firstSame.trans secondSame.symm
      · rw [if_pos firstSame] at leftPresent
        rw [if_neg secondSame] at rightPresent
        exact absurd sameId (distinct left leftPresent second right secondSame rightPresent)
    · by_cases secondSame : second = worker
      · rw [if_neg firstSame] at leftPresent
        rw [if_pos secondSame] at rightPresent
        exact absurd sameId.symm (distinct right rightPresent first left firstSame leftPresent)
      · rw [if_neg firstSame] at leftPresent
        rw [if_neg secondSame] at rightPresent
        exact seated.distinct first second left right leftPresent rightPresent sameId

/-- One worker changes its list, which is known by the same identity. -/
theorem Seated.change (seated : Seated round completed opened lists) (sound : round.Sound)
    (known : worker < workers) {place : Place} {list changed : CommandList}
    (desk : deskOf lists worker = some list)
    (new : AtHand worker completed place (some changed)) (same : changed.id = list.id)
    (line ran : List Nat) :
    Seated ⟨round.places.set worker place, line, ran⟩ completed opened
      (lists.set worker (some changed)) := by
  refine seated.set sound known new ?_ ?_ line ran
  · rintro _ ⟨⟩
    rw [same]
    exact seated.numbered worker list desk
  · rintro _ ⟨⟩ other theirs different taken sameId
    rw [same] at sameId
    exact different (seated.distinct worker other list theirs desk taken sameId).symm

theorem Seated.later (seated : Seated round completed opened lists) {value more : Nat}
    (grown : completed ≤ value) (others : opened ≤ more) : Seated round value more lists :=
  ⟨seated.length, fun worker place present => (seated.atHand worker place present).later grown,
    fun worker list present => Nat.le_trans (seated.numbered worker list present) others,
    seated.distinct⟩

/-- What is on the other desks stays there. -/
theorem map_set_of_not_mem {α : Type} {value : List (Option CommandList) → Nat → α}
    (reads : ∀ left right other, deskOf left other = deskOf right other →
      value left other = value right other)
    (known : worker < lists.length) (list : Option CommandList) {line : List Nat}
    (absent : worker ∉ line) : line.map (value (lists.set worker list)) = line.map (value lists) := by
  apply List.map_congr_left
  intro other member
  refine reads _ _ other ?_
  rw [deskOf_set known, if_neg]
  rintro rfl
  exact absent member

theorem filed_of_deskOf (left right : List (Option CommandList)) (other : Nat)
    (same : deskOf left other = deskOf right other) : filed left other = filed right other := by
  rw [filed, filed, same]

theorem awaited_of_deskOf (left right : List (Option CommandList)) (other : Nat)
    (same : deskOf left other = deskOf right other) : awaited left other = awaited right other := by
  rw [awaited, awaited, same]

end Desks

/-! ## The steps -/

/-- What holds at a moment of a frame that began with `base` values completed. -/
structure Moment (base : Nat) (memory : Memory) (round : Round) (simulation : Simulation) :
    Prop where
  key : simulation.device.key = 0
  heap : simulation.device.heap = furnished
  fence : simulation.device.fence =
    ⟨base + round.ran.length + round.line.length, base + round.ran.length⟩
  submissions : simulation.device.submissions = base + round.ran.length + round.line.length
  computing : simulation.device.computePool.Stocked .compute (busy simulation.lists)
    (base + round.ran.length)
  copying : simulation.device.copyPool.Stocked .copy 0 (base + round.ran.length)
  living : simulation.device.liveLists = busy simulation.lists
  sound : round.Sound
  seated : Seated round (base + round.ran.length) simulation.device.listsOpened simulation.lists
  streams : simulation.device.queue.pending.map Submission.streams =
    round.line.map (filed simulation.lists)
  signals : simulation.device.queue.pending.map Submission.signal =
    List.range' (base + round.ran.length + 1) round.line.length
  due : round.line.map (awaited simulation.lists) =
    (List.range' (base + round.ran.length + 1) round.line.length).map some
  memory : simulation.scene.memory = movedAll memory round.ran

namespace Moment

variable {base : Nat} {memory : Memory} {round next : Round} {before : Simulation} {worker : Nat}

theorem record (moment : Moment base memory round before)
    (taken : round.take? (.record worker) = some next) :
    Ends (take stage (.record worker)) before fun _ after =>
      Moment base memory next after ∧ after.notes = before.notes := by
  obtain ⟨present, shape⟩ := Option.ite_some_none_eq_some.mp taken
  have sound := moment.sound.take? taken
  subst shape
  have known := moment.sound.lt_workers present
  have inside : worker < before.lists.length := moment.seated.length ▸ known
  have unlined : worker ∉ round.line := by simp [moment.sound.line_iff, present]
  have free := moment.seated.free present
  have completed : before.device.fence.completed = base + round.ran.length := by
    rw [moment.fence]
  have stocked : (before.device.pool .compute).Stocked .compute (busy before.lists)
      before.device.fence.completed := by
    rw [completed]
    exact moment.computing
  obtain ⟨allocator, pool, sorted, empty, unused, left, opened, state⟩ :=
    openList_of_stocked stocked (moment.seated.busy_lt known free)
  rw [completed] at left
  have heap : (if Category.compute.usesDescriptors then some before.device.heap.capacity
      else none) = some furnished.capacity := by
    rw [moment.heap]
    rfl
  rw [heap, moment.key] at opened
  have accepted := foldlM_workerCalls known ⟨before.device.listsOpened + 1⟩ 0 allocator
  have shape : take stage (.record worker) =
      recordNew .compute (workerCalls ⟨worker, 1⟩) >>= fun list => assign worker (some list) := by
    simp only [take, ranges_stage known]
  rw [shape]
  refine (ends_recordNew opened accepted).bind ?_
  rw [state]
  rintro list ⟨_, _, _, _⟩ ⟨same, rfl, rfl, rfl, notes⟩
  refine (ends_assign worker (some list)).mono ?_
  rintro _ _ rfl
  have ready : Drafted worker list := same ▸ drafted_opened _ _ sorted empty unused
  have number : list.id = ⟨before.device.listsOpened + 1⟩ := by rw [same]; rfl
  have count : busy (before.lists.set worker (some list)) = busy before.lists + 1 := by
    have counted := busy_set inside (some list)
    rw [free] at counted
    exact counted
  refine ⟨{ moment with
    sound, computing := ?_, living := ?_, seated := ?_, streams := ?_, due := ?_ }, notes⟩
  · rw [count]
    exact left
  · rw [count]
    exact congrArg (· + 1) moment.living
  · refine (moment.seated.later (Nat.le_refl _) (Nat.le_succ _)).set moment.sound known
      (.recorded ready) ?_ ?_ round.line round.ran
    · rintro _ ⟨⟩
      exact Nat.le_of_eq (congrArg ListId.number number)
    · -- No earlier list has the new number.
      rintro _ ⟨⟩ other theirs _ taken sameId
      have earlier := moment.seated.numbered other theirs taken
      rw [← sameId, number] at earlier
      exact Nat.not_succ_le_self _ earlier
  · rw [map_set_of_not_mem filed_of_deskOf inside _ unlined]
    exact moment.streams
  · rw [map_set_of_not_mem awaited_of_deskOf inside _ unlined]
    exact moment.due

theorem handOver (moment : Moment base memory round before)
    (taken : round.take? (.handOver worker) = some next) :
    Ends (take stage (.handOver worker)) before fun _ after =>
      Moment base memory next after ∧ after.notes = before.notes := by
  obtain ⟨present, shape⟩ := Option.ite_some_none_eq_some.mp taken
  have sound := moment.sound.take? taken
  subst shape
  have known := moment.sound.lt_workers present
  have inside : worker < before.lists.length := moment.seated.length ▸ known
  have unlined : worker ∉ round.line := by simp [moment.sound.line_iff, present]
  obtain ⟨list, desk, ready⟩ := moment.seated.drafted present
  have fresh : list.state ≠ .submitted := by simp [ready.state]
  obtain ⟨result, lists, device⟩ := execute_singleton (ready.device.trans moment.key.symm) fresh
  have opening : before.device.executeOpen list = before.device.execute [list] := by
    simp [Device.executeOpen, CommandList.ensureOpen, ready.state]
  have issued : before.device.fence.issued = base + round.ran.length + round.line.length := by
    rw [moment.fence]
  rw [issued] at result lists device
  have handedOver := ends_handOver (opening ▸ result)
  rw [opening, lists, device, List.headD_cons] at handedOver
  obtain ⟨value, isNext⟩ : ∃ value, base + round.ran.length + round.line.length + 1 = value :=
    ⟨_, rfl⟩
  rw [isNext] at handedOver
  refine ends_listOf? desk ?_
  refine handedOver.bind ?_
  rintro _ ⟨_, _, _, _⟩ ⟨rfl, rfl, rfl, rfl, notes⟩
  let handed := list.freeze.markSubmitted value
  refine (ends_assign worker (some handed)).mono ?_
  rintro _ _ rfl
  have count : busy (before.lists.set worker (some handed)) = busy before.lists := by
    have counted := busy_set inside (some handed)
    rw [desk] at counted
    exact Nat.add_right_cancel counted
  have longer : (round.line ++ [worker]).length = round.line.length + 1 := List.length_append
  have values : List.range' (base + round.ran.length + 1) (round.line.length + 1) =
      List.range' (base + round.ran.length + 1) round.line.length ++ [value] := by
    have last : base + round.ran.length + 1 + round.line.length = value := by omega
    rw [List.range'_concat, Nat.one_mul, last]
  have stays : deskOf (before.lists.set worker (some handed)) worker = some handed := by
    rw [deskOf_set inside, if_pos rfl]
  refine ⟨{ moment with
    sound, fence := ?_, submissions := ?_, computing := ?_, living := ?_, seated := ?_
    streams := ?_, signals := ?_, due := ?_ }, notes⟩
  · rw [longer, moment.fence, ← isNext]
    rfl
  · rw [longer]
    exact congrArg (· + 1) moment.submissions
  · rw [count]
    exact moment.computing
  · rw [count]
    exact moment.living
  · have frozen : handed.allocator.frozenBy = some handed.id := by
      change some (list.allocator.frozenBy.getD list.id) = some list.id
      rw [ready.unfrozen]
      rfl
    have new : AtHand worker (base + round.ran.length) .waiting (some handed) :=
      .waiting ⟨ready.sorted, frozen⟩
    exact moment.seated.change moment.sound known desk new rfl _ _
  · rw [List.map_append, map_set_of_not_mem filed_of_deskOf inside _ unlined, ← moment.streams]
    have own : filed (before.lists.set worker (some handed)) worker = [list.freeze.stream] := by
      rw [filed, stays, ready.stream_freeze]
      rfl
    change (before.device.queue.pending ++ [_]).map Submission.streams = _
    rw [List.map_append, List.map_singleton, List.map_singleton, own]
  · rw [longer, values, ← moment.signals]
    exact List.map_append
  · rw [List.map_append, map_set_of_not_mem awaited_of_deskOf inside _ unlined, longer, values,
      List.map_append, moment.due]
    have own : awaited (before.lists.set worker (some handed)) worker = some value := by
      rw [awaited, stays]
      rfl
    rw [List.map_singleton, List.map_singleton, own]

/-- The oldest submission has the list of the worker who is first in line, and it will signal
`value`. -/
structure Front (value : FenceValue) (worker : Nat) (rest : List Nat) (simulation : Simulation)
    (list : CommandList) (submission : Submission) (others : List Submission) : Prop where
  desk : deskOf simulation.lists worker = some list
  handed : Handed list
  submitted : list.submitted = some value
  pending : simulation.device.queue.pending = submission :: others
  signal : submission.signal = value
  own : submission.streams = [⟨list.id, .compute, workerCommands worker⟩]
  streams : others.map Submission.streams = rest.map (filed simulation.lists)
  signals : others.map Submission.signal = List.range' (value + 1) rest.length
  due : rest.map (awaited simulation.lists) = (List.range' (value + 1) rest.length).map some

theorem front (moment : Moment base memory round before) {rest : List Nat}
    (line : round.line = worker :: rest) (present : round.places[worker]? = some .waiting) :
    ∃ list submission others,
      Front (base + round.ran.length + 1) worker rest before list submission others := by
  obtain ⟨list, desk, handed⟩ := moment.seated.handed present
  have streams := moment.streams
  have signals := moment.signals
  have dues := moment.due
  rw [line, List.map_cons] at streams
  rw [line, List.map_cons, List.length_cons, List.range'_succ] at dues
  rw [line, List.length_cons, List.range'_succ] at signals
  obtain ⟨submission, others, pending, own, otherStreams⟩ := List.map_eq_cons_iff.mp streams
  rw [pending, List.map_cons] at signals
  obtain ⟨signal, otherSignals⟩ := List.cons.inj signals
  obtain ⟨submitted, otherDues⟩ := List.cons.inj dues
  rw [filed, desk] at own
  rw [awaited, desk] at submitted
  exact ⟨list, submission, others, desk, handed, submitted, pending, signal, own, otherStreams,
    otherSignals, otherDues⟩

theorem run (moment : Moment base memory round before) (taken : round.take? .run = some next) :
    Ends (take stage .run) before fun _ after =>
      Moment base memory next after ∧ after.notes = before.notes := by
  have sound := moment.sound.take? taken
  rw [Round.take?] at taken
  cases line : round.line with
  | nil =>
      rw [line] at taken
      cases taken
  | cons worker rest =>
      rw [line] at taken
      cases taken
      have present : round.places[worker]? = some .waiting := by
        rw [← moment.sound.line_iff, line]
        exact List.mem_cons_self
      have known := moment.sound.lt_workers present
      have inside : worker < before.lists.length := moment.seated.length ▸ known
      obtain ⟨list, submission, others, front⟩ := moment.front line present
      have counted : round.line.length = rest.length + 1 := by rw [line]; rfl
      have longer : (round.ran ++ [worker]).length = round.ran.length + 1 := List.length_append
      have sums : base + round.ran.length + (rest.length + 1) =
          base + (round.ran.length + 1) + rest.length := by omega
      have handedOut : submission.signal ≤ before.device.fence.issued := by
        rw [front.signal, moment.fence, counted, sums]
        exact Nat.le_add_right _ _
      obtain ⟨left, completed⟩ := SoftQueue.runNext_of_pending before.device.heap before.scene
        front.pending handedOut
      let ran := before.device.queue.runNext before.device.fence before.device.heap before.scene
      have fence : ran.fence =
          ⟨base + (round.ran.length + 1) + rest.length, base + (round.ran.length + 1)⟩ := by
        rw [(Fence.complete?_eq_some_iff.mp completed).2, moment.fence, front.signal, counted, sums]
        have above : base + round.ran.length ≤ base + round.ran.length + 1 := Nat.le_succ _
        exact congrArg (Fence.mk _) (Nat.max_eq_right above)
      have moves : ran.scene.memory = moved before.scene.memory worker := by
        have scene : ran.scene =
            (Stream.runAll before.device.heap submission.streams before.scene).scene := by
          simp only [ran, SoftQueue.runNext, front.pending]
        rw [scene, front.own, moment.heap]
        exact memory_run known list.id before.scene
      have grown : base + round.ran.length ≤ base + (round.ran.length + 1) := Nat.le_succ _
      refine ends_wait.mono ?_
      rintro _ ⟨_, _, _, _⟩ ⟨rfl, rfl, rfl, notes⟩
      refine ⟨{ moment with
        sound, fence := ?_, submissions := ?_, computing := ?_, copying := ?_, seated := ?_
        streams := ?_, signals := ?_, due := ?_, memory := ?_ }, notes⟩
      · rw [longer]
        exact fence
      · rw [longer, ← sums, ← counted]
        exact moment.submissions
      · rw [longer]
        exact moment.computing.later grown
      · rw [longer]
        exact moment.copying.later grown
      · have unchanged : before.lists.set worker (some list) = before.lists := by
          rw [← front.desk, deskOf_eq_getElem inside, List.set_getElem_self]
        rw [longer, ← unchanged]
        exact (moment.seated.later grown (Nat.le_refl _)).change moment.sound known front.desk
          (.served front.handed front.submitted (Nat.le_refl _)) rfl _ _
      · exact (congrArg (List.map Submission.streams) left).trans front.streams
      · rw [longer]
        exact (congrArg (List.map Submission.signal) left).trans front.signals
      · rw [longer]
        exact front.due
      · rw [movedAll, List.foldl_append, List.foldl_cons, List.foldl_nil]
        change ran.scene.memory = _
        rw [moves, moment.memory]
        rfl

/-- The queue refers only to lists of workers that wait for it. -/
theorem waits_of_held (moment : Moment base memory round before) {list : ListId}
    (held : before.device.held list = true) :
    ∃ other ∈ round.line, ∃ theirs, deskOf before.lists other = some theirs ∧ theirs.id = list := by
  obtain ⟨submission, pending, mentions⟩ := List.any_eq_true.mp held
  obtain ⟨stream, member, named⟩ := List.any_eq_true.mp mentions
  have streams : submission.streams ∈ round.line.map (filed before.lists) := by
    rw [← moment.streams]
    exact List.mem_map_of_mem pending
  obtain ⟨other, waits, own⟩ := List.mem_map.mp streams
  rw [← own, filed] at member
  obtain ⟨theirs, desk, rfl⟩ := List.mem_map.mp member
  exact ⟨other, waits, theirs, Option.mem_toList.mp desk, eq_of_beq named⟩

theorem letGo (moment : Moment base memory round before)
    (taken : round.take? (.letGo worker) = some next) :
    Ends (take stage (.letGo worker)) before fun _ after =>
      Moment base memory next after ∧ after.notes = before.notes := by
  obtain ⟨present, shape⟩ := Option.ite_some_none_eq_some.mp taken
  have sound := moment.sound.take? taken
  subst shape
  have known := moment.sound.lt_workers present
  have inside : worker < before.lists.length := moment.seated.length ▸ known
  have unlined : worker ∉ round.line := by simp [moment.sound.line_iff, present]
  obtain ⟨list, value, desk, handed, submitted, reached⟩ := moment.seated.served present
  have idle : list.allocator.inFlight before.device.held = false := by
    rw [Allocator.inFlight, handed.frozen, Option.any_some, Bool.eq_false_iff]
    intro held
    -- Only lists in line are referred to, and this one has left the line.
    obtain ⟨other, waits, theirs, taken, sameId⟩ := moment.waits_of_held held
    rw [← moment.seated.distinct worker other list theirs desk taken sameId.symm] at waits
    exact unlined waits
  have count : busy (before.lists.set worker none) + 1 = busy before.lists := by
    have counted := busy_set inside none
    rw [desk] at counted
    exact counted
  have stocked := moment.computing
  rw [← count] at stocked
  have back := stocked.putBack handed.sorted idle reached
  have givenUp := @ends_letGo before list
  rw [Device.retire_fst, handed.sorted, CommandList.retirementStamp, submitted] at givenUp
  refine ends_listOf? desk ?_
  refine givenUp.bind ?_
  rintro _ ⟨_, _, _, _⟩ ⟨rfl, rfl, rfl, notes⟩
  refine (ends_assign worker none).mono ?_
  rintro _ _ rfl
  refine ⟨{ moment with
    sound, computing := back, living := ?_, seated := ?_, streams := ?_, due := ?_ }, notes⟩
  · change before.device.liveLists - 1 = _
    rw [moment.living, ← count]
    rfl
  · refine moment.seated.set moment.sound known .gone ?_ ?_ round.line round.ran
    · rintro _ ⟨⟩
    · rintro _ ⟨⟩
  · rw [map_set_of_not_mem filed_of_deskOf inside _ unlined]
    exact moment.streams
  · rw [map_set_of_not_mem awaited_of_deskOf inside _ unlined]
    exact moment.due

/-- A step that a round admits is not refused. -/
theorem take {step : Step} (moment : Moment base memory round before)
    (taken : round.take? step = some next) :
    Ends (take stage step) before fun _ after =>
      Moment base memory next after ∧ after.notes = before.notes := by
  cases step with
  | record worker => exact moment.record taken
  | handOver worker => exact moment.handOver taken
  | run => exact moment.run taken
  | letGo worker => exact moment.letGo taken

end Moment

end Demo.Simulation

end CommandQueue
