import CommandQueue.Proofs.Stamps
import CommandQueue.Proofs.Turns

/-!
# The demand for lists

As long as lists are opened only while nothing is under way, every idle
allocator can be lent again.  Then a pool creates an allocator only when all it
has are in use, and it becomes exactly as large as the greatest number of lists
that existed at once.  `World.Paced` is a run of this kind, with these numbers.
-/

namespace CommandQueue

/-- A queue that is left to run leaves nothing waiting. -/
def Queue.Drains {σ : Type} [Queue σ] (waiting : σ → List Submission) : Prop :=
  ∀ (queue : σ) (fence : Fence) (heap : DescriptorHeap) (scene : Scene),
    waiting (settle queue fence heap scene).queue = []

theorem SoftQueue.drains : Queue.Drains SoftQueue.pending := by
  intro queue fence heap scene
  change (queue.runMany fence heap scene queue.pending.length).queue.pending = []
  rw [(queue.runMany_eq fence heap scene queue.pending.length).1]
  exact List.drop_length

theorem GpuQueue.drains : Queue.Drains GpuQueue.waiting :=
  fun _ _ _ _ => rfl

namespace Pool

/-- A pool fills up if it has room for the allocators and memory for their storage. -/
theorem prewarm_of_room {pool : Pool} {count : Nat} (stored : pool.storageProblem? = none)
    (room : ∀ most, pool.limit = some most → pool.live + count ≤ most) :
    (pool.prewarm count).result = .ok () ∧
      (pool.prewarm count).state.live = pool.live + count := by
  induction count generalizing pool with
  | zero => exact ⟨rfl, rfl⟩
  | succ count inductionHypothesis =>
      have notFull : pool.full = false := by
        rw [full]
        cases limited : pool.limit with
        | none => rfl
        | some most =>
            have most_le := room most limited
            simp only [Option.any_some, decide_eq_false_iff_not]
            omega
      let grown : Pool := { pool with live := pool.live + 1, nextSerial := pool.nextSerial + 1 }
      let next := grown.putBack (Allocator.new ⟨pool.category, pool.nextSerial⟩)
      have nextRoom : ∀ most, next.limit = some most → next.live + count ≤ most := by
        intro most limited
        have most_le := room most limited
        change pool.live + 1 + count ≤ most
        omega
      have step : (pool.prewarm (count + 1)).result = (next.prewarm count).result ∧
          (pool.prewarm (count + 1)).state = (next.prewarm count).state := by
        simp [prewarm, create, notFull, stored, Outcome.andThen, Outcome.done, next, grown]
      obtain ⟨filled, live⟩ := @inductionHypothesis next stored nextRoom
      rw [step.1, step.2, filled, live]
      refine ⟨rfl, ?_⟩
      change pool.live + 1 + count = pool.live + (count + 1)
      omega

/-- A pool whose idle allocators can all be lent refuses a request only when it is full, and
creates an allocator only when none is idle. -/
inductive Grants (pool : Pool) : Pool → Except Error Allocator → Prop
  | reused {next : Pool} {allocator : Allocator} (live : next.live = pool.live)
      (some : 0 < pool.free.length) : Grants pool next (.ok allocator)
  | created {next : Pool} {allocator : Allocator} (live : next.live = pool.live + 1)
      (none : pool.free = []) (room : pool.full = false) : Grants pool next (.ok allocator)
  | full {next : Pool} (none : pool.free = []) (full : pool.full = true) :
      Grants pool next (.error (.resourceExhausted pool.category pool.live limitReason))
  | unstored {next : Pool} {error : Error} (problem : pool.storageProblem? ≠ none) :
      Grants pool next (.error error)

theorem Lends.grants {pool next : Pool} {completed : FenceValue} {held : ListId → Bool}
    {result : Except Error Allocator} (lends : Lends pool completed held next result)
    (reached : ∀ allocator ∈ pool.free, allocator.stamp ≤ completed)
    (unheld : ∀ list, held list = false) : Grants pool next result := by
  cases lends with
  | @reused front back allocator shape skipped stamp idle =>
      refine Grants.reused rfl ?_
      rw [shape, List.length_append]
      exact Nat.add_pos_right _ (Nat.succ_pos _)
  | @stuck front back allocator shape skipped stamp busy =>
      have idle : allocator.inFlight held = false := by
        rw [Allocator.inFlight]
        cases allocator.frozenBy with
        | none => rfl
        | some name => exact unheld name
      rw [idle] at busy
      cases busy
  | missed skipped creates =>
      -- All idle allocators could be lent, so there were none.
      have none : pool.free = [] := by
        refine List.eq_nil_iff_forall_not_mem.mpr ?_
        intro allocator member
        exact Nat.not_le_of_lt (skipped allocator member) (reached allocator member)
      cases creates with
      | created room stored => exact Grants.created rfl none room
      | full full => exact Grants.full none full
      | unstored room problem =>
          exact Grants.unstored (by simp [problem])

end Pool

theorem Device.openList_eq_error_iff {σ : Type} [Queue σ] {device : Device σ}
    {category : Category} {error : Error} :
    (device.openList category).result = .error error ↔
      (device.requested category).result = .error error := by
  constructor
  · exact requested_of_refused
  · intro refused
    rw [openList_of_refused refused]

theorem Device.create_of_filled {σ : Type} [Queue σ] (key : Nat) (queue : σ)
    {config : DeviceConfig}
    (filled : ∀ category, (initialPool queue config category).result = .ok ()) :
    ∃ device, (create key queue config).1 = .ok device ∧ device.config = config ∧
      ∀ category, (device.pool category).live = (initialPool queue config category).state.live := by
  simp only [create, filled]
  refine ⟨_, rfl, rfl, ?_⟩
  intro category
  cases category <;> rfl

namespace World

variable {σ : Type}

/-- The number of lists of a category that were opened and not dropped. -/
def demand (world : World σ) (category : Category) : Nat :=
  (world.lists.map CommandList.category).count category

theorem demand_lend (world : World σ) (category read : Category) (pool : Pool)
    (allocator : Allocator) :
    (world.lend category pool allocator).demand read =
      world.demand read + if read = category then 1 else 0 := by
  rw [demand, map_category_lend, List.count_append, demand]
  by_cases same : read = category
  · simp [same]
  · simp [same, Ne.symm same]

variable {world after start : World σ} {config : DeviceConfig} {peak : Category → Nat}

/-- The pools are as large as the demand has been, but not smaller than they were filled. -/
structure Thrifty (config : DeviceConfig) (peak : Category → Nat) (world : World σ) : Prop where
  configured : world.device.config = config
  live : ∀ category,
    (world.device.pool category).live = max config.prewarmAllocators (peak category)
  covered : ∀ category, world.demand category ≤ peak category

theorem Thrifty.lend (thrifty : world.Thrifty config peak) (conserved : world.Conserved)
    {category : Category} {pool : Pool} {allocator : Allocator}
    (grants : (world.device.pool category).Grants pool (.ok allocator)) :
    (world.lend category pool allocator).Thrifty config
      fun each => max (peak each) ((world.lend category pool allocator).demand each) := by
  have counted : ∀ each, (world.device.pool each).live =
      (world.device.pool each).free.length + world.demand each := conserved.counted
  refine ⟨?_, ?_, fun each => Nat.le_max_right _ _⟩
  · exact (world.device.withPool_frame category pool).2.1.trans thrifty.configured
  · intro read
    have before := thrifty.live read
    have covered := thrifty.covered read
    have balance := counted read
    rw [demand_lend, pool_lend, Device.pool_withPool]
    by_cases same : read = category
    · subst same
      rw [if_pos rfl, if_pos rfl]
      cases grants with
      | reused live some =>
          rw [live]
          omega
      | created live none room =>
          rw [none, List.length_nil] at balance
          rw [live]
          omega
    · rw [if_neg same, if_neg same]
      omega

/-- What keeps the pools' sizes and opens no list keeps them as large as the demand has been. -/
theorem Thrifty.keep (thrifty : world.Thrifty config peak)
    (same : after.device.config = world.device.config)
    (live : ∀ category, (after.device.pool category).live = (world.device.pool category).live)
    (fewer : ∀ category, after.demand category ≤ world.demand category) :
    after.Thrifty config fun category => max (peak category) (after.demand category) := by
  refine ⟨same.trans thrifty.configured, ?_, fun category => Nat.le_max_right _ _⟩
  intro category
  have covered := Nat.le_trans (fewer category) (thrifty.covered category)
  rw [live, thrifty.live, Nat.max_eq_left covered]

section Queued

variable [Queue σ] {moves : Clocked σ → Clocked σ → Prop}

/-- Every value handed out is completed, and the queue refers to no stream. -/
structure Calm (world : World σ) : Prop where
  completed : world.device.fence.completed = world.device.fence.issued
  unheld : ∀ list, Queue.holds world.device.queue list = false

/-- A run in which lists are opened only while the device is calm, with the greatest numbers of
lists that existed at once. -/
inductive Paced (moves : Clocked σ → Clocked σ → Prop) (start : World σ) :
    (Category → Nat) → World σ → Prop
  | start : Paced moves start start.demand start
  | step {peak : Category → Nat} {before after : World σ} (earlier : Paced moves start peak before)
      (step : Step moves before after)
      (calm : before.device.listsOpened < after.device.listsOpened → before.Calm) :
      Paced moves start (fun category => max (peak category) (after.demand category)) after

theorem Paced.leads (paced : Paced moves start peak world) : Leads moves start world := by
  induction paced with
  | start => exact Relation.ReflTransGen.refl
  | step earlier step calm inductionHypothesis => exact inductionHypothesis.tail step

/-- Lists may be dealt with in any way while none is opened. -/
theorem Paced.still {before : World σ} (earlier : Paced moves start peak before)
    (step : Step moves before after)
    (same : after.device.listsOpened = before.device.listsOpened) :
    Paced moves start (fun category => max (peak category) (after.demand category)) after := by
  refine earlier.step step ?_
  intro more
  rw [same] at more
  exact absurd more (Nat.lt_irrefl _)

/-- A device is calm when nothing waits in its queue. -/
theorem calm_of_idle {waiting : σ → List Submission} (lawful : Queue.Lawful moves)
    (orderly : Queue.Orderly moves waiting) (begun : start.Begins)
    (empty : waiting start.device.queue = []) (leads : Leads moves start world)
    (idle : waiting world.device.queue = []) : world.Calm := by
  obtain ⟨count, counted, signals⟩ := Leads.inTurn lawful orderly.toFifo begun empty leads
  have none : count = 0 := by
    rw [idle] at signals
    simpa using (congrArg List.length signals).symm
  refine ⟨?_, ?_⟩
  · rw [counted, none]
    rfl
  · intro list
    by_contra held
    obtain ⟨submission, waits, _⟩ := orderly.holds_waiting (Bool.eq_true_of_not_eq_false held)
    rw [idle] at waits
    cases waits

/-- A device is calm after it has waited for its queue. -/
theorem calm_settle {waiting : σ → List Submission} (lawful : Queue.Lawful moves)
    (orderly : Queue.Orderly moves waiting) (settles : Queue.Settles moves waiting)
    (drains : Queue.Drains waiting) (begun : start.Begins)
    (empty : waiting start.device.queue = []) (leads : Leads moves start world) (scene : Scene) :
    ({ world with device := (world.device.settle scene).1 } : World σ).Calm := by
  have settled := Leads.settle lawful orderly.toFifo settles begun empty leads scene
  exact calm_of_idle lawful orderly begun empty settled (drains _ _ _ _)

/-- In a calm world all idle allocators can be lent. -/
theorem Calm.grants (calm : world.Calm) (lawful : Queue.Lawful moves) (begun : start.Begins)
    (leads : Leads moves start world) {category : Category} {pool : Pool}
    {result : Except Error Allocator}
    (lends : (world.device.pool category).Lends world.device.fence.completed
      world.device.held pool result) :
    (world.device.pool category).Grants pool result := by
  refine lends.grants ?_ calm.unheld
  intro allocator member
  have stamped := Leads.stamped lawful begun leads
  have onTime := Leads.onTime lawful begun leads
  have pooled := Device.mem_pooled_iff.mpr ⟨category, member⟩
  have idle : allocator ∈ world.allocators := List.mem_append_left _ pooled
  calc allocator.stamp
      ≤ world.lastUse allocator.id := stamped.stamp_le_lastUse idle
    _ ≤ world.device.fence.issued := onTime.lastUse_le_issued _
    _ = world.device.fence.completed := calm.completed.symm

theorem Thrifty.custody (thrifty : world.Thrifty config peak) (conserved : world.Conserved)
    (custody : Custody world after)
    (grants : ∀ category pool allocator,
      (world.device.pool category).Lends world.device.fence.completed world.device.held pool
        (.ok allocator) →
      after = world.lend category pool allocator →
        (world.device.pool category).Grants pool (.ok allocator)) :
    after.Thrifty config fun category => max (peak category) (after.demand category) := by
  cases custody with
  | kept same living pools loans =>
      refine thrifty.keep same (fun category => (pools category).live) ?_
      intro category
      have categories := congrArg (List.map Prod.fst) loans
      rw [List.map_map, List.map_map] at categories
      exact Nat.le_of_eq (congrArg (List.count category) categories)
  | @lent category pool allocator lends =>
      exact thrifty.lend conserved (grants category pool allocator lends rfl)
  | @returned list member =>
      refine thrifty.keep (world.drop_frame list).2.1 ?_ ?_
      · intro category
        rw [pool_drop, Device.pool_withPool]
        split
        · rename_i same
          rw [same]
          rfl
        · rfl
      · intro category
        exact ((List.eraseP_sublist (l := world.lists)).map CommandList.category).count_le category

theorem Paced.thrifty (lawful : Queue.Lawful moves) (begun : start.Begins)
    (filled : ∀ category,
      (start.device.pool category).live = start.device.config.prewarmAllocators)
    (paced : Paced moves start peak world) :
    world.Thrifty start.device.config peak := by
  induction paced with
  | start =>
      have none : ∀ category, start.demand category = 0 := by
        intro category
        rw [demand, begun.fresh.lists]
        rfl
      refine ⟨rfl, ?_, fun category => Nat.le_refl _⟩
      intro category
      rw [filled, none, Nat.max_zero]
  | @step peak before after earlier step calm inductionHypothesis =>
      have leads := earlier.leads
      have registered := Leads.registered begun leads
      have conserved := Leads.conserved begun leads
      refine inductionHypothesis.custody conserved (step.effect registered).custody ?_
      rintro category pool allocator lends rfl
      have quiet : before.Calm := calm (Nat.lt_succ_self before.device.listsOpened)
      exact quiet.grants lawful begun leads lends

/-- The pools are as large as the greatest demand, and a calm device refuses to open a list exactly
when the limit is reached by lists. -/
structure Footprint (config : DeviceConfig) (peak : Category → Nat) (world : World σ) : Prop where
  live : ∀ category,
    (world.device.pool category).live = max config.prewarmAllocators (peak category)
  refused_iff : world.Calm → ∀ category, (world.device.pool category).storageProblem? = none →
    ∀ error, (world.device.openList category).result = .error error ↔
      ∃ most, config.maxAllocators = some most ∧ world.demand category = most ∧
        error = .resourceExhausted category most Pool.limitReason

theorem refused_iff_of_calm (calm : world.Calm) (lawful : Queue.Lawful moves)
    (begun : start.Begins) (leads : Leads moves start world) {category : Category}
    (stored : (world.device.pool category).storageProblem? = none) (error : Error) :
    (world.device.openList category).result = .error error ↔
      ∃ most, world.device.config.maxAllocators = some most ∧ world.demand category = most ∧
        error = .resourceExhausted category most Pool.limitReason := by
  have conserved := Leads.conserved begun leads
  have balance : (world.device.pool category).live =
      (world.device.pool category).free.length + world.demand category :=
    conserved.counted category
  have limit := conserved.limit category
  have grants := calm.grants lawful begun leads (world.device.lends_requested category)
  rw [Device.openList_eq_error_iff]
  generalize (world.device.requested category).result = result at grants ⊢
  constructor
  · rintro rfl
    cases grants with
    | full none full =>
        rw [none, List.length_nil, Nat.zero_add] at balance
        rw [Pool.full, limit] at full
        obtain ⟨most, limited, reached⟩ := Option.any_eq_true _ _ |>.mp full
        have bounded := conserved.bounded category most limited
        have reachedLimit : (world.device.pool category).live = most :=
          Nat.le_antisymm bounded (of_decide_eq_true reached)
        refine ⟨most, limited, balance ▸ reachedLimit, ?_⟩
        rw [conserved.category category, reachedLimit]
    | unstored problem => exact absurd stored problem
  · rintro ⟨most, limited, demanded, rfl⟩
    have bounded := conserved.bounded category most limited
    have live : (world.device.pool category).live = most := by omega
    cases grants with
    | reused same some => omega
    | created same none room =>
        rw [Pool.full, limit, limited, live] at room
        simp at room
    | full none full => rw [conserved.category category, live]
    | unstored problem => exact absurd stored problem

/-- A device that can be filled exists, and its pools have the size of the greatest demand. -/
theorem footprint_of_paced (lawful : Queue.Lawful moves) (key : Nat) {queue : σ}
    (unheld : ∀ list, Queue.holds queue list = false)
    (limited : ∀ most, config.maxAllocators = some most → config.prewarmAllocators ≤ most)
    (stored : ∀ category, (Pool.new category config.maxAllocators config.initialCommandCapacity
      (Queue.commandWidth queue)).storageProblem? = none) :
    ∃ device, (Device.create key queue config).1 = .ok device ∧
      ∀ peak world, Paced moves (World.start device) peak world →
        world.Footprint config peak := by
  have room : ∀ category most,
      (Pool.new category config.maxAllocators config.initialCommandCapacity
        (Queue.commandWidth queue)).limit = some most →
      0 + config.prewarmAllocators ≤ most := by
    intro category most known
    rw [Nat.zero_add]
    exact limited most known
  have pools := fun category => Pool.prewarm_of_room (stored category) (room category)
  have filled : ∀ category, (Device.initialPool queue config category).result = .ok () :=
    fun category => (pools category).1
  obtain ⟨device, created, same, live⟩ := Device.create_of_filled key queue filled
  have begun : (World.start device).Begins := Begins.new created unheld
  refine ⟨device, created, ?_⟩
  intro peak world paced
  have prewarmed : ∀ category,
      (device.pool category).live = device.config.prewarmAllocators := by
    intro category
    rw [live, same]
    exact (pools category).2.trans (Nat.zero_add _)
  have thrifty := paced.thrifty lawful begun prewarmed
  change world.Thrifty device.config peak at thrifty
  rw [same] at thrifty
  refine ⟨thrifty.live, ?_⟩
  intro calm category storable error
  rw [← thrifty.configured]
  exact refused_iff_of_calm calm lawful begun paced.leads storable error

end Queued

def reopened : World SoftQueue := served.openList .copy

theorem paced_reopened :
    ∃ peak, Paced SoftQueue.Runs (small (SoftQueue.new SoftQueue.defaultLabel)) peak reopened ∧
      peak .copy = 1 := by
  have first : Paced SoftQueue.Runs (small (SoftQueue.new SoftQueue.defaultLabel)) _ _ :=
    Paced.start
  have opened := first.step (Step.opens (small (SoftQueue.new SoftQueue.defaultLabel)) .copy)
    fun _ => ⟨rfl, fun _ => rfl⟩
  have recorded := opened.still (Step.records (List.mem_singleton_self firstCopy) shift) rfl
  have executed := recorded.still (Step.executes (offers_recordedCopy rfl)) rfl
  have ran := executed.still
    (Step.moves (SoftQueue.Runs.next (DescriptorHeap.new 1024) Scene.empty rfl (Nat.le_refl 1))) rfl
  have dropped := ran.still (Step.drops (List.mem_singleton_self takenCopy)) rfl
  have again := dropped.step (Step.opens served .copy) fun _ => by
    exact calm_of_idle SoftQueue.forgetful.toLawful SoftQueue.orderly begins_soft rfl
      leads_served rfl
  exact ⟨_, again, rfl⟩

/-- The one allocator was enough for both lists, and there is none for a third one at the same
time. -/
theorem footprint_of_paced_reopened :
    ∃ peak, Paced SoftQueue.Runs (small (SoftQueue.new SoftQueue.defaultLabel)) peak reopened ∧
      peak .copy = 1 ∧ reopened.Footprint smallConfig peak ∧
      (reopened.device.openList .copy).result =
        .error (.resourceExhausted .copy 1 Pool.limitReason) := by
  have stored : ∀ category, (Pool.new category smallConfig.maxAllocators
      smallConfig.initialCommandCapacity SoftQueue.commandWidth).storageProblem? = none := by
    intro category
    simp [Pool.storageProblem?, Pool.new, smallConfig, DeviceConfig.standard,
      SoftQueue.commandWidth, Pool.greatestStorage, Pool.ampleMemory]
  obtain ⟨peak, paced, copies⟩ := paced_reopened
  obtain ⟨device, created, footprints⟩ :=
    @footprint_of_paced _ smallConfig _ _ SoftQueue.forgetful.toLawful 0
      (SoftQueue.new SoftQueue.defaultLabel) (fun _ => rfl) (by decide) stored
  have same : device = (small (SoftQueue.new SoftQueue.defaultLabel)).device := by
    cases created
    rfl
  subst same
  have footprint := footprints peak reopened paced
  have calm : reopened.Calm := ⟨rfl, fun _ => rfl⟩
  refine ⟨peak, paced, copies, footprint, ?_⟩
  exact (footprint.refused_iff calm .copy rfl _).mpr ⟨1, rfl, rfl, rfl⟩

end World

end CommandQueue
