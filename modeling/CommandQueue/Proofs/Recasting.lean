import CommandQueue.Proofs.Copying

/-!
# The same device on the other queue

`Device.onGpu` is a device of the soft queue as it would be on a GPU queue.  The
two differ in their queues and in the room that a command takes in a storage, and
whatever does not ask the queue commutes with the change.  The room matters only
when a new storage is set aside, so `Pool.StoresAlike` is asked of the pools.
-/

namespace CommandQueue

/-! ## Pools -/

namespace Pool

/-- The pool for commands of another width. -/
def recast (width : Nat) (pool : Pool) : Pool := { pool with commandWidth := width }

/-- Setting a storage aside comes out in the same way for commands of the other width. -/
def StoresAlike (width : Nat) (pool : Pool) : Prop :=
  (pool.recast width).storageProblem? = pool.storageProblem?

instance (width : Nat) (pool : Pool) : Decidable (pool.StoresAlike width) :=
  inferInstanceAs (Decidable (_ = _))

/-- What decides whether a storage can be set aside. -/
def reserve (pool : Pool) : Nat × Nat × Nat :=
  (pool.initialCapacity, pool.commandWidth, pool.memory)

variable {pool next : Pool} {width : Nat}

theorem StoresAlike.of_reserve (alike : pool.StoresAlike width)
    (same : next.reserve = pool.reserve) : next.StoresAlike width := by
  obtain ⟨capacity, others⟩ := Prod.mk.inj same
  obtain ⟨commandWidth, memory⟩ := Prod.mk.inj others
  unfold StoresAlike storageProblem? recast at alike ⊢
  rw [capacity, commandWidth, memory]
  exact alike

theorem Creates.reserve {result : Except Error Allocator} (creates : Creates pool next result) :
    next.reserve = pool.reserve := by
  cases creates <;> rfl

theorem Lends.reserve {completed : FenceValue} {held : ListId → Bool}
    {result : Except Error Allocator} (lends : Lends pool completed held next result) :
    next.reserve = pool.reserve := by
  cases lends with
  | missed skipped creates => exact creates.reserve
  | _ => rfl

theorem create_recast (alike : pool.StoresAlike width) :
    (pool.recast width).create = pool.create.within (recast width) := by
  unfold create
  rw [alike]
  by_cases full : pool.full = true
  · rw [if_pos full, if_pos (show (pool.recast width).full = true from full)]
    rfl
  · rw [if_neg full, if_neg (show ¬ (pool.recast width).full = true from full)]
    cases pool.storageProblem? <;> rfl

theorem prewarm_recast (alike : pool.StoresAlike width) (count : Nat) :
    (pool.recast width).prewarm count = (pool.prewarm count).within (recast width) := by
  induction count generalizing pool with
  | zero => rfl
  | succ count inductionHypothesis =>
      -- A pool that has created an allocator sets storages aside as before.
      have created := pool.creates_create.reserve
      rw [prewarm, prewarm, create_recast alike]
      generalize pool.create = outcome at created ⊢
      obtain ⟨next, result, events⟩ := outcome
      cases result with
      | error error => rfl
      | ok allocator =>
          have behind : ((next.putBack allocator).recast width).prewarm count =
              ((next.putBack allocator).prewarm count).within (recast width) :=
            inductionHypothesis (alike.of_reserve created)
          change ((next.recast width).putBack allocator).prewarm count = _ at behind
          simp only [Outcome.andThen, Outcome.within] at behind ⊢
          rw [behind]

theorem reserve_prewarm (pool : Pool) (count : Nat) :
    (pool.prewarm count).state.reserve = pool.reserve := by
  induction count generalizing pool with
  | zero => rfl
  | succ count inductionHypothesis =>
      have created := pool.creates_create.reserve
      rw [prewarm, Outcome.andThen]
      cases pool.create.result with
      | error error => exact created
      | ok allocator => exact (inductionHypothesis _).trans created

theorem acquire_recast (alike : pool.StoresAlike width) (completed : FenceValue)
    (held : ListId → Bool) :
    (pool.recast width).acquire completed held =
      (pool.acquire completed held).within (recast width) := by
  have free : (pool.recast width).free = pool.free := rfl
  unfold acquire
  rw [free]
  cases pool.free.find? (eligible completed) with
  | none => exact create_recast alike
  | some allocator =>
      dsimp only
      cases allocator.reset held <;> rfl

theorem release_recast (allocator : Allocator) (stamp : FenceValue) (held : ListId → Bool) :
    (pool.recast width).release allocator stamp held =
      ((pool.release allocator stamp held).1.recast width,
        (pool.release allocator stamp held).2) := by
  unfold release
  dsimp only
  cases Allocator.reset { allocator with stamp := stamp } held <;> rfl

end Pool

/-! ## Devices -/

/-- Setting the first storages aside comes out in the same way for the commands of both queues. -/
def DeviceConfig.StoresAlike (config : DeviceConfig) : Prop :=
  ∀ category, (Pool.new category config.maxAllocators config.initialCommandCapacity
    SoftQueue.commandWidth).StoresAlike GpuQueue.commandWidth

variable {copier : Copier}

namespace Device

def onGpu (device : Device SoftQueue) (queue : CopyingQueue copier) :
    Device (CopyingQueue copier) where
  key := device.key
  config := device.config
  fence := device.fence
  computePool := device.computePool.recast GpuQueue.commandWidth
  copyPool := device.copyPool.recast GpuQueue.commandWidth
  heap := device.heap
  library := device.library
  listsOpened := device.listsOpened
  liveLists := device.liveLists
  submissions := device.submissions
  queue := queue

/-- New storages of the device are set aside in the same way on both queues. -/
def StoresAlike (device : Device SoftQueue) : Prop :=
  ∀ category, (device.pool category).StoresAlike GpuQueue.commandWidth

variable {device : Device SoftQueue} {queue : CopyingQueue copier}

theorem pool_onGpu (device : Device SoftQueue) (queue : CopyingQueue copier)
    (category : Category) :
    (device.onGpu queue).pool category =
      (device.pool category).recast GpuQueue.commandWidth := by
  cases category <;> rfl

/-- A soft queue without work refers to no stream. -/
theorem held_of_idle (idle : device.queue.pending = []) : device.held = fun _ => false := by
  funext list
  change device.queue.pending.any _ = false
  rw [idle]
  rfl

theorem held_onGpu (device : Device SoftQueue) (queue : CopyingQueue copier) :
    (device.onGpu queue).held = fun _ => false := rfl

/-- A new device is the same on both queues. -/
theorem create_onGpu {key : Nat} {soft : SoftQueue} {config : DeviceConfig}
    (alike : config.StoresAlike) (queue : CopyingQueue copier) :
    (create key queue config).1 = (create key soft config).1.map fun device => device.onGpu queue := by
  have filled (category : Category) : initialPool queue config category =
      (initialPool soft config category).within (Pool.recast GpuQueue.commandWidth) :=
    Pool.prewarm_recast (alike category) config.prewarmAllocators
  unfold create
  rw [filled .compute, filled .copy]
  generalize initialPool soft config .compute = compute
  generalize initialPool soft config .copy = copy
  obtain ⟨_, computeResult, _⟩ := compute
  obtain ⟨_, copyResult, _⟩ := copy
  cases computeResult with
  | error error => rfl
  | ok _ => cases copyResult <;> rfl

theorem storesAlike_create {key : Nat} {soft : SoftQueue} {config : DeviceConfig}
    (alike : config.StoresAlike)
    (created : (create key soft config).1 = .ok device) :
    device.StoresAlike ∧ device.queue = soft := by
  have stored (category : Category) :
      (initialPool soft config category).state.StoresAlike GpuQueue.commandWidth :=
    (alike category).of_reserve (Pool.reserve_prewarm _ config.prewarmAllocators)
  have compute := stored .compute
  have copy := stored .copy
  unfold create at created
  generalize initialPool soft config .compute = first at created compute
  generalize initialPool soft config .copy = second at created copy
  obtain ⟨_, firstResult, _⟩ := first
  obtain ⟨_, secondResult, _⟩ := second
  cases firstResult with
  | error error => cases created
  | ok _ =>
      cases secondResult with
      | error error => cases created
      | ok _ =>
          cases created
          refine ⟨?_, rfl⟩
          intro category
          cases category with
          | compute => exact compute
          | copy => exact copy

theorem openList_onGpu (alike : device.StoresAlike) (idle : device.queue.pending = [])
    (category : Category) :
    (device.onGpu queue).openList category =
      (device.openList category).within fun opened => opened.onGpu queue := by
  have same : ((device.onGpu queue).pool category).acquire (device.onGpu queue).fence.completed
      (device.onGpu queue).held =
        ((device.pool category).acquire device.fence.completed device.held).within
          (Pool.recast GpuQueue.commandWidth) := by
    rw [pool_onGpu, held_onGpu, held_of_idle idle]
    exact Pool.acquire_recast (alike category) device.fence.completed _
  unfold openList
  rw [same]
  generalize (device.pool category).acquire device.fence.completed device.held = acquired
  obtain ⟨pool, result, events⟩ := acquired
  cases result <;> cases category <;> rfl

theorem storesAlike_withPool (alike : device.StoresAlike) {category : Category} {pool : Pool}
    (same : pool.reserve = (device.pool category).reserve) :
    (device.withPool category pool).StoresAlike :=
  forall_pool_withPool (fun _ each => each.StoresAlike GpuQueue.commandWidth)
    ((alike category).of_reserve same) fun read _ => alike read

theorem retire_onGpu (idle : device.queue.pending = []) (list : CommandList) :
    (device.onGpu queue).retire list =
      ((device.retire list).1.onGpu queue, (device.retire list).2) := by
  have same : ((device.onGpu queue).pool list.allocator.category).release list.allocator
      list.retirementStamp (device.onGpu queue).held =
        (((device.pool list.allocator.category).release list.allocator list.retirementStamp
            device.held).1.recast GpuQueue.commandWidth,
          ((device.pool list.allocator.category).release list.allocator list.retirementStamp
            device.held).2) := by
    rw [pool_onGpu, held_onGpu, held_of_idle idle]
    exact Pool.release_recast list.allocator list.retirementStamp _
  unfold retire
  dsimp only
  rw [same]
  generalize (device.pool list.allocator.category).release list.allocator list.retirementStamp
    device.held = released
  cases list.allocator.category <;> rfl

theorem ensureAllOwn_onGpu (device : Device SoftQueue) (queue : CopyingQueue copier)
    (slice : List CommandList) :
    (device.onGpu queue).ensureAllOwn slice = device.ensureAllOwn slice := by
  induction slice with
  | nil => rfl
  | cons list rest inductionHypothesis =>
      rw [ensureAllOwn, ensureAllOwn, inductionHypothesis]
      rfl

end Device

end CommandQueue
