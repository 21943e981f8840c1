import CommandQueue.CommandList
import CommandQueue.Library
import CommandQueue.Pool
import CommandQueue.Queue

/-!
# Devices

A device joins a queue with a timeline, a pool of allocators for each category,
a descriptor heap and a pipeline library.  It opens command lists, hands them to
the queue, and takes their allocators back.

A submission takes effect for all its lists or for none.  Lists of another
device and lists already submitted are refused before anything happens; if the
queue refuses, the value handed out for the submission is taken back and the
lists stay closed, ready to be handed over again.
-/

namespace CommandQueue

structure DeviceConfig where
  label : String
  descriptorHeapCapacity : Nat
  /-- The greatest number of allocators in each category, if there is one. -/
  maxAllocators : Option Nat
  /-- The number of allocators created in each category at the start. -/
  prewarmAllocators : Nat
  /-- The number of commands for which a new allocator has room at once. -/
  initialCommandCapacity : Nat
  /-- How long the end of the device waits for its queue. -/
  teardownTimeout : Duration
  deriving DecidableEq, Repr

namespace DeviceConfig

/-- The configuration of a device that was given none. -/
def standard : DeviceConfig where
  label := "ember device"
  descriptorHeapCapacity := 1024
  maxAllocators := some 64
  prewarmAllocators := 0
  initialCommandCapacity := 64
  teardownTimeout := Duration.ofSeconds 5

def structural (config : DeviceConfig) : String :=
  Text.record "DeviceInit"
    [("label", Text.quoted config.label),
      ("descriptor_heap_capacity", toString config.descriptorHeapCapacity),
      ("max_allocators_per_category", Text.optional (config.maxAllocators.map toString)),
      ("prewarm_allocators", toString config.prewarmAllocators),
      ("initial_command_capacity", toString config.initialCommandCapacity),
      ("teardown_timeout", config.teardownTimeout.text)]

end DeviceConfig

structure PoolStats where
  category : Category
  live : Nat
  available : Nat
  deriving DecidableEq, Repr

structure DeviceStats where
  submissions : Nat
  liveLists : Nat
  lastIssued : FenceValue
  completed : FenceValue
  descriptorsAllocated : Nat
  pools : List PoolStats
  deriving DecidableEq, Repr

namespace DeviceStats

def structural (stats : DeviceStats) : String :=
  let shown (pool : PoolStats) : String :=
    Text.record "PoolStats"
      [("category", pool.category.structural), ("live", toString pool.live),
        ("available", toString pool.available)]
  Text.record "DeviceStats"
    [("submissions", toString stats.submissions), ("live_lists", toString stats.liveLists),
      ("last_issued", FenceValue.structural stats.lastIssued),
      ("completed", FenceValue.structural stats.completed),
      ("descriptors_allocated", toString stats.descriptorsAllocated),
      ("pools", Text.listing (stats.pools.map shown))]

end DeviceStats

/-- A queue with all that is needed to record work for it. -/
structure Device (σ : Type) where
  /-- What tells the device apart from others. -/
  key : Nat
  config : DeviceConfig
  fence : Fence
  computePool : Pool
  copyPool : Pool
  heap : DescriptorHeap
  library : Library
  listsOpened : Nat
  /-- The number of lists opened and not retired. -/
  liveLists : Nat
  /-- The number of submissions that the queue has accepted. -/
  submissions : Nat
  queue : σ

namespace Device

variable {σ : Type}

def pool (device : Device σ) : Category → Pool
  | .compute => device.computePool
  | .copy => device.copyPool

def withPool (device : Device σ) (category : Category) (pool : Pool) : Device σ :=
  match category with
  | .compute => { device with computePool := pool }
  | .copy => { device with copyPool := pool }

@[simp]
theorem pool_withPool_self (device : Device σ) (category : Category) (pool : Pool) :
    (device.withPool category pool).pool category = pool := by
  cases category <;> rfl

theorem pool_withPool_of_ne (device : Device σ) {written read : Category} (pool : Pool)
    (different : read ≠ written) :
    (device.withPool written pool).pool read = device.pool read := by
  cases written <;> cases read <;> simp_all [withPool, Device.pool]

def stats (device : Device σ) : DeviceStats where
  submissions := device.submissions
  liveLists := device.liveLists
  lastIssued := device.fence.issued
  completed := device.fence.completed
  descriptorsAllocated := device.heap.allocated
  pools := Category.all.map fun category =>
    ⟨category, (device.pool category).live, (device.pool category).free.length⟩

section Queued

variable [Queue σ]

/-- Whether the device's queue still refers to the stream of a list. -/
def held (device : Device σ) : ListId → Bool := Queue.holds device.queue

/-- A pool as a device with this configuration begins with it on a queue. -/
def initialPool (queue : σ) (config : DeviceConfig) (category : Category) : Outcome Pool Unit :=
  (Pool.new category config.maxAllocators config.initialCommandCapacity
    (Queue.commandWidth queue)).prewarm config.prewarmAllocators

/-- Set up a device on a queue, if its pools can be filled. -/
def create (key : Nat) (queue : σ) (config : DeviceConfig) :
    Except Error (Device σ) × List Event :=
  let compute := initialPool queue config .compute
  match compute.result with
  | .error error => (.error error, compute.events)
  | .ok () =>
      let copy := initialPool queue config .copy
      let filled := compute.events ++ copy.events
      match copy.result with
      | .error error => (.error error, filled)
      | .ok () =>
          let device : Device σ :=
            { key := key
              config := config
              fence := Fence.new
              computePool := compute.state
              copyPool := copy.state
              heap := DescriptorHeap.new config.descriptorHeapCapacity
              library := Library.empty
              listsOpened := 0
              liveLists := 0
              submissions := 0
              queue := queue }
          (.ok device, filled ++
            [.deviceReady config.label (Queue.label queue) config.descriptorHeapCapacity])

def openList (device : Device σ) (category : Category) : Outcome (Device σ) CommandList :=
  let acquired := (device.pool category).acquire device.fence.completed device.held
  (acquired.within (device.withPool category)).andThen fun lent allocator =>
    let id : ListId := ⟨lent.listsOpened + 1⟩
    let heapCapacity := if category.usesDescriptors then some lent.heap.capacity else none
    .done
      { lent with
        listsOpened := lent.listsOpened + 1
        liveLists := lent.liveLists + 1 }
      (CommandList.opened id lent.key category allocator heapCapacity)
      [.listOpened category id allocator.id]

/-- Refuse a list that this device cannot hand to its queue. -/
def ensureOwn (device : Device σ) (list : CommandList) : Except Error Unit :=
  if list.device = device.key then
    list.ensureSubmittable
  else
    .error (.foreignCommandList list.id)

/-- The error of the first list that this device cannot hand to its queue. -/
def ensureAllOwn (device : Device σ) : List CommandList → Except Error Unit
  | [] => .ok ()
  | list :: rest =>
      match device.ensureOwn list with
      | .error error => .error error
      | .ok () => device.ensureAllOwn rest

/-- What is left of a device and some of its lists after they were handed to its queue. -/
structure Executed (σ : Type) where
  device : Device σ
  lists : List CommandList
  result : Except Error FenceValue
  events : List Event

/-- The submission of frozen lists: their streams, with the next value of the timeline. -/
def submission (device : Device σ) (lists : List CommandList) : Submission :=
  ⟨device.fence.signalNext.2, lists.map CommandList.stream⟩

/-- Hand frozen lists to the queue under the next value of the timeline. -/
def submitFrozen (device : Device σ) (lists : List CommandList) : Executed σ :=
  let (reserved, signal) := device.fence.signalNext
  let submission := device.submission lists
  let taken := Queue.submit device.queue reserved device.heap submission
  match taken.result with
  | .error error =>
      -- The value is taken back, so that the next submission has it again.
      { device :=
          { device with
            queue := taken.state.queue
            fence := taken.state.fence.cancel signal }
        lists := lists
        result := .error error
        events := taken.events ++ [.submissionRejected device.config.label signal error] }
  | .ok () =>
      { device :=
          { device with
            queue := taken.state.queue
            fence := taken.state.fence
            submissions := device.submissions + 1 }
        lists := lists.map fun list => list.markSubmitted signal
        result := .ok signal
        events := taken.events ++
          [.submissionAccepted device.config.label lists.length submission.commandCount signal] }

/-- Hand lists to the queue, all of them or none. -/
def execute (device : Device σ) (lists : List CommandList) : Executed σ :=
  match device.ensureAllOwn lists with
  | .error error => ⟨device, lists, .error error, []⟩
  | .ok () => device.submitFrozen (lists.map CommandList.freeze)

/-- Hand one list to the queue for a caller who then waits for it; only an open list admits
this. -/
def executeOpen (device : Device σ) (list : CommandList) : Executed σ :=
  match list.ensureOpen "execute_and_wait" with
  | .error error => ⟨device, [list], .error error, []⟩
  | .ok () => device.execute [list]

/-- Take back the allocator of a list that is no longer needed. -/
def retire (device : Device σ) (list : CommandList) : Device σ × List Event :=
  let stamp := list.retirementStamp
  let discarded : List Event :=
    if list.submitted.isSome then [] else [.listDiscarded list.id list.state]
  let category := list.allocator.category
  let (pool, released) := (device.pool category).release list.allocator stamp device.held
  ({ device.withPool category pool with liveLists := device.liveLists - 1 },
    discarded ++ released)

/-- Let the queue run whatever it has taken. -/
def settle (device : Device σ) (scene : Scene) : Device σ × Scene × List Event :=
  let settled := Queue.settle device.queue device.fence device.heap scene
  ({ device with queue := settled.queue, fence := settled.fence }, settled.scene, settled.events)

/-- What the end of a device reports about its queue, which gets no more time. -/
def teardown (device : Device σ) : Event :=
  let last := device.fence.issued
  match device.fence.reached last with
  | .ok true => .queueIdle device.config.label last
  | .ok false =>
      .queueBusy device.config.label device.config.teardownTimeout device.fence.completed last
  | .error error => .teardownFailed device.config.label error

end Queued

end Device

end CommandQueue
