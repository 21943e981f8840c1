import CommandQueue.Device
import CommandQueue.Proofs.Conduct
import CommandQueue.Proofs.Journal
import CommandQueue.Proofs.Lending
import Mathlib.Data.List.Nodup
import Mathlib.Logic.Relation

/-!
# Runs of a device

A `World` is a device with the lists that were opened on it and not dropped yet.
It also keeps a journal of what its callers did, and the submissions that its
queue has accepted.  A run is a chain of steps in any order: lists are opened,
recorded, closed, handed over and dropped, and in between the queue moves by
itself, descriptors are written, kernels are registered, and memory becomes
short or ample again.

Allocators leave the pools of the device only by opening a list and come back
only by dropping it.  Lists of other devices may stand among the lists that are
handed over.
-/

namespace CommandQueue

/-- A device in use. -/
structure World (σ : Type) where
  device : Device σ
  /-- The lists opened and not dropped, in the order in which they were opened. -/
  lists : List CommandList
  /-- What the callers achieved. -/
  journal : Journal
  /-- The submissions that the queue has accepted, the first one first. -/
  entries : List Submission

/-- Two values show the same list, if not at the same time. -/
def CommandList.isSame (left right : CommandList) : Bool :=
  left.device == right.device && left.id == right.id

/-- The idle allocators of both pools. -/
def Device.pooled {σ : Type} (device : Device σ) : List Allocator :=
  device.computePool.free ++ device.copyPool.free

namespace World

variable {σ : Type}

def start (device : Device σ) : World σ := ⟨device, [], [], []⟩

def clocked (world : World σ) : Clocked σ := ⟨world.device.queue, world.device.fence⟩

/-- All allocators, idle or in the hands of a list. -/
def allocators (world : World σ) : List Allocator :=
  world.device.pooled ++ world.lists.map CommandList.allocator

/-- The lists after those that came back from a call were put in their places. -/
def keep (lists returned : List CommandList) : List CommandList :=
  lists.map fun list => (returned.find? list.isSame).getD list

/-- A caller can hand over lists that exist, each of them once. -/
structure Offers (world : World σ) (slice : List CommandList) : Prop where
  present : ∀ list ∈ slice, list.device = world.device.key → list ∈ world.lists
  once : slice.Pairwise fun left right => left.isSame right = false

theorem offers_singleton {world : World σ} {list : CommandList} (member : list ∈ world.lists) :
    world.Offers [list] := by
  refine ⟨?_, List.pairwise_singleton _ _⟩
  intro offered chosen _
  rw [List.mem_singleton.mp chosen]
  exact member

section Queued

variable [Queue σ]

def openList (world : World σ) (category : Category) : World σ :=
  let opened := world.device.openList category
  match opened.result with
  | .error _ => { world with device := opened.state }
  | .ok list =>
      { world with
        device := opened.state
        lists := world.lists ++ [list]
        journal := world.journal ++ [.opened list.id list.allocator.id] }

def record (world : World σ) (list : CommandList) (call : Call) : World σ :=
  match list.record call with
  | .error _ => world
  | .ok next =>
      { world with
        lists := keep world.lists [next]
        journal := world.journal ++ [.recorded list.id call.command] }

def close (world : World σ) (list : CommandList) : World σ :=
  match list.close with
  | .error _ => world
  | .ok closed => { world with lists := keep world.lists [closed] }

/-- Put back what came of handing lists to the queue. -/
def handOver (world : World σ) (slice : List CommandList) (executed : Device.Executed σ) :
    World σ :=
  let kept :=
    { world with
      device := executed.device
      lists := keep world.lists executed.lists }
  match executed.result with
  | .error _ => kept
  | .ok signal =>
      { kept with
        journal := world.journal ++ [.accepted signal (slice.map CommandList.id)]
        entries := world.entries ++ [world.device.submission (slice.map CommandList.freeze)] }

def execute (world : World σ) (slice : List CommandList) : World σ :=
  world.handOver slice (world.device.execute slice)

/-- Hand one open list to the queue, for a caller who waits for it. -/
def executeOpen (world : World σ) (list : CommandList) : World σ :=
  world.handOver [list] (world.device.executeOpen list)

def drop (world : World σ) (list : CommandList) : World σ :=
  { world with
    device := (world.device.retire list).1
    lists := world.lists.eraseP list.isSame }

def moved (world : World σ) (after : Clocked σ) : World σ :=
  { world with
    device := { world.device with queue := after.queue, fence := after.fence } }

/-- The beginning of a run: a new device whose queue refers to nothing yet. -/
inductive Begins : World σ → Prop
  | new {key : Nat} {queue : σ} {config : DeviceConfig} {device : Device σ}
      (created : (Device.create key queue config).1 = .ok device)
      (unheld : ∀ list, Queue.holds queue list = false) :
      Begins (start device)

/-- One step of a run, with a queue that moves by itself as `moves` says. -/
inductive Step (moves : Clocked σ → Clocked σ → Prop) : World σ → World σ → Prop
  | opens (world : World σ) (category : Category) :
      Step moves world (world.openList category)
  | records {world : World σ} {list : CommandList} (member : list ∈ world.lists)
      (call : Call) :
      Step moves world (world.record list call)
  | closes {world : World σ} {list : CommandList} (member : list ∈ world.lists) :
      Step moves world (world.close list)
  | executes {world : World σ} {slice : List CommandList} (offers : world.Offers slice) :
      Step moves world (world.execute slice)
  | executesOpen {world : World σ} {list : CommandList} (member : list ∈ world.lists) :
      Step moves world (world.executeOpen list)
  | drops {world : World σ} {list : CommandList} (member : list ∈ world.lists) :
      Step moves world (world.drop list)
  | prepares {world : World σ} {heap : DescriptorHeap} (library : Library)
      (capacity : heap.capacity = world.device.heap.capacity) :
      Step moves world
        { world with device := { world.device with heap := heap, library := library } }
  | reserves (world : World σ) (category : Category) (memory : Nat) :
      Step moves world
        { world with
          device :=
            world.device.withPool category
              { world.device.pool category with memory := memory } }
  | moves {world : World σ} {after : Clocked σ} (moved : moves world.clocked after) :
      Step moves world (world.moved after)

/-- One world leads to another by steps. -/
abbrev Leads (moves : Clocked σ → Clocked σ → Prop) : World σ → World σ → Prop :=
  Relation.ReflTransGen (Step moves)

/-- What a device is like before anything has happened. -/
structure Fresh (world : World σ) : Prop where
  fence : world.device.fence = Fence.new
  liveLists : world.device.liveLists = 0
  submissions : world.device.submissions = 0
  untouched : ∀ category, (world.device.pool category).Untouched
  category : ∀ category, (world.device.pool category).category = category
  limit : ∀ category, (world.device.pool category).limit = world.device.config.maxAllocators
  unheld : ∀ list, Queue.holds world.device.queue list = false
  lists : world.lists = []
  journal : world.journal = []
  entries : world.entries = []

theorem Begins.fresh {start : World σ} (begun : start.Begins) : start.Fresh := by
  cases begun with
  | @new key queue config device created unheld =>
      have pools :
          ∀ category, (Device.initialPool queue config category).state.Untouched ∧
            (Device.initialPool queue config category).state.category = category ∧
            (Device.initialPool queue config category).state.limit = config.maxAllocators :=
        fun category => (Pool.Untouched.new category _ _ _).prewarm _
      unfold Device.create at created
      dsimp only at created
      split at created
      · cases created
      · split at created
        · cases created
        · cases created
          refine ⟨rfl, rfl, rfl, ?_, ?_, ?_, unheld, rfl, rfl, rfl⟩
          · intro category
            cases category
            · exact (pools .compute).1
            · exact (pools .copy).1
          · intro category
            cases category
            · exact (pools .compute).2.1
            · exact (pools .copy).2.1
          · intro category
            cases category
            · exact (pools .compute).2.2
            · exact (pools .copy).2.2

/-! ## A small device -/

/-- One allocator for each category, and no more. -/
def smallConfig : DeviceConfig :=
  { DeviceConfig.standard with maxAllocators := some 1, prewarmAllocators := 1 }

/-- A new device that keeps one allocator for each category. -/
def small (queue : σ) : World σ :=
  start
    { key := 0
      config := smallConfig
      fence := Fence.new
      computePool := (Device.initialPool queue smallConfig .compute).state
      copyPool := (Device.initialPool queue smallConfig .copy).state
      heap := DescriptorHeap.new smallConfig.descriptorHeapCapacity
      library := Library.empty
      listsOpened := 0
      liveLists := 0
      submissions := 0
      queue := queue }

/-- A copy of a word from one end of a buffer to the other. -/
def shift : Call := .copyRegion ⟨⟨0, 16⟩, 0, ⟨0, 16⟩, 8, 8⟩

def firstCopy : CommandList :=
  CommandList.opened ⟨1⟩ 0 .copy (Allocator.new ⟨.copy, 0⟩) none

def takenCopy : CommandList := (firstCopy.append shift.command).freeze.markSubmitted 1

def recordedCopy (queue : σ) : World σ :=
  ((small queue).openList .copy).record firstCopy shift

def busy (queue : σ) : World σ :=
  (((small queue).openList .copy).record firstCopy shift).execute
    [firstCopy.append shift.command]

theorem begins_small {queue : σ}
    (filled : ∀ category, (Device.initialPool queue smallConfig category).result = .ok ())
    (unheld : ∀ list, Queue.holds queue list = false) : (small queue).Begins := by
  have created : (Device.create 0 queue smallConfig).1 = .ok (small queue).device := by
    simp only [Device.create, filled]
    rfl
  exact Begins.new created unheld

theorem lists_recordedCopy {queue : σ}
    (opened : ((small queue).openList .copy).lists = [firstCopy]) :
    (recordedCopy queue).lists = [firstCopy.append shift.command] := by
  have accepted : firstCopy.record shift = .ok (firstCopy.append shift.command) := rfl
  simp only [recordedCopy, record, accepted, keep, opened]
  rfl

theorem leads_recordedCopy {moves : Clocked σ → Clocked σ → Prop} {queue : σ}
    (opened : ((small queue).openList .copy).lists = [firstCopy]) :
    Leads moves (small queue) (recordedCopy queue) := by
  have member : firstCopy ∈ ((small queue).openList .copy).lists := by
    rw [opened]
    exact List.mem_singleton_self firstCopy
  have first : Leads moves (small queue) ((small queue).openList .copy) :=
    Relation.ReflTransGen.single (Step.opens (small queue) .copy)
  exact first.tail (Step.records member shift)

theorem offers_recordedCopy {queue : σ}
    (opened : ((small queue).openList .copy).lists = [firstCopy]) :
    (recordedCopy queue).Offers [firstCopy.append shift.command] := by
  apply offers_singleton
  rw [lists_recordedCopy opened]
  exact List.mem_singleton_self _

theorem leads_busy {moves : Clocked σ → Clocked σ → Prop} {queue : σ}
    (opened : ((small queue).openList .copy).lists = [firstCopy]) :
    Leads moves (small queue) (busy queue) :=
  (leads_recordedCopy opened).tail (Step.executes (offers_recordedCopy opened))

end Queued

/-- The manual queue has completed a copy and still refers to it; the list is gone. -/
def early : World ManualQueue :=
  let world := busy (ManualQueue.new ManualQueue.defaultLabel)
  (world.moved ⟨world.device.queue, ⟨1, 1⟩⟩).drop takenCopy

theorem begins_manual : (small (ManualQueue.new ManualQueue.defaultLabel)).Begins := by
  refine begins_small ?_ fun _ => rfl
  intro category
  cases category <;> rfl

theorem leads_early :
    Leads Queue.AnyMove (small (ManualQueue.new ManualQueue.defaultLabel)) early := by
  refine ((leads_busy rfl).tail (Step.moves ?_)).tail (Step.drops ?_)
  · exact ⟨⟨[1], rfl⟩, fun _ held => held⟩
  · exact List.mem_singleton_self takenCopy

/-- The soft queue has run a copy; the list is gone. -/
def served : World SoftQueue :=
  let world := busy (SoftQueue.new SoftQueue.defaultLabel)
  let ran := world.device.queue.runNext world.device.fence world.device.heap Scene.empty
  (world.moved ⟨ran.queue, ran.fence⟩).drop takenCopy

theorem begins_soft : (small (SoftQueue.new SoftQueue.defaultLabel)).Begins := by
  refine begins_small ?_ fun _ => rfl
  intro category
  cases category <;> rfl

theorem leads_served :
    Leads SoftQueue.Runs (small (SoftQueue.new SoftQueue.defaultLabel)) served := by
  refine ((leads_busy rfl).tail (Step.moves ?_)).tail (Step.drops ?_)
  · exact SoftQueue.Runs.next _ _ rfl (Nat.le_refl 1)
  · exact List.mem_singleton_self takenCopy

end World

end CommandQueue
