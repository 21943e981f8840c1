import CommandQueue.Demo.LogFilter
import CommandQueue.Demo.Particle
import CommandQueue.Device
import CommandQueue.Queue.Soft
import CommandQueue.Text.Fixed

/-!
# The simulation

The demonstration moves four batches of particles on a soft queue.  In each
frame every batch has a worker, which records a list that moves the batch, hands
it over, and lets it go once it has run.  A schedule gives the order in which the
workers and the queue take their steps in a frame.  At the end of the frame a
copy of the first batch shows where its first particle is.
-/

namespace CommandQueue.Demo

structure Simulation where
  device : Device SoftQueue
  scene : Scene
  /-- The list that each worker is busy with, if there is one. -/
  lists : List (Option CommandList)
  /-- What was reported, the last record first. -/
  log : List LogRecord

/-- A part of the simulation: it changes the state and may be refused by the library.  What it
changed and reported before a refusal stays. -/
abbrev Simulated := ExceptT Error (StateM Simulation)

def LogRecord.ofEvent (event : Event) : LogRecord :=
  ⟨event.level, event.target, event.text⟩

def LogRecord.note (text : String) : LogRecord := ⟨.info, "ember_demo", text⟩

namespace Simulation

/-- The number of batches, each with a worker of its own. -/
def workers : Nat := 4

def batchSize : Nat := 64

/-- How long the queue waits before it runs a submission. -/
def latency : Duration := Duration.ofMilliseconds 2

def queueLabel : String := "demo-queue"

/-- The device has an allocator for each worker from the start. -/
def config : DeviceConfig :=
  { DeviceConfig.standard with label := "demo", prewarmAllocators := workers }

/-- The particles of a batch at the start: in a row, one batch above the other, and all of them
moving along the row. -/
def batch (number : Nat) : List Particle :=
  (List.range batchSize).map fun place =>
    ⟨Float32.ofNat place, Float32.ofNat 10 * Float32.ofNat number, Float32.ofNat 1,
      Float32.ofNat 0⟩

def bundle : Bundle := ⟨0, "integrate", 1, integrate⟩

def report (records : List LogRecord) : Simulated Unit :=
  modify fun simulation =>
    { simulation with log := records.reverse ++ simulation.log }

def reportEvents (events : List Event) : Simulated Unit :=
  report (events.map LogRecord.ofEvent)

def note (text : String) : Simulated Unit := report [LogRecord.note text]

def onDevice {α : Type} (work : Device SoftQueue → Outcome (Device SoftQueue) α) :
    Simulated α := do
  let outcome := work (← get).device
  modify fun simulation => { simulation with device := outcome.state }
  reportEvents outcome.events
  MonadExcept.ofExcept outcome.result

def registerBundle (device : Device SoftQueue) : Outcome (Device SoftQueue) Bundle :=
  (device.library.register bundle).within fun library => { device with library := library }

def publish (buffer : Buffer) (device : Device SoftQueue) :
    Outcome (Device SoftQueue) DescriptorRange :=
  let (heap, result) := device.heap.publish [buffer]
  let events :=
    match result with
    | .ok range => [.descriptorsPublished 1 range]
    | .error _ => []
  ⟨{ device with heap := heap }, result, events⟩

def allocate (contents : Bytes) : Simulated Buffer := do
  let (memory, buffer) := (← get).scene.memory.allocate contents
  modify fun simulation =>
    { simulation with scene := { simulation.scene with memory := memory } }
  return buffer

def recordCalls (list : CommandList) : List Call → Simulated CommandList
  | [] => return list
  | call :: rest => do
      let next ← MonadExcept.ofExcept (list.record call)
      reportEvents [.commandRecorded list.id call.command.kind]
      recordCalls next rest

def recordNew (category : Category) (calls : List Call) : Simulated CommandList := do
  let list ← onDevice fun device => device.openList category
  recordCalls list calls

def handOver (list : CommandList)
    (execute : Device SoftQueue → CommandList → Device.Executed SoftQueue) :
    Simulated CommandList := do
  let executed := execute (← get).device list
  modify fun simulation => { simulation with device := executed.device }
  reportEvents executed.events
  let _ ← MonadExcept.ofExcept executed.result
  return executed.lists.headD list

/-- Wait until the queue has run its next submission. -/
def wait : Simulated Unit := do
  let simulation ← get
  let device := simulation.device
  let ran := device.queue.runNext device.fence device.heap simulation.scene
  set { simulation with
    device := { device with queue := ran.queue, fence := ran.fence }
    scene := ran.scene }
  reportEvents ran.events

def letGo (list : CommandList) : Simulated Unit := do
  let (device, events) := (← get).device.retire list
  modify fun simulation => { simulation with device := device }
  reportEvents events

/-- What the worker of a batch records. -/
def workerCalls (range : DescriptorRange) : List Call :=
  [.bindPipeline bundle, .bindTable 0 range, .dispatch ⟨batchSize, 1, 1⟩]

structure Stage where
  first : Buffer
  snapshot : Buffer
  ranges : List DescriptorRange

def snapshotCalls (stage : Stage) : List Call :=
  [.copyRegion ⟨stage.first, 0, stage.snapshot, 0, stage.snapshot.size⟩]

def frameText (frame : Nat) (value : FenceValue) (particle : Particle) : String :=
  s!"frame {frame}: fence {value}, particle 0 at " ++
    s!"({Text.fixed 3 particle.x}, {Text.fixed 3 particle.y})"

/-- The list that a worker is busy with. -/
def listOf? (worker : Nat) : Simulated (Option CommandList) :=
  return ((← get).lists[worker]?).join

/-- Give a worker a list, or leave it without one. -/
def assign (worker : Nat) (list : Option CommandList) : Simulated Unit :=
  modify fun simulation =>
    { simulation with lists := simulation.lists.set worker list }

/-- What a worker or the queue does next. -/
inductive Step where
  /-- A worker opens a list and records the move of its batch. -/
  | record (worker : Nat)
  /-- A worker hands its list over to the queue. -/
  | handOver (worker : Nat)
  /-- The queue runs its next submission. -/
  | run
  /-- A worker lets its list go. -/
  | letGo (worker : Nat)
  deriving DecidableEq, Repr

/-- Take one step; a worker without the list that a step needs does nothing. -/
def take (stage : Stage) : Step → Simulated Unit
  | .record worker => do
      if let some range := stage.ranges[worker]? then
        assign worker (some (← recordNew .compute (workerCalls range)))
  | .handOver worker => do
      if let some list := ← listOf? worker then
        assign worker (some (← handOver list Device.executeOpen))
  | .run => wait
  | .letGo worker => do
      if let some list := ← listOf? worker then
        letGo list
        assign worker none

/-- The steps of a frame in which the workers begin in turn, each of them handing its list over
before any list has run. -/
def inTurn : List Step :=
  ((List.range workers).flatMap fun worker => [.record worker, .handOver worker]) ++
    (List.range workers).flatMap fun worker => [.run, .letGo worker]

def runFrame (stage : Stage) (steps : List Step) (frame : Nat) : Simulated Unit := do
  steps.forM (take stage)
  let list ← recordNew .copy (snapshotCalls stage)
  let copy ← handOver list fun device list => device.execute [list]
  wait
  let memory := (← get).scene.memory
  match memory.readAt? Particle.element stage.snapshot 0, copy.submitted with
  | some particle, some value => note (frameText frame value particle)
  | _, _ => pure ()
  letGo copy

def prepare : Simulated Stage := do
  let _ ← onDevice registerBundle
  let batches ← (List.range workers).mapM fun number =>
    allocate (Particle.element.encodeAll (batch number))
  let ranges ← batches.mapM fun buffer => onDevice (publish buffer)
  let first := batches.headD ⟨0, 0⟩
  let snapshot ← allocate (List.replicate first.size 0)
  return ⟨first, snapshot, ranges⟩

def summary (frames : Nat) (time : Duration) (stats : DeviceStats) : List String :=
  (s!"{frames} frame(s) in {time.text}: {stats.submissions} submissions, " ++
      s!"fence {stats.completed}/{stats.lastIssued}") ::
    stats.pools.map fun pool =>
      s!"{pool.category.text} pool: {pool.live} allocator(s), {pool.available} idle"

/-- How long a simulation takes on which the queue runs nothing. -/
def overhead : Duration := ⟨131⟩

/-- How long the queue is busy with a submission, the wait before it included. -/
def turnaround : Duration := ⟨latency.nanoseconds + 117373⟩

/-- How long a simulation takes on a queue that has run its submissions one after the other. -/
def elapsed (queue : SoftQueue) : Duration :=
  ⟨overhead.nanoseconds + turnaround.nanoseconds * queue.executed⟩

/-- The whole simulation, each frame with its own order of steps. -/
def run (frames : Nat) (schedule : Nat → List Step) : Simulated Unit := do
  let stage ← prepare
  (List.range frames).forM fun frame => runFrame stage (schedule frame) frame
  let device := (← get).device
  report ((summary frames (elapsed device.queue) device.stats).map LogRecord.note)

end Simulation

structure Simulation.Report where
  log : List LogRecord
  result : Except Error Unit

def simulate (frames : Nat) (schedule : Nat → List Simulation.Step) : Simulation.Report :=
  let queueStarted := Event.queueStarted Simulation.queueLabel (some Simulation.latency)
  let queue := SoftQueue.new Simulation.queueLabel
  let (created, events) := Device.create 0 queue Simulation.config
  let opening := (queueStarted :: events).map LogRecord.ofEvent
  match created with
  | .error error => ⟨opening ++ [.ofEvent .workerExited], .error error⟩
  | .ok device =>
      let (result, final) :=
        (Simulation.run frames schedule).run.run
          ⟨device, Scene.empty, List.replicate Simulation.workers none, opening.reverse⟩
      ⟨final.log.reverse ++ [.ofEvent final.device.teardown, .ofEvent .workerExited], result⟩

end CommandQueue.Demo
