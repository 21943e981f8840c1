import CommandQueue.Command
import CommandQueue.Text.Duration

/-!
# Events

Operations report what they did as events.  An event has a level, the part of
the library that it comes from, and a sentence.
-/

namespace CommandQueue

/-- How much an event matters. -/
inductive Level where
  | error
  | warn
  | info
  | debug
  | trace
  deriving DecidableEq, Repr

namespace Level

def name : Level → String
  | .error => "ERROR"
  | .warn => "WARN"
  | .info => "INFO"
  | .debug => "DEBUG"
  | .trace => "TRACE"

/-- The place of a level, the gravest first. -/
def rank : Level → Nat
  | .error => 1
  | .warn => 2
  | .info => 3
  | .debug => 4
  | .trace => 5

end Level

/-- Why a command failed while the queue ran it. -/
inductive Failure where
  | noPipeline
  /-- A bound table has a place without a buffer. -/
  | unresolved (error : Error)
  | panicked (kernel : KernelId) (group : Extent)
  deriving DecidableEq, Repr

def Failure.reason : Failure → String
  | .noPipeline => "dispatch without pipeline"
  | .unresolved error => error.message
  | .panicked kernel group => s!"kernel '{kernel}' panicked in group {group.text}"

inductive Event where
  | allocatorCreated (id : AllocatorId) (live : Nat)
  | allocatorReused (id : AllocatorId) (stamp : FenceValue)
  | allocatorKept (error : Error)
  | allocatorStillInFlight (id : AllocatorId)
  | allocatorReleased (id : AllocatorId) (stamp : FenceValue)
  | listOpened (category : Category) (list : ListId) (allocator : AllocatorId)
  | commandRecorded (list : ListId) (kind : CommandKind)
  | listDiscarded (list : ListId) (state : ListState)
  | descriptorsPublished (count : Nat) (range : DescriptorRange)
  | kernelRegistered (kernel : KernelId)
  | kernelCompiled (queue : String) (kernel : KernelId) (tables : Nat)
  | bindGroupCreated (kernel : KernelId) (slot : Nat) (range : DescriptorRange)
  | deviceReady (device queue : String) (descriptors : Nat)
  | submissionAccepted (device : String) (lists commands : Nat) (signal : FenceValue)
  | submissionRejected (device : String) (signal : FenceValue) (error : Error)
  | queueStarted (queue : String) (latency : Option Duration)
  | queueIdle (device : String) (last : FenceValue)
  | queueBusy (device : String) (timeout : Duration) (completed last : FenceValue)
  | teardownFailed (device : String) (error : Error)
  | commandFailed (kind : CommandKind) (failure : Failure)
  | signalCompleted (signal : FenceValue)
  | workerExited
  deriving DecidableEq, Repr

namespace Event

def level : Event → Level
  | .allocatorKept _ | .submissionRejected .. | .queueBusy .. | .teardownFailed ..
  | .commandFailed .. => .error
  | .deviceReady .. => .info
  | .allocatorCreated .. | .kernelRegistered _ | .kernelCompiled .. | .submissionAccepted ..
  | .queueStarted .. | .queueIdle .. => .debug
  | .allocatorReused .. | .allocatorStillInFlight _ | .allocatorReleased .. | .listOpened ..
  | .commandRecorded .. | .listDiscarded .. | .descriptorsPublished .. | .bindGroupCreated ..
  | .signalCompleted _ | .workerExited => .trace

/-- The part of the library that an event comes from. -/
def target : Event → String
  | .allocatorCreated .. | .allocatorReused .. | .allocatorKept _ | .allocatorStillInFlight _
  | .allocatorReleased .. => "ember_gpu::command::pool"
  | .commandRecorded .. | .listDiscarded .. => "ember_gpu::command::list"
  | .descriptorsPublished .. => "ember_gpu::binding::heap"
  | .kernelRegistered _ => "ember_gpu::pipeline::library"
  | .kernelCompiled .. | .bindGroupCreated .. => "ember_gpu::backend::webgpu"
  | .listOpened .. | .deviceReady .. | .submissionAccepted .. | .submissionRejected ..
  | .queueIdle .. | .queueBusy .. | .teardownFailed .. => "ember_gpu::device::gpu"
  | .queueStarted .. | .commandFailed .. | .signalCompleted _
  | .workerExited => "ember_gpu::backend::soft"

def text : Event → String
  | .allocatorCreated id live => s!"created allocator {id.text} ({live} live)"
  | .allocatorReused id stamp => s!"reusing allocator {id.text} (stamp {stamp})"
  | .allocatorKept error => s!"{error.message}; keeping it pooled"
  | .allocatorStillInFlight id => s!"allocator {id.text} still in flight at release"
  | .allocatorReleased id stamp => s!"released allocator {id.text} at stamp {stamp}"
  | .listOpened category list allocator =>
      s!"opened {category.text} list {list.text} on allocator {allocator.text}"
  | .commandRecorded list kind => s!"list {list.text} records {kind.name}"
  | .listDiscarded list state => s!"list {list.text} discarded while {state.text}"
  | .descriptorsPublished count range => s!"published {count} descriptors at {range.text}"
  | .kernelRegistered kernel => s!"registered pipeline bundle for kernel '{kernel}'"
  | .kernelCompiled queue kernel tables =>
      s!"{queue}: compiled kernel '{kernel}' ({tables} tables)"
  | .bindGroupCreated kernel slot range =>
      s!"created bind group for '{kernel}' slot {slot} {range.text}"
  | .deviceReady device queue descriptors =>
      s!"{device}: device ready on '{queue}' backend ({descriptors} descriptors)"
  | .submissionAccepted device lists commands signal =>
      s!"{device}: submitted {lists} list(s), {commands} command(s), fence {signal}"
  | .submissionRejected device signal error =>
      s!"{device}: submission at fence {signal} rejected: {error.message}"
  | .queueStarted queue latency =>
      let shown := Text.optional (latency.map Duration.text)
      s!"soft queue '{queue}' started (latency {shown})"
  | .queueIdle device last => s!"{device}: queue idle at fence {last}"
  | .queueBusy device timeout completed last =>
      s!"{device}: queue still busy after {timeout.text} " ++
        s!"(completed {completed}, last issued {last})"
  | .teardownFailed device error => s!"{device}: teardown wait failed: {error.message}"
  | .commandFailed kind failure => s!"soft queue: {kind.name} failed: {failure.reason}"
  | .signalCompleted signal => s!"soft queue completed fence {signal}"
  | .workerExited => "soft queue worker exiting"

end Event

end CommandQueue
