import CommandQueue.Queue.Gpu
import CommandQueue.Queue.Manual
import CommandQueue.Queue.Soft

/-!
# The queues of a script

A script chooses one kind of queue for all its devices.
-/

namespace CommandQueue.Script

inductive BackendKind where
  | soft
  | manual
  | gpu
  deriving DecidableEq, Repr

def BackendKind.ofName? : String → Option BackendKind
  | "soft" => some .soft
  | "manual" => some .manual
  | "wgpu" => some .gpu
  | _ => none

def BackendKind.defaultLabel : BackendKind → String
  | .soft => SoftQueue.defaultLabel
  | .manual => ManualQueue.defaultLabel
  | .gpu => GpuQueue.defaultLabel

def BackendKind.commandWidth : BackendKind → Nat
  | .soft => SoftQueue.commandWidth
  | .manual => ManualQueue.commandWidth
  | .gpu => GpuQueue.commandWidth

/-- Whether a queue of this kind can have a name.  A queue that works in its own time gives its name
to its worker, and the name of a worker holds no zero character. -/
def BackendKind.admits (kind : BackendKind) (label : String) : Bool :=
  kind == .manual || !label.contains '\x00'

/-- A queue of any kind. -/
inductive Backend where
  | soft (queue : SoftQueue)
  | manual (queue : ManualQueue)
  | gpu (queue : GpuQueue)

namespace Backend

def new (kind : BackendKind) (label : String) : Backend :=
  match kind with
  | .soft => .soft (SoftQueue.new label)
  | .manual => .manual (ManualQueue.new label)
  | .gpu => .gpu (GpuQueue.new label)

/-- A queue of one kind that took a submission, as a queue of any kind. -/
def taken {σ : Type} (wrap : σ → Backend) (outcome : Outcome (Clocked σ) Unit) :
    Outcome (Clocked Backend) Unit :=
  outcome.within fun clocked => ⟨wrap clocked.queue, clocked.fence⟩

/-- A queue of one kind that was left to run, as a queue of any kind. -/
def settled {σ : Type} (wrap : σ → Backend) (result : Settled σ) : Settled Backend :=
  ⟨wrap result.queue, result.fence, result.scene, result.events⟩

instance : Queue Backend where
  label
    | .soft queue => Queue.label queue
    | .manual queue => Queue.label queue
    | .gpu queue => Queue.label queue
  commandWidth
    | .soft queue => Queue.commandWidth queue
    | .manual queue => Queue.commandWidth queue
    | .gpu queue => Queue.commandWidth queue
  holds
    | .soft queue => Queue.holds queue
    | .manual queue => Queue.holds queue
    | .gpu queue => Queue.holds queue
  submit backend fence heap submission :=
    match backend with
    | .soft queue => taken .soft (Queue.submit queue fence heap submission)
    | .manual queue => taken .manual (Queue.submit queue fence heap submission)
    | .gpu queue => taken .gpu (Queue.submit queue fence heap submission)
  settle backend fence heap scene :=
    match backend with
    | .soft queue => settled .soft (Queue.settle queue fence heap scene)
    | .manual queue => settled .manual (Queue.settle queue fence heap scene)
    | .gpu queue => settled .gpu (Queue.settle queue fence heap scene)

/-- The counters of a queue, if it has any. -/
def counters : Backend → Option (List Nat)
  | .soft queue => some [queue.submitted, queue.executed, queue.faults]
  | .manual queue =>
      some [queue.accepted, queue.rejected, queue.pending.length, queue.held.length]
  | .gpu _ => none

end Backend

end CommandQueue.Script
