import CommandQueue.Queue.Execution

/-!
# The soft queue

The soft queue runs submissions by interpreting their streams.  It takes every
submission, keeps it until its turn comes, and runs them in the order in which
they were taken.  After a submission it lets its streams go and then completes
its signal.
-/

namespace CommandQueue

/-- A queue that interprets streams. -/
structure SoftQueue where
  label : String
  /-- The submissions not yet run, the oldest first. -/
  pending : List Submission
  submitted : Nat
  executed : Nat
  /-- The number of commands that failed. -/
  faults : Nat

namespace SoftQueue

def defaultLabel : String := "soft-queue"

/-- The number of bytes that a command takes: a copy holds two buffers of two words each. -/
def commandWidth : Nat := 64

def new (label : String) : SoftQueue := ⟨label, [], 0, 0, 0⟩

def accept (queue : SoftQueue) (submission : Submission) : SoftQueue :=
  { queue with
    pending := queue.pending ++ [submission]
    submitted := queue.submitted + 1 }

/-- Run the oldest submission. -/
def runNext (queue : SoftQueue) (fence : Fence) (heap : DescriptorHeap) (scene : Scene) :
    Settled SoftQueue :=
  match queue.pending with
  | [] => ⟨queue, fence, scene, []⟩
  | submission :: rest =>
      let done := Stream.runAll heap submission.streams scene
      let after :=
        { queue with
          pending := rest
          executed := queue.executed + 1
          faults := queue.faults + done.failures.length }
      ⟨after, (fence.complete? submission.signal).getD fence, done.scene,
        done.failures.map (fun failure => .commandFailed failure.1 failure.2) ++
          [.signalCompleted submission.signal]⟩

def runMany (queue : SoftQueue) (fence : Fence) (heap : DescriptorHeap) (scene : Scene) :
    Nat → Settled SoftQueue
  | 0 => ⟨queue, fence, scene, []⟩
  | count + 1 =>
      let first := queue.runNext fence heap scene
      let others := first.queue.runMany first.fence heap first.scene count
      { others with events := first.events ++ others.events }

def drain (queue : SoftQueue) (fence : Fence) (heap : DescriptorHeap) (scene : Scene) :
    Settled SoftQueue :=
  queue.runMany fence heap scene queue.pending.length

instance : Queue SoftQueue where
  label := label
  commandWidth _ := commandWidth
  holds queue list := queue.pending.any fun submission => submission.mentions list
  submit queue fence _ submission := .done ⟨queue.accept submission, fence⟩ () []
  settle := drain

def structural (queue : SoftQueue) : String :=
  Text.record "SoftBackend"
    [("label", Text.quoted queue.label), ("submissions", toString queue.submitted)]

end SoftQueue

end CommandQueue
