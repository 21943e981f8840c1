import CommandQueue.DescriptorHeap
import CommandQueue.Fence
import CommandQueue.Outcome

/-!
# Queues

A queue takes submissions, runs them in its own time, and completes their
signals on the timeline it shares with its device.  The interface says how much
room its commands take, which streams a queue still refers to, how it takes a
submission, and what it does when it is left to run until nothing is left for it
to do.
-/

namespace CommandQueue

/-- The streams of several lists with the value to complete after them. -/
structure Submission where
  signal : FenceValue
  streams : List Stream

namespace Submission

def commandCount (submission : Submission) : Nat :=
  (submission.streams.flatMap Stream.commands).length

def mentions (submission : Submission) (list : ListId) : Bool :=
  submission.streams.any fun stream => stream.list == list

end Submission

structure Clocked (σ : Type) where
  queue : σ
  fence : Fence

/-- A queue and its timeline after the queue was left to run. -/
structure Settled (σ : Type) where
  queue : σ
  fence : Fence
  scene : Scene
  /-- What the queue reported while it ran. -/
  events : List Event

/-- What a device needs of a queue. -/
class Queue (σ : Type) where
  label : σ → String
  /-- The number of bytes that a command for the queue takes where it is recorded. -/
  commandWidth : σ → Nat
  /-- Whether the queue still refers to the stream of a list. -/
  holds : σ → ListId → Bool
  submit : σ → Fence → DescriptorHeap → Submission → Outcome (Clocked σ) Unit
  settle : σ → Fence → DescriptorHeap → Scene → Settled σ

end CommandQueue
