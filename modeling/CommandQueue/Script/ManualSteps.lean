import CommandQueue.Script.Session

/-!
# Steps on manual queues

A manual queue is told what to finish, what to refuse and what to hold on to.
-/

namespace CommandQueue.Script.ManualSteps

open Scripted

/-- The manual queue that a step uses, with its device. -/
def manual (fields : Fields) : Scripted (String × Device Backend × ManualQueue) := do
  let (given, device) ← device fields
  match device.queue with
  | .manual queue => return (given, device, queue)
  | _ => refuse (.field "do")

def putQueue (given : String) (device : Device Backend) (queue : ManualQueue) : Scripted Unit :=
  putDevice given { device with queue := .manual queue }

/-- Finish submissions as soon as they are taken, or no longer do so. -/
def auto (fields : Fields) : Scripted Answer := do
  let (given, device, queue) ← manual fields
  putQueue given device { queue with auto := ← fields.require "on" Value.flag? }
  return .nothing

/-- Hold on to the streams of finished submissions, or no longer do so. -/
def hold (fields : Fields) : Scripted Answer := do
  let (given, device, queue) ← manual fields
  putQueue given device { queue with hold := ← fields.require "on" Value.flag? }
  return .nothing

def releaseHeld (fields : Fields) : Scripted Answer := do
  let (given, device, queue) ← manual fields
  putQueue given device queue.releaseHeld
  return .nothing

def reject (fields : Fields) : Scripted Answer := do
  let (given, device, queue) ← manual fields
  let count ← fields.require "count" Value.long?
  let closed ← fields.withDefault "closed" Value.flag? false
  putQueue given device { queue with rejections := count, closed := closed }
  return .nothing

/-- Finish the submission with a signal, if there is one, and complete the signal. -/
def completeSignal (given : String) (device : Device Backend) (queue : ManualQueue)
    (signal : FenceValue) : Scripted Answer := do
  match device.fence.complete? signal with
  | none =>
      putQueue given device (queue.finish signal)
      return .panicked
  | some fence =>
      putQueue given { device with fence := fence } (queue.finish signal)
      return .success (.natural fence.completed)

def complete (fields : Fields) : Scripted Answer := do
  let (given, device, queue) ← manual fields
  let signal ← fields.require "value" Value.long?
  if !queue.fenceSeen then refuse (.field "fence")
  completeSignal given device queue signal

/-- Complete the signal of the oldest submission. -/
def completeNext (fields : Fields) : Scripted Answer := do
  let (given, device, queue) ← manual fields
  if !queue.fenceSeen then refuse (.field "fence")
  match queue.pending with
  | [] => return .nothing
  | submission :: _ => completeSignal given device queue submission.signal

def submissionValue (submission : Submission) : Value :=
  let stream (each : Stream) : Value :=
    .list
      [.text each.category.text, .natural each.commands.length, .flag each.commands.isEmpty,
        .list (each.commands.map fun command => .text command.kind.name)]
  .list [.natural submission.signal, .list (submission.streams.map stream)]

def pending (fields : Fields) : Scripted Answer := do
  let (_, _, queue) ← manual fields
  return .success (.list (queue.pending.map submissionValue))

def find? (name : String) : Option (Fields → Scripted Answer) :=
  match name with
  | "auto" => some auto
  | "hold" => some hold
  | "release_held" => some releaseHeld
  | "reject" => some reject
  | "complete" => some complete
  | "complete_next" => some completeNext
  | "pending" => some pending
  | _ => none

end CommandQueue.Script.ManualSteps
