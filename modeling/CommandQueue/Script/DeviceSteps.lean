import CommandQueue.Script.Session

/-!
# Steps on devices

Devices are set up, asked for their numbers and their timeline, and ended.
-/

namespace CommandQueue.Script.DeviceSteps

open Scripted

def statsValue (device : Device Backend) : Value :=
  let stats := device.stats
  let pool (each : PoolStats) : Value :=
    .list [.text each.category.text, .natural each.live, .natural each.available]
  let counters := device.queue.counters.map fun numbers => Value.list (numbers.map Value.natural)
  .record
    [("submissions", .natural stats.submissions), ("live_lists", .natural stats.liveLists),
      ("last_issued", .natural stats.lastIssued), ("completed", .natural stats.completed),
      ("descriptors", .natural stats.descriptorsAllocated),
      ("pools", .list (stats.pools.map pool)), ("queue", Value.ofOption counters)]

/-- The limit of allocators that a step sets: null is no limit. -/
def allocatorLimit (fields : Fields) : Scripted (Option Nat) :=
  match fields.lookup "max_allocators" with
  | none => return DeviceConfig.standard.maxAllocators
  | some .null => return none
  | some _ => some <$> fields.require "max_allocators" Value.long?

def config (fields : Fields) : Scripted DeviceConfig := do
  let standard := DeviceConfig.standard
  return {
    label := ← fields.withDefault "label" Value.text? standard.label
    descriptorHeapCapacity :=
      ← fields.withDefault "heap" Value.word? standard.descriptorHeapCapacity
    maxAllocators := ← allocatorLimit fields
    prewarmAllocators := ← fields.withDefault "prewarm" Value.long? standard.prewarmAllocators
    initialCommandCapacity :=
      ← fields.withDefault "capacity" Value.long? standard.initialCommandCapacity
    teardownTimeout :=
      Duration.ofMilliseconds (← fields.withDefault "teardown_ms" Value.long? 0) }

/-- Set up a device.  A queue that cannot have the name it is given breaks on it. -/
def create (fields : Fields) : Scripted Answer := do
  let given ← deviceName fields
  let session ← get
  if (session.devices.get? given).isSome then refuse (.inUse "dev")
  let asked ← config fields
  let label ← fields.withDefault "queue" Value.text? session.kind.defaultLabel
  let latency ← fields.option "latency_us" Value.long?
  if !session.kind.admits label then return .panicked
  if session.kind = .soft then
    report [.queueStarted label (latency.map Duration.ofMicroseconds)]
  let (result, events) :=
    Device.create session.devicesMade (Backend.new session.kind label) asked
  report events
  match result with
  | .error error => return .failed error
  | .ok device =>
      putDevice given device
      modify fun session => { session with devicesMade := session.devicesMade + 1 }
      return .success <| .list
        [.text device.config.label, .natural device.heap.capacity, statsValue device]

/-- End a device that has no lists. -/
def drop (fields : Fields) : Scripted Answer := do
  let (given, device) ← device fields
  if (← get).lists.any fun entry => entry.2.device == device.key then refuse .listsAlive
  report [device.teardown]
  modify fun session => { session with devices := session.devices.erase given }
  return .nothing

def stats (fields : Fields) : Scripted Answer := do
  return .success (statsValue (← device fields).2)

def counters (fence : Fence) : Value :=
  .list [.natural fence.issued, .natural fence.completed]

def progress (fields : Fields) : Scripted Answer := do
  return .success (counters (← device fields).2.fence)

def reachedOn (fence : Fence) (value : FenceValue) : Answer :=
  .ofResult (fence.reached value) .flag

/-- Wait for a value, unless nothing would ever end the wait. -/
def waitOn (fence : Fence) (value : FenceValue) : Answer :=
  match fence.reached value with
  | .ok true => .nothing
  | .ok false => .wouldBlock
  | .error error => .failed error

def reached (fields : Fields) : Scripted Answer := do
  let (_, device) ← device fields
  return reachedOn device.fence (← fields.require "value" Value.long?)

def waitUntil (fields : Fields) : Scripted Answer := do
  let (_, device) ← device fields
  return waitOn device.fence (← fields.require "value" Value.long?)

/-- Wait for everything handed to a device's queue. -/
def waitIdle (fields : Fields) : Scripted Answer := do
  let (_, device) ← device fields
  return waitOn device.fence device.fence.issued

def find? (name : String) : Option (Fields → Scripted Answer) :=
  match name with
  | "device" => some create
  | "drop_device" => some drop
  | "stats" => some stats
  | "progress" => some progress
  | "reached" => some reached
  | "wait_until" => some waitUntil
  | "wait_idle" => some waitIdle
  | _ => none

end CommandQueue.Script.DeviceSteps
