import CommandQueue.Script.DeviceSteps

/-!
# Steps on allocator pools and timelines

Pools stand by themselves or belong to a device.  Allocators are taken from them
and given back outside any list.  The timeline that belongs to no device, or
that of a manual queue that has seen a submission, can be asked and completed.
-/

namespace CommandQueue.Script.PoolSteps

open Scripted

/-- Where a pool is kept. -/
inductive Place where
  | named (name : String)
  | ofDevice (name : String) (device : Device Backend) (category : Category)

def place (fields : Fields) : Scripted (Place × Pool) := do
  if (fields.get "pool").present then
    let (given, pool) ← known fields "pool" Session.pools
    return (.named given, pool)
  else
    let (given, device) ← device fields
    let category ← fields.require "category" Value.category?
    return (.ofDevice given device category, device.pool category)

def putPool (pool : Pool) : Place → Scripted Unit
  | .named given => modify fun session => { session with pools := session.pools.put given pool }
  | .ofDevice given device category => putDevice given (device.withPool category pool)

/-- Whether a queue refers to the stream of a list of the pool's place. -/
def held : Place → ListId → Bool
  | .named _ => fun _ => false
  | .ofDevice _ device _ => device.held

/-- The timeline that a step names: that of its device's manual queue, once the queue has seen a
submission, or the one that belongs to no device. -/
def timeline (fields : Fields) : Scripted (Option (String × Device Backend) × Fence) := do
  if (fields.get "dev").present then
    let (given, device) ← device fields
    match device.queue with
    | .manual queue =>
        if queue.fenceSeen then
          return (some (given, device), device.fence)
        refuse (.field "fence")
    | _ => refuse (.field "fence")
  else
    return (none, (← get).fence)

/-- Make a pool that stands by itself. -/
def create (fields : Fields) : Scripted Answer := do
  let given ← freshName fields "pool" Session.pools
  let limit ← fields.option "limit" Value.long?
  let capacity ← fields.require "capacity" Value.long?
  let category ← fields.require "category" Value.category?
  let width := (← get).kind.commandWidth
  putPool (Pool.new category limit capacity width) (.named given)
  return .nothing

def acquire (fields : Fields) : Scripted Answer := do
  let given ← freshName fields "alloc" Session.allocators
  let (place, pool) ← place fields
  let (_, fence) ← timeline fields
  let outcome := pool.acquire fence.completed (held place)
  putPool outcome.state place
  report outcome.events
  match outcome.result with
  | .error error => return .failed error
  | .ok allocator =>
      modify fun session =>
        { session with allocators := session.allocators.put given allocator }
      return .success <| .list
        [.text allocator.id.text, .text allocator.category.text, .natural allocator.stamp,
          .natural allocator.recorded.length]

/-- Give an allocator back to a pool.  A pool of the other category breaks on it, and the
allocator is lost. -/
def release (fields : Fields) : Scripted Answer := do
  let stamp ← fields.require "stamp" Value.long?
  let (place, pool) ← place fields
  let (given, allocator) ← known fields "alloc" Session.allocators
  modify fun session => { session with allocators := session.allocators.erase given }
  if allocator.category = pool.category then
    let (filled, events) := pool.release allocator stamp (held place)
    putPool filled place
    report events
    return .nothing
  else
    return .panicked

def prewarm (fields : Fields) : Scripted Answer := do
  let count ← fields.require "count" Value.long?
  let (place, pool) ← place fields
  let outcome := pool.prewarm count
  putPool outcome.state place
  report outcome.events
  return .ofResult outcome.result fun _ => .null

def describe (fields : Fields) : Scripted Answer := do
  let (_, pool) ← place fields
  let idle (entry : AllocatorId × FenceValue) : Value :=
    .list [.text entry.1.text, .natural entry.2]
  return .success <| .list
    [.text pool.category.text, .natural pool.live, .natural pool.free.length,
      .list (pool.available.map idle)]

/-- Keep a timeline where it belongs. -/
def putFence (owner : Option (String × Device Backend)) (fence : Fence) : Scripted Unit :=
  match owner with
  | some (given, device) => putDevice given { device with fence := fence }
  | none => modify fun session => { session with fence := fence }

/-- Ask or complete a timeline. -/
def fence (fields : Fields) : Scripted Answer := do
  let call ← fields.require "call" Value.text?
  let value ← fields.withDefault "value" Value.long? 0
  let _ ← fields.withDefault "ms" Value.long? 0
  let (owner, fence) ← timeline fields
  match call with
  | "reached" | "wait_timeout" => return DeviceSteps.reachedOn fence value
  | "wait_until" => return DeviceSteps.waitOn fence value
  | "values" => return .success (DeviceSteps.counters fence)
  | "complete" =>
      match fence.complete? value with
      | some completed =>
          putFence owner completed
          return .nothing
      | none => return .panicked
  | _ => refuse (.field "call")

def find? (name : String) : Option (Fields → Scripted Answer) :=
  match name with
  | "pool_new" => some create
  | "pool_acquire" => some acquire
  | "pool_release" => some release
  | "pool_prewarm" => some prewarm
  | "pool" => some describe
  | "fence" => some fence
  | _ => none

end CommandQueue.Script.PoolSteps
