import CommandQueue.Script.Session

/-!
# Steps on command lists

Lists are opened, recorded, closed, handed to the queue, shown and dropped.
-/

namespace CommandQueue.Script.ListSteps

open Scripted

def openList (fields : Fields) : Scripted Answer := do
  let given ← freshName fields "list" Session.lists
  let (deviceName, device) ← device fields
  let category ← fields.require "category" Value.category?
  let outcome := device.openList category
  putDevice deviceName outcome.state
  report outcome.events
  match outcome.result with
  | .error error => return .failed error
  | .ok list =>
      putList given list
      return .success (.list [.text list.id.text, .text list.allocator.id.text])

def record (given : String) (list : CommandList) (call : Call) : Scripted Answer := do
  match list.record call with
  | .error error => return .failed error
  | .ok next =>
      putList given next
      report [.commandRecorded list.id call.command.kind]
      return .nothing

def bindPipeline (fields : Fields) : Scripted Answer := do
  let bundle ← bundle fields
  let (given, list) ← list fields
  record given list (.bindPipeline bundle)

def bindTable (fields : Fields) : Scripted Answer := do
  let start ← fields.require "start" Value.word?
  let count ← fields.require "count" Value.word?
  let slot ← fields.require "slot" Value.word?
  let (given, list) ← list fields
  record given list (.bindTable slot ⟨start, count⟩)

def copy (fields : Fields) : Scripted Answer := do
  let source ← buffer fields "src"
  let target ← buffer fields "dst"
  let sourceOffset ← fields.require "src_offset" Value.long?
  let targetOffset ← fields.require "dst_offset" Value.long?
  let size ← fields.require "size" Value.long?
  let (given, list) ← list fields
  record given list
    (.copyRegion ⟨source.buffer, sourceOffset, target.buffer, targetOffset, size⟩)

def dispatch (fields : Fields) : Scripted Answer := do
  let x ← fields.require "x" Value.word?
  let y ← fields.require "y" Value.word?
  let z ← fields.require "z" Value.word?
  let (given, list) ← list fields
  record given list (.dispatch ⟨x, y, z⟩)

def close (fields : Fields) : Scripted Answer := do
  let (given, list) ← list fields
  match list.close with
  | .error error => return .failed error
  | .ok closed =>
      putList given closed
      return .nothing

/-- Keep what a device and lists have become that were handed to its queue, and let it run. -/
def handOver (deviceName : String) (names : List String) (executed : Device.Executed Backend) :
    Scripted Answer := do
  (names.zip executed.lists).forM fun entry => putList entry.1 entry.2
  report executed.events
  let _ ← settle deviceName executed.device
  return .ofResult executed.result Value.natural

/-- The lists of some names, each named once. -/
def namedLists : List String → Scripted (List CommandList)
  | [] => return []
  | given :: rest => do
      match (← get).lists.get? given with
      | some list =>
          if given ∈ rest then refuse (.field "lists")
          return list :: (← namedLists rest)
      | none => refuse (.field "lists")

def execute (fields : Fields) : Scripted Answer := do
  let (deviceName, device) ← device fields
  let names ← fields.require "lists" (Value.listOf? Value.text?)
  let lists ← namedLists names
  handOver deviceName names (device.execute lists)

/-- Whether a queue would take a submission without ever finishing it by itself. -/
def stalls : Backend → Bool
  | .manual queue => !queue.auto && queue.rejections == 0
  | _ => false

/-- Hand one open list to the queue of its device and wait for it. -/
def executeAndWait (fields : Fields) : Scripted Answer := do
  let (given, list) ← list fields
  let (deviceName, device) ← deviceOf list
  -- A list that is not open is refused before there is anything to wait for.
  if list.state = .opened ∧ stalls device.queue then
    return .wouldBlock
  handOver deviceName [given] (device.executeOpen list)

/-- Drop a list that stands under a name. -/
def retire (given : String) (list : CommandList) : Scripted Unit := do
  let (deviceName, device) ← deviceOf list
  let (after, events) := device.retire list
  putDevice deviceName after
  report events
  modify fun session => { session with lists := session.lists.erase given }

def drop (fields : Fields) : Scripted Answer := do
  let (given, list) ← list fields
  retire given list
  return .nothing

def commandValue (session : Session) (command : Command) : Value :=
  let kind : Value := .text command.kind.name
  match command with
  | .setPipeline bundle => .list [kind, .text bundle.kernel, session.bundleName bundle]
  | .setTable slot range =>
      .list [kind, .natural slot, .natural range.start, .natural range.count]
  | .copyRegion region =>
      .list [kind, session.bufferName region.source, .natural region.sourceOffset,
        session.bufferName region.target, .natural region.targetOffset, .natural region.size]
  | .dispatch grid => .list (kind :: grid.toList.map Value.natural)

def listValue (session : Session) (list : CommandList) : Value :=
  let pipeline := list.bindings.pipeline.map fun bundle =>
    Value.list [.text bundle.kernel, session.bundleName bundle]
  let table (slot : Nat) : Value :=
    Value.ofOption <| (list.bindings.table slot).map fun range =>
      .list [.natural range.start, .natural range.count]
  .record
    [("id", .natural list.id.number), ("category", .text list.category.text),
      ("state", .text list.state.text), ("allocator", .text list.allocator.id.text),
      ("submitted", Value.ofOption (list.submitted.map Value.natural)),
      ("heap", .flag list.heapCapacity.isSome), ("pipeline", Value.ofOption pipeline),
      ("tables", .list (shownSlots.map table)),
      ("recorded", .list (list.recorded.map (commandValue session)))]

def describe (fields : Fields) : Scripted Answer := do
  let (_, list) ← list fields
  return .success (listValue (← get) list)

def find? (name : String) : Option (Fields → Scripted Answer) :=
  match name with
  | "open" => some openList
  | "bind_pipeline" => some bindPipeline
  | "bind_table" => some bindTable
  | "copy" => some copy
  | "dispatch" => some dispatch
  | "close" => some close
  | "execute" => some execute
  | "execute_and_wait" => some executeAndWait
  | "drop" => some drop
  | "list" => some describe
  | _ => none

end CommandQueue.Script.ListSteps
