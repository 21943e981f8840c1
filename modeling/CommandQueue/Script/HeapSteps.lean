import CommandQueue.Script.Session

/-!
# Steps on descriptor heaps

Places of a device's heap are handed out, written and looked up.
-/

namespace CommandQueue.Script.HeapSteps

open Scripted

def putHeap (deviceName : String) (device : Device Backend) (heap : DescriptorHeap) :
    Scripted Unit :=
  putDevice deviceName { device with heap := heap }

def rangeValue (range : DescriptorRange) : Value :=
  .list [.natural range.start, .natural range.count]

def entryValue (session : Session) (buffer : Buffer) : Value :=
  .list [.natural buffer.size, session.bufferName buffer]

/-- The size of the heap and how much of it is handed out. -/
def describe (fields : Fields) : Scripted Answer := do
  let (_, device) ← device fields
  return .success (.list [.natural device.heap.capacity, .natural device.heap.allocated])

def allocate (fields : Fields) : Scripted Answer := do
  let (deviceName, device) ← device fields
  let count ← fields.require "count" Value.word?
  match device.heap.allocate count with
  | .error error => return .failed error
  | .ok (heap, range) =>
      putHeap deviceName device heap
      return .success (rangeValue range)

def write (fields : Fields) : Scripted Answer := do
  let (deviceName, device) ← device fields
  let index ← fields.require "index" Value.word?
  let named ← buffer fields "buf"
  match device.heap.write index named.buffer with
  | .error error => return .failed error
  | .ok heap =>
      putHeap deviceName device heap
      return .nothing

def namedBuffers : List String → Scripted (List Buffer)
  | [] => return []
  | given :: rest => do
      match (← get).buffers.get? given with
      | some named => return named.buffer :: (← namedBuffers rest)
      | none => refuse (.field "bufs")

def publish (fields : Fields) : Scripted Answer := do
  let (deviceName, device) ← device fields
  let names ← fields.require "bufs" (Value.listOf? Value.text?)
  let buffers ← namedBuffers names
  let (heap, result) := device.heap.publish buffers
  putHeap deviceName device heap
  match result with
  | .error error => return .failed error
  | .ok range =>
      report [.descriptorsPublished buffers.length range]
      return .success (rangeValue range)

def lookUp (fields : Fields) : Scripted Answer := do
  let (_, device) ← device fields
  let index ← fields.require "index" Value.word?
  return .success (Value.ofOption ((device.heap.get? index).map (entryValue (← get))))

def resolve (fields : Fields) : Scripted Answer := do
  let (_, device) ← device fields
  let start ← fields.require "start" Value.word?
  let count ← fields.require "count" Value.word?
  let session ← get
  return .ofResult (device.heap.resolve ⟨start, count⟩) fun buffers =>
    .list (buffers.map (entryValue session))

def find? (name : String) : Option (Fields → Scripted Answer) :=
  match name with
  | "heap" => some describe
  | "heap_allocate" => some allocate
  | "heap_write" => some write
  | "heap_publish" => some publish
  | "heap_get" => some lookUp
  | "heap_resolve" => some resolve
  | _ => none

end CommandQueue.Script.HeapSteps
