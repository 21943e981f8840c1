import CommandQueue.Device
import CommandQueue.Script.Backend
import CommandQueue.Script.Value

/-!
# Sessions

A session gives names to devices, lists, buffers, bundles, pools and allocators
and runs one step of a script after the other.  A step either has an answer,
with whatever it changed, or is refused, and then it changed nothing.
-/

namespace CommandQueue.Script

/-- Values under names, in the order in which they were named. -/
abbrev Table (α : Type) := List (String × α)

namespace Table

variable {α : Type}

def get? (table : Table α) (name : String) : Option α := table.lookup name

/-- The table with a value under a name, in place of the one it had. -/
def put (table : Table α) (name : String) (value : α) : Table α :=
  if (table.get? name).isSome then
    table.map fun entry => if entry.1 == name then (name, value) else entry
  else
    table ++ [(name, value)]

def erase (table : Table α) (name : String) : Table α :=
  table.eraseP fun entry => entry.1 == name

def sorted (table : Table α) : Table α :=
  table.mergeSort fun left right => left.1 ≤ right.1

/-- The least name of a value that passes a test. -/
def nameOf? (table : Table α) (test : α → Bool) : Option String :=
  (table.sorted.find? fun entry => test entry.2).map (·.1)

end Table

structure NamedBuffer where
  buffer : Buffer
  /-- The buffer was made for its bytes to be read back. -/
  readback : Bool
  deriving DecidableEq, Repr

/-- Everything that a session has named, and what it has reported since the step began. -/
structure Session where
  kind : BackendKind
  devices : Table (Device Backend)
  lists : Table CommandList
  buffers : Table NamedBuffer
  bundles : Table Bundle
  pools : Table Pool
  allocators : Table Allocator
  /-- The timeline that belongs to no device. -/
  fence : Fence
  scene : Scene
  devicesMade : Nat
  bundlesMade : Nat
  events : List Event
  queueEvents : List Event

namespace Session

def new (kind : BackendKind) : Session where
  kind := kind
  devices := []
  lists := []
  buffers := []
  bundles := []
  pools := []
  allocators := []
  fence := Fence.new
  scene := Scene.empty
  devicesMade := 0
  bundlesMade := 0
  events := []
  queueEvents := []

/-- The name of a buffer: the least name of a handle to the same storage. -/
def bufferName (session : Session) (buffer : Buffer) : Value :=
  Value.ofOption <|
    (session.buffers.nameOf? fun named => named.buffer.sameStorage buffer).map Value.text

/-- The name of a bundle: the least name that refers to it. -/
def bundleName (session : Session) (bundle : Bundle) : Value :=
  Value.ofOption <|
    (session.bundles.nameOf? fun named => named.key == bundle.key).map Value.text

end Session

abbrev Scripted := StateT Session (Except Refusal)

namespace Scripted

def refuse {α : Type} (refusal : Refusal) : Scripted α := throw refusal

def report (events : List Event) : Scripted Unit :=
  modify fun session => { session with events := session.events ++ events }

/-- Report what a queue did in its own time. -/
def reportQueue (events : List Event) : Scripted Unit :=
  modify fun session => { session with queueEvents := session.queueEvents ++ events }

def name (fields : Fields) (field : String) : Scripted String :=
  fields.require field Value.text?

def freshName {α : Type} (fields : Fields) (field : String) (table : Session → Table α) :
    Scripted String := do
  let given ← name fields field
  if ((table (← get)).get? given).isSome then refuse (.inUse field)
  return given

/-- A field that holds a known name: the name and what it stands for. -/
def known {α : Type} (fields : Fields) (field : String) (table : Session → Table α) :
    Scripted (String × α) := do
  let given ← name fields field
  match (table (← get)).get? given with
  | some value => return (given, value)
  | none => refuse (.field field)

def deviceName (fields : Fields) : Scripted String :=
  fields.withDefault "dev" Value.text? "d"

def device (fields : Fields) : Scripted (String × Device Backend) := do
  let given ← deviceName fields
  match (← get).devices.get? given with
  | some value => return (given, value)
  | none => refuse (.field "dev")

def list (fields : Fields) : Scripted (String × CommandList) :=
  known fields "list" Session.lists

def buffer (fields : Fields) (field : String) : Scripted NamedBuffer :=
  return (← known fields field Session.buffers).2

def bundle (fields : Fields) : Scripted Bundle :=
  return (← known fields "bundle" Session.bundles).2

def putDevice (name : String) (device : Device Backend) : Scripted Unit :=
  modify fun session => { session with devices := session.devices.put name device }

def putList (name : String) (list : CommandList) : Scripted Unit :=
  modify fun session => { session with lists := session.lists.put name list }

def putBuffer (name : String) (buffer : NamedBuffer) : Scripted Unit :=
  modify fun session => { session with buffers := session.buffers.put name buffer }

def putMemory (memory : Memory) : Scripted Unit :=
  modify fun session => { session with scene := { session.scene with memory := memory } }

/-- The device that a list was opened on, with its name. -/
def deviceOf (list : CommandList) : Scripted (String × Device Backend) := do
  match (← get).devices.find? fun entry => entry.2.key == list.device with
  | some entry => return entry
  | none => refuse (.field "dev")

/-- Let the queue of a device run, and keep what it leaves. -/
def settle (name : String) (device : Device Backend) : Scripted (Device Backend) := do
  let (after, scene, events) := device.settle (← get).scene
  modify fun session => { session with scene := scene }
  reportQueue events
  putDevice name after
  return after

end Scripted

end CommandQueue.Script
