import CommandQueue.Kernel.Catalogue
import CommandQueue.Script.Session

/-!
# Steps on pipelines

Bundles are made from the kernels of the catalogue, or compiled for the GPU
queue, and registered in the library of a device.
-/

namespace CommandQueue.Script.PipelineSteps

open Scripted

def catalogued (fields : Fields) : Scripted Bundle := do
  let kernel ← fields.require "kernel" Value.text?
  let body ← fields.withDefault "body" Value.text? "noop"
  if (Catalogue.find? body none).isNone then refuse (.field "body")
  let argument ← fields.option "arg" Value.long?
  let slots ← fields.require "slots" Value.word?
  let program := (Catalogue.find? body argument).getD Catalogue.noop
  return ⟨(← get).bundlesMade, kernel, layoutSlots slots, program⟩

/-- A bundle compiled for the GPU queue, where no kernel has an effect. -/
def compiled (fields : Fields) : Scripted Bundle := do
  let kernel ← fields.require "kernel" Value.text?
  let _ ← fields.require "tables" (Value.listOf? Value.word?)
  let slots ← fields.require "slots" Value.word?
  let (_, device) ← device fields
  report [.kernelCompiled (Queue.label device.queue) kernel slots]
  return ⟨(← get).bundlesMade, kernel, layoutSlots slots, Catalogue.noop⟩

def make (fields : Fields) : Scripted Bundle := do
  let bundle ← if (← get).kind = .gpu then compiled fields else catalogued fields
  modify fun session => { session with bundlesMade := session.bundlesMade + 1 }
  return bundle

/-- Keep a bundle under a name and show it. -/
def keep (given : String) (bundle : Bundle) : Scripted Answer := do
  modify fun session => { session with bundles := session.bundles.put given bundle }
  return .success (.list [.text bundle.kernel, .natural bundle.slots])

def create (fields : Fields) : Scripted Answer := do
  let given ← freshName fields "bundle" Session.bundles
  keep given (← make fields)

def register (fields : Fields) : Scripted Answer := do
  let given ← freshName fields "bundle" Session.bundles
  let bundle ← make fields
  let (deviceName, device) ← device fields
  let outcome := device.library.register bundle
  putDevice deviceName { device with library := outcome.state }
  report outcome.events
  match outcome.result with
  | .error error => return .failed error
  | .ok registered => keep given registered

def kernel (fields : Fields) : Scripted Answer := do
  let (_, device) ← device fields
  let asked ← fields.require "kernel" Value.text?
  let session ← get
  return .ofResult (device.library.get asked) fun bundle =>
    .list [.text bundle.kernel, session.bundleName bundle]

/-- The size of a library, and whether it has a bundle of a kernel. -/
def library (fields : Fields) : Scripted Answer := do
  let (_, device) ← device fields
  let asked ← fields.require "kernel" Value.text?
  let size := device.library.size
  return .success <| .list
    [.natural size, .flag (size == 0), .flag (device.library.contains asked)]

def visitValue (visit : Visit) : Value :=
  .list
    [.list (visit.group.toList.map Value.natural), .list (visit.grid.toList.map Value.natural),
      .natural visit.index,
      .list (visit.sizes.map fun sizes => .list (sizes.map Value.natural))]

/-- The visits that kernels reported since they were last asked for. -/
def trace (_ : Fields) : Scripted Answer := do
  let visits := (← get).scene.visits.reverse
  modify fun session => { session with scene := { session.scene with visits := [] } }
  return .success (.list (visits.map visitValue))

def find? (name : String) : Option (Fields → Scripted Answer) :=
  match name with
  | "bundle" => some create
  | "register" => some register
  | "kernel" => some kernel
  | "library" => some library
  | "trace" => some trace
  | _ => none

end CommandQueue.Script.PipelineSteps
