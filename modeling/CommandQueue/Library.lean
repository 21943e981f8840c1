import CommandQueue.Outcome

/-!
# Pipeline libraries

A library keeps one bundle for each kernel name.  A name that has a bundle keeps
it.
-/

namespace CommandQueue

/-- Bundles by kernel name, the last registered one first. -/
structure Library where
  bundles : List Bundle

namespace Library

def empty : Library := ⟨[]⟩

def find? (library : Library) (kernel : KernelId) : Option Bundle :=
  library.bundles.find? fun bundle => bundle.kernel == kernel

def contains (library : Library) (kernel : KernelId) : Bool :=
  (library.find? kernel).isSome

def size (library : Library) : Nat := library.bundles.length

/-- Add a bundle under a new name. -/
def register (library : Library) (bundle : Bundle) : Outcome Library Bundle :=
  if library.contains bundle.kernel then
    .refused library (.duplicateKernel bundle.kernel) []
  else
    .done ⟨bundle :: library.bundles⟩ bundle [.kernelRegistered bundle.kernel]

/-- The bundle that a kernel must have. -/
def get (library : Library) (kernel : KernelId) : Except Error Bundle :=
  match library.find? kernel with
  | some bundle => .ok bundle
  | none => .error (.unknownKernel kernel)

end Library

end CommandQueue
