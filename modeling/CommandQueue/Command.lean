import CommandQueue.DescriptorRange
import CommandQueue.Kernel

/-!
# Commands, bindings and streams

A command either changes what is bound, copies bytes, or dispatches a kernel.
`Bindings.apply` says what a command does to the bindings; a list applies it
while it records, a queue while it runs the stream.
-/

namespace CommandQueue

inductive Command where
  | setPipeline (bundle : Bundle)
  | setTable (slot : Nat) (range : DescriptorRange)
  | copyRegion (region : CopyRegion)
  | dispatch (grid : Extent)

inductive CommandKind where
  | setPipeline
  | setTable
  | copyRegion
  | dispatch
  deriving DecidableEq, Repr

def CommandKind.name : CommandKind → String
  | .setPipeline => "set_pipeline"
  | .setTable => "set_resource_table"
  | .copyRegion => "copy_region"
  | .dispatch => "dispatch"

namespace Command

def kind : Command → CommandKind
  | .setPipeline _ => .setPipeline
  | .setTable .. => .setTable
  | .copyRegion _ => .copyRegion
  | .dispatch _ => .dispatch

/-- The command by its shape; of a copy only the name is shown. -/
def structural : Command → String
  | .setPipeline bundle => Text.wrapped "SetPipeline" (KernelId.structural bundle.kernel)
  | .setTable slot range =>
      Text.record "SetResourceTable" [("slot", toString slot), ("range", range.structural)]
  | .copyRegion _ => CommandKind.copyRegion.name
  | .dispatch grid => Text.record "Dispatch" [("groups", grid.text)]

end Command

/-- What a list has bound at one moment. -/
structure Bindings where
  pipeline : Option Bundle
  tables : List (Option DescriptorRange)

namespace Bindings

def none : Bindings := ⟨.none, List.replicate tableSlots .none⟩

def apply (bindings : Bindings) : Command → Bindings
  | .setPipeline bundle => { bindings with pipeline := some bundle }
  | .setTable slot range => { bindings with tables := bindings.tables.set slot (some range) }
  | .copyRegion _ => bindings
  | .dispatch _ => bindings

def table (bindings : Bindings) (slot : Nat) : Option DescriptorRange :=
  bindings.tables[slot]?.join

@[simp]
theorem apply_setPipeline (bindings : Bindings) (bundle : Bundle) :
    bindings.apply (.setPipeline bundle) = { bindings with pipeline := some bundle } := rfl

@[simp]
theorem apply_setTable (bindings : Bindings) (slot : Nat) (range : DescriptorRange) :
    bindings.apply (.setTable slot range) =
      { bindings with tables := bindings.tables.set slot (some range) } := rfl

@[simp]
theorem apply_copyRegion (bindings : Bindings) (region : CopyRegion) :
    bindings.apply (.copyRegion region) = bindings := rfl

@[simp]
theorem apply_dispatch (bindings : Bindings) (grid : Extent) :
    bindings.apply (.dispatch grid) = bindings := rfl

theorem length_tables_apply (bindings : Bindings) (command : Command) :
    (bindings.apply command).tables.length = bindings.tables.length := by
  cases command <;> simp

end Bindings

/-- The commands of a list in the form in which a queue takes them.  A stream is known by the
list that recorded it. -/
structure Stream where
  list : ListId
  category : Category
  commands : List Command

end CommandQueue
