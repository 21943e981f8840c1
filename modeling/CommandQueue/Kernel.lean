import CommandQueue.Grid
import CommandQueue.Memory

/-!
# Kernels and pipeline bundles

A kernel is a program that a dispatch runs once for each group of its grid.  It
sees its group and the buffers of the bound tables, and may change memory; it
may also leave a record of its visit.  A kernel that gives up ends the dispatch,
and what it did until then stays.  A pipeline bundle is a kernel under a name,
together with the number of table slots it reads.
-/

namespace CommandQueue

/-- The number of table slots that a list can bind. -/
def tableSlots : Nat := 8

/-- The table slots that are shown to a reader: those there are and the first past the end. -/
def shownSlots : List Nat := List.range (tableSlots + 1)

/-- What a kernel can report about the group it runs for. -/
structure Visit where
  group : Extent
  grid : Extent
  index : Nat
  /-- The sizes of the buffers in each table slot. -/
  sizes : List (List Nat)
  deriving DecidableEq, Repr

/-- Everything that kernels and copies can change. -/
structure Scene where
  memory : Memory
  /-- The visits that kernels reported, the last one first. -/
  visits : List Visit
  deriving DecidableEq, Repr

def Scene.empty : Scene := ⟨Memory.empty, []⟩

/-- What a kernel is told when it runs for one group. -/
structure Invocation where
  grid : Extent
  group : Extent
  /-- The buffers of the table slots that the kernel reads. -/
  tables : List (List Buffer)
  deriving DecidableEq, Repr

namespace Invocation

/-- The buffers bound to a slot; a slot that is not read has none. -/
def table (invocation : Invocation) (slot : Nat) : List Buffer :=
  invocation.tables[slot]?.getD []

def index? (invocation : Invocation) : Option Nat :=
  invocation.grid.linearIndex? invocation.group

end Invocation

structure KernelRun where
  scene : Scene
  finished : Bool
  deriving DecidableEq, Repr

/-- A program that runs for one group at a time. -/
abbrev Program := Invocation → Scene → KernelRun

namespace Program

/-- Visit groups in order, beginning with the one of number `index`, until one gives up.
The group that gave up is returned. -/
def visitFrom (program : Program) (grid : Extent) (tables : List (List Buffer)) (index : Nat) :
    Nat → Scene → Scene × Option Extent
  | 0, scene => (scene, none)
  | count + 1, scene =>
      let group := grid.groupAt index
      let run := program ⟨grid, group, tables⟩ scene
      if run.finished then
        visitFrom program grid tables (index + 1) count run.scene
      else
        (run.scene, some group)

def visit (program : Program) (grid : Extent) (tables : List (List Buffer)) (scene : Scene) :
    Scene × Option Extent :=
  program.visitFrom grid tables 0 grid.size scene

end Program

/-- The number of table slots of a layout that was asked for `requested` of them. -/
def layoutSlots (requested : Nat) : Nat := min requested tableSlots

structure Bundle where
  /-- What tells two bundles apart, even when their kernels have the same name. -/
  key : Nat
  kernel : KernelId
  slots : Nat
  program : Program

/-- The bundle as a record that hides its program. -/
def Bundle.structural (bundle : Bundle) : String :=
  Text.openRecord "PipelineBundle" [("kernel", KernelId.structural bundle.kernel)]

end CommandQueue
