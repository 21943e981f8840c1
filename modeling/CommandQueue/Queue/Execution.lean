import CommandQueue.Queue

/-!
# Running streams

A stream runs from its first command to its last, beginning with nothing bound.
Binding commands change the bindings, a copy moves its bytes, and a dispatch
resolves the tables that its kernel reads and then visits the groups of its
grid.  A dispatch that fails is noted, and the commands after it run as usual.
-/

namespace CommandQueue

structure Execution where
  bindings : Bindings
  scene : Scene
  failures : List (CommandKind × Failure)

namespace Execution

def start (scene : Scene) : Execution := ⟨Bindings.none, scene, []⟩

/-- The buffers of the tables that a kernel reads; a slot without a range has none. -/
def resolveTables (heap : DescriptorHeap) (tables : List (Option DescriptorRange)) :
    Except Error (List (List Buffer)) :=
  tables.mapM fun
    | some range => heap.resolve range
    | none => .ok []

/-- Run one dispatch: the scene after it and why it failed, if it did. -/
def dispatch (heap : DescriptorHeap) (bindings : Bindings) (grid : Extent) (scene : Scene) :
    Scene × Option Failure :=
  match bindings.pipeline with
  | none => (scene, some .noPipeline)
  | some bundle =>
      match resolveTables heap (bindings.tables.take bundle.slots) with
      | .error error => (scene, some (.unresolved error))
      | .ok tables =>
          let (final, stopped) := bundle.program.visit grid tables scene
          (final, stopped.map fun group => .panicked bundle.kernel group)

def step (heap : DescriptorHeap) (execution : Execution) (command : Command) : Execution :=
  match command with
  | .setPipeline _ | .setTable .. =>
      { execution with bindings := execution.bindings.apply command }
  | .copyRegion region =>
      { execution with
        scene := { execution.scene with memory := execution.scene.memory.copy region } }
  | .dispatch grid =>
      let (scene, failure) := dispatch heap execution.bindings grid execution.scene
      { execution with
        scene := scene
        failures := execution.failures ++
          failure.toList.map fun reason => (CommandKind.dispatch, reason) }

def run (heap : DescriptorHeap) (execution : Execution) (commands : List Command) : Execution :=
  commands.foldl (step heap) execution

@[simp]
theorem run_nil (heap : DescriptorHeap) (execution : Execution) :
    execution.run heap [] = execution := rfl

@[simp]
theorem run_cons (heap : DescriptorHeap) (execution : Execution) (command : Command)
    (rest : List Command) :
    execution.run heap (command :: rest) = (execution.step heap command).run heap rest := rfl

theorem run_append (heap : DescriptorHeap) (execution : Execution)
    (first second : List Command) :
    execution.run heap (first ++ second) = (execution.run heap first).run heap second := by
  simp [run, List.foldl_append]

/-- A command changes the bindings in the same way whether it is recorded or run. -/
@[simp]
theorem bindings_step (heap : DescriptorHeap) (execution : Execution) (command : Command) :
    (execution.step heap command).bindings = execution.bindings.apply command := by
  cases command <;> rfl

end Execution

structure StreamRun where
  scene : Scene
  failures : List (CommandKind × Failure)

def Stream.run (stream : Stream) (heap : DescriptorHeap) (scene : Scene) : StreamRun :=
  let finished := (Execution.start scene).run heap stream.commands
  ⟨finished.scene, finished.failures⟩

def Stream.runAll (heap : DescriptorHeap) : List Stream → Scene → StreamRun
  | [], scene => ⟨scene, []⟩
  | stream :: rest, scene =>
      let first := stream.run heap scene
      let others := Stream.runAll heap rest first.scene
      ⟨others.scene, first.failures ++ others.failures⟩

end CommandQueue
