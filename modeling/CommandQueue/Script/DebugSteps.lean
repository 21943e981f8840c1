import CommandQueue.Script.PoolSteps

/-!
# Steps that show the shape of things
-/

namespace CommandQueue.Script.DebugSteps

open Scripted

def commands (list : CommandList) : String :=
  "; ".intercalate (list.recorded.map Command.structural)

/-- The shape of the thing that a step names. -/
def shape (fields : Fields) : Scripted String := do
  match ← fields.require "what" Value.text? with
  | "list" => return (← list fields).2.structural
  | "commands" => return commands (← list fields).2
  | "heap" => return (← device fields).2.heap.structural
  | "stats" => return (← device fields).2.stats.structural
  | "pool" => return (← PoolSteps.place fields).2.structural
  | "alloc" => return (← known fields "alloc" Session.allocators).2.structural
  | "bundle" => return (← bundle fields).structural
  | "backend" =>
      if (← get).kind ≠ .soft then refuse (.field "what")
      match (← device fields).2.queue with
      | .soft queue => return queue.structural
      | _ => refuse (.field "what")
  | _ => refuse (.field "what")

def debug (fields : Fields) : Scripted Answer :=
  return .success (.text (← shape fields))

def find? (name : String) : Option (Fields → Scripted Answer) :=
  match name with
  | "debug" => some debug
  | _ => none

end CommandQueue.Script.DebugSteps
