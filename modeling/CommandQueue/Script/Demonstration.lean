import CommandQueue.Demo.Transcript
import CommandQueue.Script.Value

/-!
# Running the demonstration from a script

A script runs the demonstration on the soft queue only, and sees a placeholder
where the demonstration tells how long it took.
-/

namespace CommandQueue.Script.Demonstration

/-- Whether an argument begins as the one that asks for a GPU. -/
def asksForGpu (argument : String) : Bool :=
  "--wg".toList.isPrefixOf argument.toList

/-- What ends the time of day at the beginning of a line of the log. -/
def behindTimestamp : String := "Z "

/-- A line of the log without the time of day at its beginning. -/
def withoutTimestamp (line : String) : String :=
  match line.toList.head?, line.splitOn behindTimestamp with
  | some '[', _ :: next :: rest => "[" ++ behindTimestamp.intercalate (next :: rest)
  | _, _ => line

def beforeTime : String := " frame(s) in "

def behindTime : String := ": "

/-- A line with a placeholder for the length of time that a record tells. -/
def hideTime (line : String) : String :=
  match line.toList.head?, line.splitOn beforeTime with
  | some '[', [before, behind] =>
      match behind.splitOn behindTime with
      | _ :: next :: rest => before ++ beforeTime ++ behindTime.intercalate ("T" :: next :: rest)
      | _ => line
  | _, _ => line

def lines (given : List String) : Value := .list (given.map .text)

/-- Run the demonstration with the arguments and the log filter of a request. -/
def run (fields : Fields) : Except Refusal Value := do
  let arguments ← fields.require "args" (Value.listOf? Value.text?)
  if arguments.any asksForGpu then throw (.field "args")
  let filter := (fields.get "rust_log").text?
  let transcript := Demo.Transcript.ofArguments arguments filter
  return .record
    [("code", .natural transcript.code), ("stdout", lines transcript.output),
      ("stderr", lines (transcript.log.map (hideTime ∘ withoutTimestamp)))]

end CommandQueue.Script.Demonstration
