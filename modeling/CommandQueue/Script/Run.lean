import CommandQueue.Script.BufferSteps
import CommandQueue.Script.DebugSteps
import CommandQueue.Script.DeviceSteps
import CommandQueue.Script.HeapSteps
import CommandQueue.Script.ListSteps
import CommandQueue.Script.ManualSteps
import CommandQueue.Script.PipelineSteps
import CommandQueue.Script.PoolSteps

/-!
# Running scripts

A script is a list of steps for one kind of queue.  Each step is answered, with
the events it caused where the script asks for them.  At the end the remaining
lists are dropped and the remaining devices are shown and ended, each in the
order of their names.
-/

namespace CommandQueue.Script

open Scripted

/-- What a script asks for beside the answers. -/
structure Watching where
  logs : Bool
  stats : Bool
  deriving DecidableEq, Repr

def findStep? (kind : BackendKind) (name : String) : Option (Fields → Scripted Answer) :=
  DeviceSteps.find? name <|> ListSteps.find? name <|> BufferSteps.find? name <|>
    PipelineSteps.find? name <|> HeapSteps.find? name <|> PoolSteps.find? name <|>
    DebugSteps.find? name <|>
    if kind = .manual then ManualSteps.find? name else none

def step (fields : Fields) : Scripted Answer := do
  let unknown : Refusal := .field "do"
  match ((fields.get "do").text?.bind (findStep? (← get).kind)) with
  | some run => run fields
  | none => refuse unknown

def eventValue (event : Event) : Value :=
  .text (event.level.name ++ " " ++ event.text)

/-- The fields that show what was reported. -/
def reportFields (watching : Watching) (session : Session) : Fields :=
  let grave := session.queueEvents.filter fun event => event.level = .error
  (if watching.logs then [("log", .list (session.events.map eventValue))] else []) ++
    if grave.isEmpty then [] else [("queue_log", .list (grave.map eventValue))]

/-- The fields that show the device that a step uses. -/
def statsFields (watching : Watching) (fields : Fields) (session : Session) : Fields :=
  let found := (fields.withDefault "dev" Value.text? "d").toOption.bind session.devices.get?
  match watching.stats, found with
  | true, some device => [("stats", DeviceSteps.statsValue device)]
  | _, _ => []

def Session.silenced (session : Session) : Session :=
  { session with events := [], queueEvents := [] }

def answerStep (watching : Watching) (session : Session) (request : Value) : Session × Value :=
  let fields : Fields :=
    match request with
    | .record given => given
    | _ => []
  let quiet := session.silenced
  let (answer, after) :=
    match (step fields).run quiet with
    | .ok (answer, after) => (answer, after)
    | .error refusal => (.refused refusal, quiet)
  (after, .record
    (answer.fields ++ reportFields watching after ++ statsFields watching fields after))

def answerSteps (watching : Watching) : Session → List Value → Session × List Value
  | session, [] => (session, [])
  | session, request :: rest =>
      let (after, answer) := answerStep watching session request
      let (final, answers) := answerSteps watching after rest
      (final, answer :: answers)

/-- Drop the remaining lists and end the remaining devices. -/
def finish : Scripted Value := do
  for (given, list) in (← get).lists.sorted do
    ListSteps.retire given list
  let devices := (← get).devices.sorted
  report (devices.map fun entry => entry.2.teardown)
  return .list <| devices.map fun entry =>
    .list [.text entry.1, DeviceSteps.statsValue entry.2]

def endFields (watching : Watching) (session : Session) : Fields :=
  match finish.run session.silenced with
  | .ok (devices, after) => ("devices", devices) :: reportFields watching after
  | .error refusal => Answer.refusalFields refusal

/-- Run a script. -/
def session (fields : Fields) : Except Refusal Value := do
  let kind ← fields.require "backend" fun value => value.text?.bind BackendKind.ofName?
  let steps ← fields.require "steps" Value.list?
  let logs ← fields.withDefault "logs" Value.flag? false
  let stats ← fields.withDefault "watch" Value.flag? false
  let watching : Watching := ⟨logs, stats⟩
  let (final, answers) := answerSteps watching (Session.new kind) steps
  return .record
    [("steps", .list answers), ("end", .record (endFields watching final))]

end CommandQueue.Script
