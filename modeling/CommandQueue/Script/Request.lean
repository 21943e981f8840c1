import CommandQueue.Script.Demonstration
import CommandQueue.Script.Inquiry
import CommandQueue.Script.Run

/-!
# Requests

A request names what it asks for in its field `op`: an inquiry,
a run of the demonstration, or a session.
-/

namespace CommandQueue.Script

def answerFields (fields : Fields) : Except Refusal Value := do
  match ← fields.require "op" Value.text? with
  | "session" => session fields
  | "demo" => Demonstration.run fields
  | name =>
      match Inquiry.find? name with
      | some inquiry => inquiry fields
      | none => throw (.field "op")

def refusalValue (refusal : Refusal) : Value := .record (Answer.refusalFields refusal)

/-- Answer a request. -/
def answer (request : Value) : Value :=
  let fields : Fields :=
    match request with
    | .record given => given
    | _ => []
  match answerFields fields with
  | .ok value => value
  | .error refusal => refusalValue refusal

end CommandQueue.Script
