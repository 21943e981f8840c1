import CommandQueue.Pattern.Beginning
import CommandQueue.Pattern.Meaning
import CommandQueue.Pattern.Nesting
import CommandQueue.Pattern.Reading
import CommandQueue.Pattern.Report

/-!
# Patterns

A pattern describes texts, and is looked for anywhere in a text.
-/

namespace CommandQueue

structure Pattern where
  expression : Pattern.Expression
  deriving Repr

namespace Pattern

/-- Why a pattern cannot be used. -/
inductive Refusal where
  | misread (complaint : Complaint)
  | tooLarge
  /-- The pattern asks for the edges of words in every script. -/
  | noMachine
  deriving DecidableEq, Repr

def Refusal.text (pattern : String) : Refusal → String
  | .misread complaint => complaint.report pattern
  | .tooLarge => s!"Compiled regex exceeds size limit of {Size.limit} bytes."
  | .noMachine => "error building NFA"

def understand (text : String) : Except Complaint Expression := do
  let term ← Term.ofText text
  term.ensureShallow
  Expression.ofTerm term

/-- Make the machines for an expression, unless it needs none. -/
def ofExpression (expression : Expression) : Except Refusal Pattern :=
  if expression.needsNoMachine then .ok ⟨expression⟩
  else if expression.tooLarge .forward then .error .tooLarge
  else if expression.asksForScripts then .error .noMachine
  else if expression.tooLarge .backward then .error .tooLarge
  else .ok ⟨expression⟩

def ofText (text : String) : Except Refusal Pattern :=
  match understand text with
  | .error complaint => .error (.misread complaint)
  | .ok expression => ofExpression expression

/-- The pattern describes some part of a text. -/
def occursIn (pattern : Pattern) (text : String) : Bool :=
  pattern.expression.occursIn text.toList

end Pattern

end CommandQueue
