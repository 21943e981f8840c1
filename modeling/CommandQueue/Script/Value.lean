import CommandQueue.Error
import CommandQueue.Word

/-!
# Values of the script language

Requests and answers of a script are records of named values.  A request is read
field by field; the first field that is missing, of the wrong type or out of its
bounds refuses the whole request under its name.
-/

namespace CommandQueue.Script

inductive Value where
  | null
  | flag (value : Bool)
  | integer (value : Int)
  /-- A number that is no integer; no field takes one. -/
  | fraction
  | text (value : String)
  | list (items : List Value)
  | record (fields : List (String × Value))
  deriving Inhabited, Repr

abbrev Fields := List (String × Value)

/-- Why a request was refused without being tried. -/
inductive Refusal where
  /-- A field is missing, of the wrong type, out of its bounds, or names nothing known. -/
  | field (name : String)
  /-- A field names something new, but the name is taken. -/
  | inUse (name : String)
  /-- A device cannot end while it has lists. -/
  | listsAlive
  | notReadable
  deriving DecidableEq, Repr

def Refusal.message : Refusal → String
  | .field name => name
  | .inUse name => name ++ " in use"
  | .listsAlive => "lists alive"
  | .notReadable => "not a readback buffer"

namespace Value

def present : Value → Bool
  | .null => false
  | _ => true

def natural (number : Nat) : Value := .integer number

def ofOption : Option Value → Value
  | some value => value
  | none => .null

/-- The numbers below a bound. -/
def natural? (bound : Nat) : Value → Option Nat
  | .integer value => if 0 ≤ value ∧ value < bound then some value.toNat else none
  | _ => none

def word? : Value → Option Nat := natural? wordBound

def long? : Value → Option Nat := natural? longBound

def text? : Value → Option String
  | .text value => some value
  | _ => none

def flag? : Value → Option Bool
  | .flag value => some value
  | _ => none

def integer? : Value → Option Int
  | .integer value => some value
  | _ => none

def list? : Value → Option (List Value)
  | .list items => some items
  | _ => none

/-- The lists of values that all pass one reader. -/
def listOf? {α : Type} (read : Value → Option α) (value : Value) : Option (List α) :=
  value.list?.bind fun items => items.mapM read

def category? (value : Value) : Option Category :=
  value.text?.bind Category.ofText?

def state? (value : Value) : Option ListState :=
  value.text?.bind ListState.ofText?

end Value

namespace Fields

/-- The value of a field; a field that is not given is null. -/
def get (fields : Fields) (name : String) : Value :=
  (fields.lookup name).getD .null

/-- A field that must pass a reader. -/
def require {α : Type} (fields : Fields) (name : String) (read : Value → Option α) :
    Except Refusal α :=
  match read (fields.get name) with
  | some value => .ok value
  | none => .error (.field name)

def option {α : Type} (fields : Fields) (name : String) (read : Value → Option α) :
    Except Refusal (Option α) :=
  if (fields.get name).present then some <$> fields.require name read else .ok none

/-- A field with a value of its own when it is left out. -/
def withDefault {α : Type} (fields : Fields) (name : String) (read : Value → Option α)
    (value : α) : Except Refusal α :=
  return (← fields.option name read).getD value

end Fields

inductive Answer where
  | success (value : Value)
  /-- The operation was refused by the library. -/
  | failed (error : Error)
  /-- The operation broke a contract of the library. -/
  | panicked
  /-- The operation would wait for something that cannot happen by itself, and was not tried. -/
  | wouldBlock
  /-- The request itself is wrong. -/
  | refused (refusal : Refusal)

namespace Answer

def nothing : Answer := .success .null

def ofResult {α : Type} (result : Except Error α) (shown : α → Value) : Answer :=
  match result with
  | .ok value => .success (shown value)
  | .error error => .failed error

def refusalFields (refusal : Refusal) : Fields :=
  [("error", .text "BadInput"), ("message", .text refusal.message)]

def fields : Answer → Fields
  | .success value => [("ok", value)]
  | .failed error =>
      [("error", .text error.name), ("kind", .text error.kind.name),
        ("message", .text error.message)]
  | .panicked => [("error", .text "Panic")]
  | .wouldBlock => [("would_block", .flag true)]
  | .refused refusal => refusalFields refusal

end Answer

end CommandQueue.Script
