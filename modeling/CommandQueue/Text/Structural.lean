import CommandQueue.Text.Unprinted

/-!
# Structural text

Values are shown to a reader of diagnostics by their shape: a record as
`Name { field: value, field: value }`, a wrapped value as `Name(value)`, a
text between double quotes with its special characters escaped.  This module
holds those shapes; each domain type states its own fields beside itself.
-/

namespace CommandQueue.Text

/-- The digits of a number in base sixteen, in lower case. -/
def hexadecimal (number : Nat) : String :=
  String.ofList (Nat.toDigits 16 number)

def escape (character : Char) : String :=
  match character with
  | '"' => "\\\""
  | '\\' => "\\\\"
  | '\n' => "\\n"
  | '\r' => "\\r"
  | '\t' => "\\t"
  | '\x00' => "\\0"
  | other =>
      if unprinted other then
        "\\u\x7b" ++ hexadecimal other.toNat ++ "\x7d"
      else
        other.toString

def quoted (text : String) : String :=
  "\"" ++ String.join (text.toList.map escape) ++ "\""

def listing (items : List String) : String :=
  "[" ++ ", ".intercalate items ++ "]"

/-- A named value around one other value. -/
def wrapped (name value : String) : String :=
  name ++ "(" ++ value ++ ")"

def optional : Option String → String
  | some value => wrapped "Some" value
  | none => "None"

def fieldList (fields : List (String × String)) : String :=
  ", ".intercalate (fields.map fun field => field.1 ++ ": " ++ field.2)

/-- A record that shows all its fields. -/
def record (name : String) (fields : List (String × String)) : String :=
  name ++ " \x7b " ++ fieldList fields ++ " \x7d"

/-- A record that shows only some of its fields. -/
def openRecord (name : String) (fields : List (String × String)) : String :=
  name ++ " \x7b " ++ fieldList fields ++ ", .. \x7d"

end CommandQueue.Text
