import CommandQueue.Pattern.Cursor
import CommandQueue.Pattern.Term

/-!
# Escapes

A backslash gives a character a meaning that it does not have by itself, or
takes its meaning away.
-/

namespace CommandQueue.Pattern

namespace Escape

open Reader

/-- The characters that mean something where they stand unescaped. -/
def special (character : Char) : Bool :=
  "\\.+*?()|[]\x7b\x7d^$#&-~".toList.contains character

/-- The characters that a backslash turns into themselves. -/
def plain (character : Char) : Bool :=
  special character ||
    (character.toNat ≤ 0x7f && !character.isAlphanum && character != '<' && character != '>')

def control? : Char → Option Char
  | 'a' => some '\x07'
  | 'f' => some '\x0c'
  | 't' => some '\t'
  | 'n' => some '\n'
  | 'r' => some '\r'
  | 'v' => some '\x0b'
  | _ => none

def assertion? : Char → Option Assertion
  | 'A' => some .textStart
  | 'z' => some .textEnd
  | 'b' => some (.word .boundary)
  | 'B' => some (.word .noBoundary)
  | '<' => some (.word .start)
  | '>' => some (.word .finish)
  | _ => none

/-- The classes that an escaped letter stands for, negated for the upper case. -/
def shorthand? : Char → Option (Bool × Shorthand)
  | 'd' => some (false, .digit)
  | 'D' => some (true, .digit)
  | 's' => some (false, .space)
  | 'S' => some (true, .space)
  | 'w' => some (false, .word)
  | 'W' => some (true, .word)
  | _ => none

def wordEdge? : String → Option WordEdge
  | "start" => some .start
  | "end" => some .finish
  | "start-half" => some .startHalf
  | "end-half" => some .finishHalf
  | _ => none

def inEdgeName (character : Char) : Bool := character.isAlpha || character = '-'

def hexadecimalDigit (character : Char) : Bool :=
  character.isDigit || ('a' ≤ character && character ≤ 'f') ||
    ('A' ≤ character && character ≤ 'F')

def hexadecimalValue (character : Char) : Nat :=
  if character.isDigit then character.toNat - '0'.toNat
  else character.toLower.toNat - 'a'.toNat + 10

/-- The character of a number written in base sixteen, if there is one. -/
def characterOf? (digits : List Char) : Option Char :=
  let code := digits.foldl (fun value digit => 16 * value + hexadecimalValue digit) 0
  if code.isValidChar then some (Char.ofNat code) else none

/-- The number of digits that a letter asks for. -/
def digitCount : Char → Nat
  | 'x' => 2
  | 'u' => 4
  | _ => 8

def readDigits : Nat → Reader (List Char)
  | 0 => return []
  | count + 1 => do
      match ← peek with
      | none => complainHere .escapeCut
      | some digit =>
          if hexadecimalDigit digit then
            step
            return digit :: (← readDigits count)
          else
            complainNext .hexadecimalDigit

/-- Read a character by its number, without braces. -/
def readFixed (start : Place) (letter : Char) : Reader Literal := do
  let first ← here
  let digits ← readDigits (digitCount letter)
  match characterOf? digits with
  | some character => return ⟨⟨start, ← here⟩, character, letter == 'x'⟩
  | none => complainSince .hexadecimalValue first

def readBraced (start : Place) : Reader Literal := do
  let brace ← here
  let first := (← nextSpan).behind
  step
  let digits ← collect step hexadecimalDigit
  match ← peek with
  | none => complainSince .escapeCut brace
  | some '}' =>
      let behind ← here
      step
      if digits.isEmpty then complainSince .hexadecimalEmpty brace
      match characterOf? digits with
      | some character => return ⟨⟨start, ← here⟩, character, false⟩
      | none => complain .hexadecimalValue ⟨first, behind⟩
  | some _ => complainNext .hexadecimalDigit

def readNumbered (start : Place) (letter : Char) : Reader Literal := do
  step
  match ← peek with
  | none => complainHere .escapeCut
  | some '{' => readBraced start
  | some _ => readFixed start letter

/-- The parts of a text before and after the first occurrence of another. -/
def cut? (text mark : String) : Option (String × String) :=
  match text.splitOn mark with
  | first :: second :: rest => some (first, mark.intercalate (second :: rest))
  | _ => none

/-- The property between braces: a name, or a name and a value. -/
def propertyOf (text : String) : Property :=
  match cut? text "!=" <|> cut? text ":" <|> cut? text "=" with
  | some (name, value) => .valued name value
  | none => .named text

def readProperty : Reader Property := do
  step
  match ← peek with
  | none => complainHere .escapeCut
  | some '{' =>
      step
      let name ← collect step (· != '}')
      if (← peek).isNone then complainHere .escapeCut
      bump
      return propertyOf (String.ofList name)
  | some letter =>
      if letter = '\\' then complainNext .propertyMark
      step
      return .named letter.toString

/-- Read the name of an edge of words, if one stands between braces. -/
def readWordEdge? (start : Place) : Reader (Option WordEdge) := do
  let cursor ← get
  let brace ← here
  step
  let first ← here
  match ← peek with
  | none => complainSince .wordEdgeOrCountCut start
  | some letter =>
      if !inEdgeName letter then
        set cursor
        return none
      let name ← collect step inEdgeName
      if (← peek) != some '}' then complainSince .wordEdgeUnclosed brace
      let behind ← here
      bump
      match wordEdge? (String.ofList name) with
      | some edge => return some edge
      | none => complain .wordEdgeUnknown ⟨first, behind⟩

def readAssertion (start : Place) (kind : Assertion) : Reader Term := do
  let plainly := Term.assertion ⟨start, ← here⟩ kind
  if kind = .word .boundary ∧ (← peek) = some '{' then
    match ← readWordEdge? start with
    | some edge => return .assertion ⟨start, ← here⟩ (.word edge)
    | none => return plainly
  else
    return plainly

/-- Read an escaped character that stands for itself, for a control or for an assertion. -/
def readSimple (start : Place) (letter : Char) : Reader Term := do
  bump
  let span : Span := ⟨start, ← here⟩
  if plain letter then
    return .character ⟨span, letter, false⟩
  match control? letter, assertion? letter with
  | some control, _ => return .character ⟨span, control, false⟩
  | none, some kind => readAssertion start kind
  | none, none => complain .escapeUnknown span

def read : Reader Term := do
  let start ← here
  bump
  match ← peek with
  | none => complainSince .escapeCut start
  | some letter =>
      if letter.isDigit then complain .backreference ⟨start, (← nextSpan).behind⟩
      if letter = 'x' ∨ letter = 'u' ∨ letter = 'U' then
        return .character (← readNumbered start letter)
      if letter = 'p' ∨ letter = 'P' then
        let property ← readProperty
        return .property ⟨start, ← here⟩ (letter == 'P') property
      match shorthand? letter with
      | some (negated, kind) =>
          bump
          return .shorthand ⟨start, ← here⟩ negated kind
      | none => readSimple start letter

end Escape

end CommandQueue.Pattern
