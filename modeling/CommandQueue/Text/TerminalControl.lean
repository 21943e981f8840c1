/-!
# Text without terminal controls

A text that is not shown on a terminal is written without the sequences that
would control one.  An escape begins a sequence, whose characters are left out
up to the one that ends it.  The blanks that move the cursor of a terminal are
kept, even inside most sequences, and then what follows them is kept too, up to
the next control.
-/

namespace CommandQueue.Text

namespace TerminalControl

inductive Reading where
  | shown
  /-- What follows an escape. -/
  | escape
  | escapeIntermediate
  /-- A command with numbers. -/
  | commandEntry
  | commandNumbers
  | commandIntermediate
  | commandIgnored
  /-- A command with a text. -/
  | textEntry
  | textNumbers
  | textIntermediate
  | textIgnored
  | textPassed
  /-- A command to the system around the terminal. -/
  | system
  /-- A text that a terminal does not show. -/
  | privateText
  deriving DecidableEq, Repr

def inRange (character : Char) (first last : Nat) : Bool :=
  first ≤ character.toNat && character.toNat ≤ last

/-- The blanks that move the cursor. -/
def movesCursor (character : Char) : Bool :=
  character = '\t' || character = '\n' || character = '\x0c' || character = '\r'

/-- The bytes of a character beyond seven bits hold the one that ends a text. -/
def endsText (character : Char) : Bool :=
  0x7f < character.toNat && (String.singleton character).toUTF8.toList.contains 0x9c

def afterEscape (character : Char) : Reading :=
  if inRange character 0x20 0x2f then .escapeIntermediate
  else if character = '[' then .commandEntry
  else if character = ']' then .system
  else if character = 'P' then .textEntry
  else if character = 'X' || character = '^' || character = '_' then .privateText
  else if inRange character 0x30 0x7e then .shown
  else .escape

/-- What a terminal reads behind one more character, unless this begins or ends any sequence. -/
def afterOrdinary (character : Char) : Reading → Reading
  | .shown => .shown
  | .escape => afterEscape character
  | .escapeIntermediate =>
      if inRange character 0x30 0x7e then .shown else .escapeIntermediate
  | .commandEntry =>
      if inRange character 0x20 0x2f then .commandIntermediate
      else if inRange character 0x30 0x3f then .commandNumbers
      else if inRange character 0x40 0x7e then .shown
      else .commandEntry
  | .commandNumbers =>
      if inRange character 0x20 0x2f then .commandIntermediate
      else if inRange character 0x3c 0x3f then .commandIgnored
      else if inRange character 0x40 0x7e then .shown
      else .commandNumbers
  | .commandIntermediate =>
      if inRange character 0x30 0x3f then .commandIgnored
      else if inRange character 0x40 0x7e then .shown
      else .commandIntermediate
  | .commandIgnored => if inRange character 0x40 0x7e then .shown else .commandIgnored
  | .textEntry =>
      if inRange character 0x20 0x2f then .textIntermediate
      else if inRange character 0x30 0x3f then .textNumbers
      else if inRange character 0x40 0x7e then .textPassed
      else .textEntry
  | .textNumbers =>
      if inRange character 0x20 0x2f then .textIntermediate
      else if inRange character 0x3c 0x3f then .textIgnored
      else if inRange character 0x40 0x7e then .textPassed
      else .textNumbers
  | .textIntermediate =>
      if inRange character 0x30 0x3f then .textIgnored
      else if inRange character 0x40 0x7e then .textPassed
      else .textIntermediate
  | .textIgnored => if endsText character then .shown else .textIgnored
  | .textPassed => if endsText character then .shown else .textPassed
  | .privateText => if endsText character then .shown else .privateText
  | .system => if character = '\x07' then .shown else .system

/-- An escape begins a sequence anywhere, and two controls end one anywhere. -/
def anywhere? (character : Char) : Option Reading :=
  if character = '\x1b' then some .escape
  else if character = '\x18' || character = '\x1a' then some .shown
  else none

def after (reading : Reading) (character : Char) : Reading :=
  (anywhere? character).getD (afterOrdinary character reading)

def visible (character : Char) : Bool :=
  inRange character 0x20 0x7e || movesCursor character || 0x7f < character.toNat

/-- The blanks that move the cursor are kept while this is read. -/
def keepsBlanks : Reading → Bool
  | .shown | .escape | .escapeIntermediate | .commandEntry | .commandNumbers
  | .commandIntermediate | .commandIgnored => true
  | _ => false

def resumes (reading : Reading) (character : Char) : Bool :=
  (reading = .shown && visible character) || (keepsBlanks reading && movesCursor character)

/-- The characters that are kept of a text, of which the last one before was kept or not. -/
def kept (keeping : Bool) (reading : Reading) : List Char → List Char
  | [] => []
  | character :: rest =>
      if keeping && visible character then
        let next := if 0x7f < character.toNat then .shown else reading
        character :: kept true next rest
      else
        let current := if keeping then (anywhere? character).getD reading else reading
        let next := after current character
        if resumes current character then character :: kept true next rest
        else kept false next rest

end TerminalControl

def withoutControls (text : String) : String :=
  String.ofList (TerminalControl.kept true .shown text.toList)

example : withoutControls "\x1b[31mred\x1b[0m" = "red" := by cbv
example : withoutControls "a\x07b\x7f" = "ab" := by cbv
example : withoutControls "a\x1b]0;t\x07b" = "ab" := by cbv

end CommandQueue.Text
