import CommandQueue.Pattern.Cursor
import CommandQueue.Pattern.Term
import CommandQueue.Text.Letters

/-!
# What opens a group

A group captures what it matches, by a number or by a name, or it does not and
may switch flags instead.  Flags without a group hold for what follows them.
-/

namespace CommandQueue.Pattern

inductive Opening where
  /-- Flags that hold for what follows. -/
  | flags (span : Span) (settings : Settings)
  /-- A group, with its flags and with its name, if it has one. -/
  | group (span : Span) (capturing : Bool) (settings : Settings) (name : Option (String × Span))

def Settings.get? (settings : Settings) (flag : Flag) : Option Bool := settings.lookup flag

structure FlagReading where
  flags : List (Flag × Span × Bool)
  /-- The dash behind which flags are switched off. -/
  negation : Option Span
  /-- Nothing was read behind the dash yet. -/
  dangling : Bool

namespace FlagReading

def start : FlagReading := ⟨[], none, false⟩

def add (reading : FlagReading) (flag : Flag) (span : Span) : FlagReading :=
  { reading with
    flags := reading.flags ++ [(flag, span, reading.negation.isNone)]
    dangling := false }

def settings (reading : FlagReading) : Settings :=
  reading.flags.map fun entry => (entry.1, entry.2.2)

end FlagReading

namespace Group

open Reader

/-- What begins an assertion about the text around a place. -/
def lookAroundMarks : List String := ["?=", "?!", "?<=", "?<!"]

def beginsName (character : Char) : Bool := character = '_' || Text.letter character

def inName (character : Char) : Bool :=
  "_.[]".toList.contains character || Text.letter character || Text.numeral character

def readName : Reader (String × Span) := do
  let first ← here
  let name ←
    match ← peek with
    | none => complainHere .groupNameUnclosed
    | some character => if beginsName character then collect bump inName else pure []
  let span : Span := ⟨first, ← here⟩
  match ← peek with
  | none => complainHere .groupNameUnclosed
  | some '>' =>
      bump
      if name.isEmpty then complain .groupNameEmpty (.nothing first)
      return (String.ofList name, span)
  | some _ => complainNext .groupNameCharacter

/-- Read one flag or the dash before the flags that are switched off. -/
def readFlag (reading : FlagReading) (letter : Char) : Reader FlagReading := do
  let span ← nextSpan
  if letter = '-' then
    if let some earlier := reading.negation then
      throw ⟨.flagNegationRepeated, span, some earlier⟩
    return { reading with negation := some span, dangling := true }
  else
    match Flag.ofLetter? letter with
    | none => complain .flagUnknown span
    | some flag =>
        if let some (earlier, _) := reading.flags.lookup flag then
          throw ⟨.flagRepeated, span, some earlier⟩
        return reading.add flag span

/-- Read flags up to a colon or a parenthesis, over at most a given number of characters. -/
def readFlags : Nat → FlagReading → Reader FlagReading
  | 0, _ => complainHere .flagCut
  | count + 1, reading => do
      match ← peek with
      | none => complainHere .flagCut
      | some ':' | some ')' =>
          if reading.dangling then
            if let some span := reading.negation then
              complain .flagNegationDangling span
          return reading
      | some letter =>
          let next ← readFlag reading letter
          bump
          readFlags count next

/-- Read what follows the question mark of a group without a capture. -/
def readUncaptured (opening : Span) (mark : Place) : Reader Opening := do
  if (← peek).isNone then complain .groupUnclosed opening
  let reading ← readFlags ((← get).rest.length + 1) .start
  let grouped := (← peek) = some ':'
  bump
  if grouped then
    return .group opening false reading.settings none
  if reading.flags.isEmpty then complain .repetitionOfNothing (.nothing mark)
  return .flags ⟨opening.first, ← here⟩ reading.settings

def readOpening : Reader Opening := do
  let opening ← nextSpan
  step
  for mark in lookAroundMarks do
    if ← bumpIf mark then complainSince .lookAround opening.first
  let mark ← here
  if ← bumpIf "?P<" then
    return .group opening true [] (some (← readName))
  if ← bumpIf "?<" then
    return .group opening true [] (some (← readName))
  if ← bumpIf "?" then
    readUncaptured opening mark
  else
    return .group opening true [] none

end Group

end CommandQueue.Pattern
