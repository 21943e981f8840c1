import CommandQueue.Pattern.Problem
import CommandQueue.Text.Blank

/-!
# Cursors

A cursor stands before what is left of a pattern.  A reader moves it on or
complains.  Where a pattern is spaced, blanks and comments are skipped between
its parts.
-/

namespace CommandQueue.Pattern

/-- What is left of a pattern, and where it begins. -/
structure Cursor where
  rest : List Char
  place : Place
  spaced : Bool
  deriving DecidableEq, Repr

namespace Cursor

def ofText (pattern : String) : Cursor := ⟨pattern.toList, .start, false⟩

def advance (cursor : Cursor) : Cursor :=
  match cursor.rest with
  | [] => cursor
  | character :: rest => { cursor with rest := rest, place := cursor.place.after character }

/-- What is left behind blanks and comments, and its place. -/
def skipFrom (inComment : Bool) : List Char → Place → List Char × Place
  | [], place => ([], place)
  | character :: rest, place =>
      if inComment then
        skipFrom (character != '\n') rest (place.after character)
      else if Text.blank character then
        skipFrom false rest (place.after character)
      else if character = '#' then
        skipFrom true rest (place.after character)
      else
        (character :: rest, place)

def skip (cursor : Cursor) : Cursor :=
  if cursor.spaced then
    let (rest, place) := skipFrom false cursor.rest cursor.place
    { cursor with rest := rest, place := place }
  else
    cursor

def second? (cursor : Cursor) : Option Char := cursor.rest.tail.head?

/-- The character behind the next one and the blanks after it; a mark that begins a comment counts
as a blank, once. -/
def secondBeyondBlanks? (cursor : Cursor) : Option Char :=
  if cursor.spaced then
    let behind := cursor.rest.tail
    let text := behind.dropWhile Text.blank
    let beyond :=
      match text with
      | '#' :: comment => comment.dropWhile Text.blank
      | _ => text
    beyond.head? <|> behind.head?
  else
    cursor.second?

end Cursor

/-- What moves a cursor on and gives something, or complains. -/
abbrev Reader := StateT Cursor (Except Complaint)

namespace Reader

def here : Reader Place := return (← get).place

def peek : Reader (Option Char) := return (← get).rest.head?

def nextSpan : Reader Span := do
  let cursor ← get
  return ⟨cursor.place, cursor.advance.place⟩

def complain {α : Type} (problem : Problem) (span : Span) : Reader α :=
  throw ⟨problem, span, none⟩

/-- Complain about what stands between a place and the cursor. -/
def complainSince {α : Type} (problem : Problem) (first : Place) : Reader α := do
  complain problem ⟨first, ← here⟩

def complainHere {α : Type} (problem : Problem) : Reader α := do
  complain problem (.nothing (← here))

def complainNext {α : Type} (problem : Problem) : Reader α := do
  complain problem (← nextSpan)

def bump : Reader Unit := modify Cursor.advance

def skip : Reader Unit := modify Cursor.skip

/-- Move behind the next character and what is skipped after it. -/
def step : Reader Unit := do
  bump
  skip

def bumpIf (text : String) : Reader Bool := do
  if text.toList.isPrefixOf (← get).rest then
    text.toList.forM fun _ => bump
    return true
  else
    return false

/-- Move on over at most `count` accepted characters, and give them. -/
def collectUpTo (move : Reader Unit) (accepts : Char → Bool) : Nat → Reader (List Char)
  | 0 => return []
  | count + 1 => do
      match ← peek with
      | some character =>
          if accepts character then
            move
            return character :: (← collectUpTo move accepts count)
          else
            return []
      | none => return []

def collect (move : Reader Unit) (accepts : Char → Bool) : Reader (List Char) := do
  collectUpTo move accepts (← get).rest.length

end Reader

end CommandQueue.Pattern
