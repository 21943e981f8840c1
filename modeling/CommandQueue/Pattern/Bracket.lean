import CommandQueue.Pattern.Escape

/-!
# Classes between brackets

A class lists characters, ranges and other classes, and combines what it lists
by operations that are applied from the left to the right.  The classes that are
open are kept in a list, the innermost first.
-/

namespace CommandQueue.Pattern

/-- Items of a class that stand side by side. -/
structure Gathering where
  span : Span
  /-- The items, the last first. -/
  items : List ClassTerm

namespace Gathering

def empty (place : Place) : Gathering := ⟨.nothing place, []⟩

def add (gathering : Gathering) (item : ClassTerm) : Gathering :=
  let first := if gathering.items.isEmpty then item.span.first else gathering.span.first
  ⟨⟨first, item.span.behind⟩, item :: gathering.items⟩

/-- The items as one part of a class. -/
def term (gathering : Gathering) : ClassTerm :=
  match gathering.items with
  | [] => .empty gathering.span
  | [item] => item
  | items => .together gathering.span items.reverse

end Gathering

/-- A class whose closing bracket was not read. -/
structure OpenBracket where
  span : Span
  negated : Bool
  /-- The items since the class was opened or since its last operation. -/
  gathering : Gathering
  /-- The last operation, which waits for what stands on its right. -/
  waiting : Option (SetOperation × ClassTerm)

namespace OpenBracket

def add (bracket : OpenBracket) (item : ClassTerm) : OpenBracket :=
  { bracket with gathering := bracket.gathering.add item }

def contents (bracket : OpenBracket) : ClassTerm :=
  let right := bracket.gathering.term
  match bracket.waiting with
  | none => right
  | some (kind, left) => .operation ⟨left.span.first, right.span.behind⟩ kind left right

/-- The class with an operation behind what it has listed so far. -/
def operate (bracket : OpenBracket) (kind : SetOperation) (place : Place) : OpenBracket :=
  { bracket with gathering := .empty place, waiting := some (kind, bracket.contents) }

def closedSpan (bracket : OpenBracket) (behind : Place) : Span := ⟨bracket.span.first, behind⟩

end OpenBracket

structure Bracketed where
  span : Span
  negated : Bool
  contents : ClassTerm

namespace Bracket

open Reader

/-- The operation of a character that stands twice. -/
def operation? : Char → Option SetOperation
  | '&' => some .intersection
  | '-' => some .difference
  | '~' => some .symmetricDifference
  | _ => none

/-- Move on inside what opens a class, and complain if the pattern ends. -/
def stepInside (complaint : Reader Unit) : Reader Unit := do
  step
  if (← peek).isNone then complaint

def readVerbatim (letter : Char) : Reader Literal := return ⟨← nextSpan, letter, false⟩

/-- Read the dashes that a class begins with, at most a given number of them. -/
def readDashes (start : Place) : Nat → Gathering → Reader Gathering
  | 0, gathering => return gathering
  | count + 1, gathering => do
      if (← peek) = some '-' then
        let more := gathering.add (.character (← readVerbatim '-'))
        stepInside (complain .classUnclosed (.nothing start))
        readDashes start count more
      else
        return gathering

/-- Read what opens a class: the bracket, a caret that negates it, and the characters that stand
for themselves only there. -/
def readOpening : Reader OpenBracket := do
  let start ← here
  let unclosed : Reader Unit := complainSince .classUnclosed start
  stepInside unclosed
  let negated := (← peek) = some '^'
  if negated then stepInside unclosed
  let dashes ← readDashes start (← get).rest.length (.empty (← here))
  let gathering ←
    if dashes.items.isEmpty ∧ (← peek) = some ']' then
      let more := dashes.add (.character (← readVerbatim ']'))
      stepInside unclosed
      pure more
    else
      pure dashes
  return ⟨⟨start, ← here⟩, negated, gathering, none⟩

/-- Read a class by its name.  What is no such class is left to be read otherwise. -/
def readNamed? : Reader (Option ClassTerm) := do
  let cursor ← get
  let start ← here
  let mut found : Option ClassTerm := none
  if ← bumpIf "[:" then
    let caret ← bumpIf "^"
    let name ← collect bump (· != ':')
    if ← bumpIf ":]" then
      if let some kind := NamedClass.ofName? (String.ofList name) then
        found := some (.named ⟨start, ← here⟩ caret kind)
  if found.isNone then set cursor
  return found

def readAtom (next : Char) : Reader Term := do
  if next = '\\' then
    Escape.read
  else
    let literal ← readVerbatim next
    bump
    return .character literal

def edge (term : Term) : Reader Literal :=
  match term.asLiteral? with
  | some literal => return literal
  | none => complain .classRangeEdge term.span

/-- Read an item of a class, which may be a range. -/
def readItem (unclosed : Reader Unit) (next : Char) : Reader ClassTerm := do
  let first ← readAtom next
  skip
  if (← peek).isNone then unclosed
  let beyond := (← get).secondBeyondBlanks?
  if (← peek) = some '-' ∧ beyond ≠ some ']' ∧ beyond ≠ some '-' then
    stepInside unclosed
    let last ← readAtom ((← peek).getD '-')
    let low ← edge first
    let high ← edge last
    let span : Span := ⟨first.span.first, last.span.behind⟩
    if high.character < low.character then complain .classRange span
    return .range span low high
  else
    match first.asClassItem? with
    | some item => return item
    | none => complain .classEscape first.span

/-- Read on behind an opened class until the outermost class is closed.  Every round reads at least
one character, so there are no more rounds than characters left. -/
def readOpen (inner : OpenBracket) (outer : List OpenBracket) : Nat → Reader Bracketed
  | 0 => complain .classUnclosed inner.span
  | rounds + 1 => do
      let unclosed : Reader Unit := complain .classUnclosed inner.span
      skip
      match ← peek with
      | none => complain .classUnclosed inner.span
      | some ']' =>
          bump
          let span := inner.closedSpan (← here)
          match outer with
          | [] => return ⟨span, inner.negated, inner.contents⟩
          | next :: others =>
              readOpen (next.add (.bracketed span inner.negated inner.contents)) others rounds
      | some '[' =>
          match ← readNamed? with
          | some named => readOpen (inner.add named) outer rounds
          | none => readOpen (← readOpening) (inner :: outer) rounds
      | some next =>
          match operation? next, (← get).second? == some next with
          | some kind, true =>
              bump
              bump
              readOpen (inner.operate kind (← here)) outer rounds
          | _, _ => readOpen (inner.add (← readItem unclosed next)) outer rounds

def read : Reader Bracketed := do
  let rounds := (← get).rest.length
  readOpen (← readOpening) [] rounds

end Bracket

end CommandQueue.Pattern
