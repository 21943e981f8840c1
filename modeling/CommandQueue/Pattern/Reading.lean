import CommandQueue.Pattern.Bracket
import CommandQueue.Pattern.Group
import CommandQueue.Pattern.Repetition

/-!
# Reading a pattern

A pattern is read part by part from the left to the right.  The groups that are
open are kept in a list, the innermost first, each with the branches that were
read before it.
-/

namespace CommandQueue.Pattern

/-- Branches of a choice, the last of which is being read. -/
structure Branches where
  start : Place
  /-- The branches read, the last first. -/
  finished : List Term
  branchStart : Place
  /-- The parts of the last branch, the last first. -/
  parts : List Term

namespace Branches

def empty (place : Place) : Branches := ⟨place, [], place, []⟩

def add (branches : Branches) (part : Term) : Branches :=
  { branches with parts := part :: branches.parts }

def lastBranch (branches : Branches) (behind : Place) : Term :=
  .ofParts ⟨branches.branchStart, behind⟩ branches.parts.reverse

/-- The branches with the last one finished before a bar. -/
def split (branches : Branches) (bar next : Place) : Branches :=
  { branches with
    finished := branches.lastBranch bar :: branches.finished
    branchStart := next
    parts := [] }

def term (branches : Branches) (behind : Place) : Term :=
  let last := branches.lastBranch behind
  if branches.finished.isEmpty then last
  else .choice ⟨branches.start, behind⟩ (last :: branches.finished).reverse

end Branches

/-- A group whose closing parenthesis was not read. -/
structure OpenGroup where
  span : Span
  capturing : Bool
  settings : Settings
  around : Branches
  /-- Blanks and comments are skipped around the group. -/
  spacedAround : Bool

structure Reading where
  branches : Branches
  /-- The groups that are open, the innermost first. -/
  groups : List OpenGroup
  names : List (String × Span)

namespace Reading

open Reader

def start : Reading := ⟨.empty .start, [], []⟩

def add (reading : Reading) (part : Term) : Reading :=
  { reading with branches := reading.branches.add part }

/-- Skip blanks and comments from here on, or skip them no longer. -/
def setSpaced (spaced : Bool) : Reader Unit :=
  modify fun cursor => { cursor with spaced := spaced }

def addName (reading : Reading) (name : Option (String × Span)) : Reader (List (String × Span)) :=
  match name with
  | none => return reading.names
  | some (given, span) =>
      match reading.names.lookup given with
      | some earlier => throw ⟨.groupNameRepeated, span, some earlier⟩
      | none => return (given, span) :: reading.names

/-- Read what opens a group, or flags. -/
def openGroup (reading : Reading) : Reader Reading := do
  let spacedAround := (← get).spaced
  match ← Group.readOpening with
  | .flags span settings =>
      setSpaced ((settings.get? .spaced).getD spacedAround)
      return reading.add (.flags span settings)
  | .group span capturing settings name =>
      let names ← reading.addName name
      setSpaced ((settings.get? .spaced).getD spacedAround)
      let group : OpenGroup := ⟨span, capturing, settings, reading.branches, spacedAround⟩
      return ⟨.empty (← here), group :: reading.groups, names⟩

/-- Read what closes the innermost group. -/
def closeGroup (reading : Reading) : Reader Reading := do
  match reading.groups with
  | [] => complainNext .groupUnopened
  | group :: around =>
      setSpaced group.spacedAround
      let body := reading.branches.term (← here)
      bump
      let span : Span := ⟨group.span.first, ← here⟩
      let closed := Term.group span group.capturing group.settings body
      return { reading with branches := group.around.add closed, groups := around }

def splitBranches (reading : Reading) : Reader Reading := do
  let bar ← here
  bump
  return { reading with branches := reading.branches.split bar (← here) }

/-- Read how often the last part is repeated. -/
def repeatLast (reading : Reading) (mark : Char) : Reader Reading := do
  match reading.branches.parts with
  | [] => complainHere .repetitionOfNothing
  | part :: before =>
      if !part.repeatable then complainHere .repetitionOfNothing
      let rounds ← Repetition.read mark
      let span : Span := ⟨part.span.first, ← here⟩
      let repetition := Term.repetition span rounds part
      return { reading with
        branches := { reading.branches with parts := repetition :: before } }

/-- Read a part that is one character or assertion. -/
def readSingle (next : Char) : Reader Term := do
  if next = '\\' then
    Escape.read
  else
    let span ← nextSpan
    bump
    match next with
    | '.' => return .dot span
    | '^' => return .assertion span .lineStart
    | '$' => return .assertion span .lineEnd
    | other => return .character ⟨span, other, false⟩

def readPart (reading : Reading) (next : Char) : Reader Reading := do
  match next with
  | '(' => reading.openGroup
  | ')' => reading.closeGroup
  | '|' => reading.splitBranches
  | '[' =>
      let bracketed ← Bracket.read
      return reading.add (.bracketed bracketed.span bracketed.negated bracketed.contents)
  | '?' | '*' | '+' | '{' => reading.repeatLast next
  | other => return reading.add (← readSingle other)

/-- The term of a pattern that ends here. -/
def finish (reading : Reading) : Reader Term := do
  match reading.groups with
  | [] => return reading.branches.term (← here)
  | group :: _ => complain .groupUnclosed group.span

/-- Read to the end of the pattern.  Every round reads at least one character, so there are no
more rounds than characters left. -/
def readAll : Nat → Reading → Reader Term
  | 0, reading => reading.finish
  | rounds + 1, reading => do
      skip
      match ← peek with
      | none => reading.finish
      | some next => readAll rounds (← reading.readPart next)

end Reading

def Term.ofText (pattern : String) : Except Complaint Term :=
  let cursor := Cursor.ofText pattern
  ((Reading.readAll (cursor.rest.length + 1) .start).run cursor).map Prod.fst

end CommandQueue.Pattern
