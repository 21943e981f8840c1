/-!
# Places in a pattern

A place is told by its line and its column, both counted from one.  A span is
the part of a pattern from one place up to another.
-/

namespace CommandQueue.Pattern

structure Place where
  line : Nat
  column : Nat
  deriving DecidableEq, Repr

namespace Place

def start : Place := ⟨1, 1⟩

def after (place : Place) (character : Char) : Place :=
  if character = '\n' then ⟨place.line + 1, 1⟩ else ⟨place.line, place.column + 1⟩

def atMost (left right : Place) : Bool :=
  left.line < right.line || (left.line == right.line && left.column ≤ right.column)

end Place

structure Span where
  first : Place
  behind : Place
  deriving DecidableEq, Repr

namespace Span

/-- The span of nothing at a place. -/
def nothing (place : Place) : Span := ⟨place, place⟩

def inLine (span : Span) : Bool := span.first.line == span.behind.line

def atMost (left right : Span) : Bool :=
  if left.first = right.first then left.behind.atMost right.behind
  else left.first.atMost right.first

end Span

end CommandQueue.Pattern
