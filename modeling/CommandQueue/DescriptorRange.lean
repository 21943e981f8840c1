import CommandQueue.Text.Structural
import CommandQueue.Word

/-!
# Ranges of descriptors

Descriptors are numbered with words of 32 bits.  A range is a first index and a
count, and need not end within the word: `end?` is its end when it does, and
`saturatedEnd` stops at the greatest word.
-/

namespace CommandQueue

/-- A run of descriptor indices. -/
structure DescriptorRange where
  start : Nat
  count : Nat
  deriving DecidableEq, Repr

namespace DescriptorRange

/-- The index after the last one, if it is a word. -/
def end? (range : DescriptorRange) : Option Nat :=
  if range.start + range.count < wordBound then some (range.start + range.count) else none

/-- The index after the last one, or the greatest word. -/
def saturatedEnd (range : DescriptorRange) : Nat :=
  min (range.start + range.count) (wordBound - 1)

/-- The range as an interval, with its length in place of an end that is no word. -/
def text (range : DescriptorRange) : String :=
  match range.end? with
  | some last => s!"[{range.start}..{last})"
  | none => s!"[{range.start}..+{range.count})"

def structural (range : DescriptorRange) : String :=
  Text.record "DescriptorRange"
    [("start", toString range.start), ("count", toString range.count)]

end DescriptorRange

end CommandQueue
