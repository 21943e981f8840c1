import CommandQueue.Text.CharacterSet

/-!
# Ranges of bytes

A character is written in one to four bytes.  The first byte carries a mark that
tells how many bytes follow it; each of those carries six bits of the code point.
The characters of a run are exactly those whose bytes lie in one of a few rows of
ranges, a range for each byte.
-/

namespace CommandQueue.Text

/-- The bytes from the first to the last. -/
structure ByteRange where
  first : Nat
  last : Nat
  deriving DecidableEq, Repr

/-- A range for each byte of a character. -/
abbrev ByteRow := List ByteRange

/-- Code points that are written in the same number of bytes. -/
structure ByteForm where
  first : Nat
  last : Nat
  /-- The number of bytes behind the first. -/
  following : Nat
  /-- What the first byte carries besides the code point. -/
  mark : Nat
  deriving DecidableEq, Repr

namespace ByteForm

def all : List ByteForm :=
  [⟨0, 0x7f, 0, 0⟩, ⟨0x80, 0x7ff, 1, 0xc0⟩, ⟨0x800, 0xd7ff, 2, 0xe0⟩, ⟨0xe000, 0xffff, 2, 0xe0⟩,
    ⟨0x10000, 0x10ffff, 3, 0xf0⟩]

end ByteForm

namespace ByteRow

/-- What a byte carries that is not the first of its character. -/
def followingMark : Nat := 0x80

/-- The number of values of the bits of the code point in a byte that is not the first. -/
def followingValues : Nat := 64

def anyFollowing : ByteRange := ⟨followingMark, followingMark + followingValues - 1⟩

/-- The rows for the code points of a form from the first to the last.  The code points of one
first byte are split further by the bytes behind it, unless they are all that the byte can have;
whole ones side by side make one row. -/
def ofBits : (following mark first last : Nat) → List ByteRow
  | 0, mark, first, last => [[⟨mark + first, mark + last⟩]]
  | following + 1, mark, first, last =>
      let share := followingValues ^ (following + 1)
      let low := first / share
      let high := last / share
      let inside (lead start stop : Nat) : List ByteRow :=
        (ofBits following followingMark start stop).map (⟨mark + lead, mark + lead⟩ :: ·)
      if low = high then
        inside low (first % share) (last % share)
      else
        let wholeLow := first % share = 0
        let wholeHigh := last % share = share - 1
        let start := if wholeLow then low else low + 1
        let stop := if wholeHigh then high + 1 else high
        let opening := if wholeLow then [] else inside low (first % share) (share - 1)
        let closing := if wholeHigh then [] else inside high 0 (last % share)
        let middle :=
          if start < stop then
            [⟨mark + start, mark + stop - 1⟩ :: List.replicate (following + 1) anyFollowing]
          else []
        opening ++ middle ++ closing

def ofRun (run : Nat × Nat) : List ByteRow :=
  ByteForm.all.flatMap fun form =>
    let first := max run.1 form.first
    let last := min run.2 form.last
    if first ≤ last then ofBits form.following form.mark first last else []

def ofSet (set : CharacterSet) : List ByteRow := set.runs.flatMap ofRun

example : ofSet (CharacterSet.range 0xe0 0xef) = [[⟨0xc3, 0xc3⟩, ⟨0xa0, 0xaf⟩]] := by
  decide +kernel
example : (ofSet CharacterSet.whole).map List.length = [1, 2, 3, 3, 3, 3, 4, 4, 4] := by
  decide +kernel

end ByteRow

end CommandQueue.Text
