/-!
# Sets of characters

A set of characters is given by its boundaries: the code points, in ascending
order, at which it begins or ends.  A character belongs to the set exactly if an
odd number of boundaries lie at or below it.
-/

namespace CommandQueue.Text

/-- A set of characters by the code points at which it begins or ends. -/
structure CharacterSet where
  boundaries : List Nat
  deriving DecidableEq, Repr

namespace CharacterSet

def holds (set : CharacterSet) (code : Nat) : Bool :=
  set.boundaries.countP (· ≤ code) % 2 = 1

def contains (set : CharacterSet) (character : Char) : Bool :=
  set.holds character.toNat

def empty : CharacterSet := ⟨[]⟩

def range (first last : Nat) : CharacterSet := ⟨[first, last + 1]⟩

def single (code : Nat) : CharacterSet := range code code

def isEmpty (set : CharacterSet) : Bool := set.boundaries.isEmpty

/-- The boundaries at which a combination of two sets changes, given whether the code points just
before belong to each of them. -/
def sweep (combine : Bool → Bool → Bool) (left right : Bool) :
    List Nat → List Nat → List Nat
  | [], [] => []
  | first :: rest, [] =>
      let others := sweep combine (!left) right rest []
      if combine left right = combine (!left) right then others else first :: others
  | [], second :: rest =>
      let others := sweep combine left (!right) [] rest
      if combine left right = combine left (!right) then others else second :: others
  | first :: firsts, second :: seconds =>
      if first < second then
        let others := sweep combine (!left) right firsts (second :: seconds)
        if combine left right = combine (!left) right then others else first :: others
      else if second < first then
        let others := sweep combine left (!right) (first :: firsts) seconds
        if combine left right = combine left (!right) then others else second :: others
      else
        let others := sweep combine (!left) (!right) firsts seconds
        if combine left right = combine (!left) (!right) then others else first :: others
  termination_by firsts seconds => firsts.length + seconds.length

/-- The code points for which a combination of belonging to two sets is true. -/
def combine (combination : Bool → Bool → Bool) (left right : CharacterSet) : CharacterSet :=
  ⟨sweep combination false false left.boundaries right.boundaries⟩

def union : CharacterSet → CharacterSet → CharacterSet := combine fun left right => left || right

def intersection : CharacterSet → CharacterSet → CharacterSet :=
  combine fun left right => left && right

def difference : CharacterSet → CharacterSet → CharacterSet :=
  combine fun left right => left && !right

def symmetricDifference : CharacterSet → CharacterSet → CharacterSet :=
  combine fun left right => left != right

def ofRanges (ranges : List (Nat × Nat)) : CharacterSet :=
  ranges.foldl (fun set bounds => set.union (range bounds.1 bounds.2)) empty

/-- The first code point that no character has. -/
def firstSurrogate : Nat := 0xd800

/-- The first code point behind those that no character has. -/
def behindSurrogates : Nat := 0xe000

/-- A run of code points without those at its ends that no character has. -/
def trimmed (run : Nat × Nat) : Nat × Nat :=
  let surrogate (code : Nat) : Bool := firstSurrogate ≤ code && code < behindSurrogates
  (if surrogate run.1 then behindSurrogates else run.1,
    if surrogate run.2 then firstSurrogate - 1 else run.2)

def runsBetween : List Nat → List (Nat × Nat)
  | first :: behind :: rest => (first, behind - 1) :: runsBetween rest
  | _ => []

/-- The runs of code points that belong to the set, by their first and their last one. -/
def runs (set : CharacterSet) : List (Nat × Nat) :=
  ((runsBetween set.boundaries).map trimmed).filter fun run => run.1 ≤ run.2

def size (set : CharacterSet) : Nat :=
  set.runs.foldl (fun counted run => counted + (run.2 + 1 - run.1)) 0

/-- The character of a set that has a single one. -/
def only? (set : CharacterSet) : Option Char :=
  match set.runs with
  | [(first, last)] => if first = last then some (Char.ofNat first) else none
  | _ => none

def whole : CharacterSet := range 0 0x10ffff

/-- The code points of seven bits. -/
def ascii : CharacterSet := range 0 0x7f

example : ofRanges [(97, 99), (98, 102), (48, 57)] = ⟨[48, 58, 97, 103]⟩ := by decide +kernel
example : (range 97 122).difference (single 98) = ⟨[97, 98, 99, 123]⟩ := by decide +kernel
example : whole.difference (single 0) = ⟨[1, 0x110000]⟩ := by decide +kernel
example : (whole.difference (single 0xe000)).runs = [(0, 0xd7ff), (0xe001, 0x10ffff)] := by
  decide +kernel
example : (single 97).only? = some 'a' := by decide +kernel

end CharacterSet

end CommandQueue.Text
