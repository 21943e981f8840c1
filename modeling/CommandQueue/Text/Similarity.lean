/-!
# Similar words

Two words are compared by the letters they share at nearly the same places and
by how many of these stand in another order.  The measure is a ratio: one for
equal words, zero for words that share nothing.
-/

namespace CommandQueue.Text

/-- The letters of two words that are matched to each other, each in the order of its word. -/
structure Matched where
  taken : List Bool
  letters : List Char
  deriving DecidableEq, Repr

/-- The first free place of a letter inside a window of the second word. -/
def freePlace? (second : List Char) (taken : List Bool) (letter : Char) (first last : Nat) :
    Option Nat :=
  (List.range second.length).find? fun place =>
    first ≤ place && place < last && second[place]? == some letter &&
      taken[place]? == some false

/-- Match the letters of the first word, in order, to free places of the second word that lie at
most `reach` away. -/
def matchLetters (reach : Nat) (second : List Char) :
    Nat → List Char → Matched → Matched
  | _, [], matched => matched
  | place, letter :: rest, matched =>
      let found := freePlace? second matched.taken letter (place - reach) (place + reach + 1)
      let next :=
        match found with
        | some free => ⟨matched.taken.set free true, matched.letters ++ [letter]⟩
        | none => matched
      matchLetters reach second (place + 1) rest next

def takenLetters (word : List Char) (taken : List Bool) : List Char :=
  ((word.zip taken).filter (·.2)).map (·.1)

/-- The likeness of two words as a numerator and a denominator: the mean of the matched share of
each word and of the share of matches that stand in order. -/
def similarity (first second : List Char) : Nat × Nat :=
  let reach := max first.length second.length / 2 - 1
  let start : Matched := ⟨second.map fun _ => false, []⟩
  let matched := matchLetters reach second 0 first start
  let count := matched.letters.length
  let pairs := matched.letters.zip (takenLetters second matched.taken)
  let transposed := (pairs.filter fun pair => pair.1 != pair.2).length / 2
  if first.isEmpty && second.isEmpty then
    (1, 1)
  else if count = 0 then
    (0, 1)
  else
    (count * second.length * count + count * first.length * count +
        (count - transposed) * first.length * second.length,
      3 * first.length * second.length * count)

def ratioLess (left right : Nat × Nat) : Bool :=
  left.1 * right.2 < right.1 * left.2

structure Rated where
  candidate : String
  likeness : Nat × Nat
  deriving DecidableEq, Repr

namespace Rated

/-- One candidate is less like the word than another, or as much and shorter. -/
def below (left right : Rated) : Bool :=
  ratioLess left.likeness right.likeness ||
    (!ratioLess right.likeness left.likeness &&
      left.candidate.length < right.candidate.length)

/-- The candidate is at least seven tenths like the word. -/
def near (rated : Rated) : Bool := !ratioLess rated.likeness (7, 10)

end Rated

/-- The candidate most like a word, if one is at least seven tenths like it; of several the
longest, and of these the last. -/
def mostSimilar? (word : String) (candidates : List String) : Option String :=
  let rated := candidates.map fun candidate : String =>
    (⟨candidate, similarity word.toList candidate.toList⟩ : Rated)
  let better (best : Option Rated) (next : Rated) :=
    if best.any next.below then best else some next
  ((rated.filter Rated.near).foldl better none).map Rated.candidate

example : similarity "frame".toList "frames".toList = (425, 450) := by decide
example : mostSimilar? "version" ["frames", "wgpu", "help"] = none := by cbv
example : mostSimilar? "frame" ["frames", "wgpu", "help"] = some "frames" := by cbv
example : mostSimilar? "fppes" ["frames", "wgpu", "help"] = some "frames" := by cbv

end CommandQueue.Text
