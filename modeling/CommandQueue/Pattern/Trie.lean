/-!
# Tries

A trie holds several words and shares what they begin with.  A state of it is
given by the rests of the words that lead through it, in the order in which they
were added.  A word that ends at a state closes what was added there before: words
that come later do not share ways with words that came earlier, because earlier
words are preferred.
-/

namespace CommandQueue.Pattern

/-- The rests of the words that lead through a state of a trie. -/
structure Trie where
  rests : List (List UInt8)
  deriving DecidableEq, Repr

namespace Trie

/-- The rests between the words that end here, each group on its own. -/
def groupsOf : List (List UInt8) → List (List (List UInt8))
  | [] => [[]]
  | [] :: rest => [] :: groupsOf rest
  | word :: rest =>
      match groupsOf rest with
      | group :: others => (word :: group) :: others
      | [] => [[word]]

/-- The groups of rests that share their ways.  Words that end here before any other are like one
such word. -/
def groups (trie : Trie) : List (List (List UInt8)) :=
  match trie.rests with
  | [] :: rest => [] :: groupsOf (rest.dropWhile List.isEmpty)
  | words => groupsOf words

/-- The ways on from a group of rests: the state behind each of their first bytes. -/
def waysOf (group : List (List UInt8)) : List (UInt8 × Trie) :=
  (group.filterMap List.head?).eraseDups.map fun byte =>
    (byte, ⟨(group.filter fun word => word.head? = some byte).map List.tail⟩)

def isLeaf (trie : Trie) : Bool := trie.rests.all List.isEmpty

/-- The number of bytes of the longest rest. -/
def depth (trie : Trie) : Nat := (trie.rests.map List.length).foldl max 0

example : (Trie.mk [[1], [], [1, 2]]).groups = [[[1]], [[1, 2]]] := by decide +kernel
example : (Trie.mk [[], [], [1], []]).groups = [[], [[1]], []] := by decide +kernel
example : waysOf [[1, 2], [3], [1]] = [(1, ⟨[[2], []]⟩), (3, ⟨[[]]⟩)] := by decide +kernel

end Trie

end CommandQueue.Pattern
