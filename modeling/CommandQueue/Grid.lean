import CommandQueue.Word

/-!
# Grids of work groups

A dispatch runs a kernel once for each group of a grid.  Groups are visited with
the first coordinate running fastest, so the visit of number `k` is to the group
`groupAt k`.  A group finds its own number again by `linearIndex?`, which works
on words of 64 bits and has no result where a product or sum leaves the word.
-/

namespace CommandQueue

/-- Three coordinates: the extent of a grid, or a group inside one. -/
structure Extent where
  x : Nat
  y : Nat
  z : Nat
  deriving DecidableEq, Repr

namespace Extent

def toList (extent : Extent) : List Nat := [extent.x, extent.y, extent.z]

/-- The coordinates between square brackets. -/
def text (extent : Extent) : String :=
  s!"[{extent.x}, {extent.y}, {extent.z}]"

def size (grid : Extent) : Nat := grid.x * grid.y * grid.z

def Contains (grid group : Extent) : Prop :=
  group.x < grid.x ∧ group.y < grid.y ∧ group.z < grid.z

/-- The group of the visit of number `index`. -/
def groupAt (grid : Extent) (index : Nat) : Extent :=
  ⟨index % grid.x, index / grid.x % grid.y, index / grid.x / grid.y⟩

/-- A number that fits a word of 64 bits. -/
def word? (number : Nat) : Option Nat :=
  if number < longBound then some number else none

/-- The number of a group in the order of visits, computed on words of 64 bits. -/
def linearIndex? (grid group : Extent) : Option Nat := do
  let planes ← word? (grid.y * group.z)
  let rows ← word? (group.y + planes)
  let whole ← word? (grid.x * rows)
  word? (group.x + whole)

theorem groupAt_contained {grid : Extent} {index : Nat} (within : index < grid.size) :
    grid.Contains (grid.groupAt index) := by
  have positive : 0 < grid.x * grid.y * grid.z := Nat.lt_of_le_of_lt (Nat.zero_le _) within
  have planePositive : 0 < grid.x * grid.y := Nat.pos_of_mul_pos_right positive
  have xPositive : 0 < grid.x := Nat.pos_of_mul_pos_right planePositive
  have yPositive : 0 < grid.y := Nat.pos_of_mul_pos_left planePositive
  refine ⟨Nat.mod_lt _ xPositive, Nat.mod_lt _ yPositive, ?_⟩
  show index / grid.x / grid.y < grid.z
  rw [Nat.div_div_eq_div_mul]
  exact Nat.div_lt_of_lt_mul within

end Extent

end CommandQueue
