import CommandQueue.Text.Structural

/-!
# Fence values

A fence value numbers one submission of a queue, from one upwards; zero stands
for the time before any submission.
-/

namespace CommandQueue

/-- A point on the timeline of a queue. -/
abbrev FenceValue := Nat

namespace FenceValue

def structural (value : FenceValue) : String :=
  Text.wrapped "FenceValue" (toString value)

/-- Minus one, zero or one as the first value is below, at or above the second. -/
def compare (left right : FenceValue) : Int :=
  if left < right then -1 else if left = right then 0 else 1

end FenceValue

end CommandQueue
