import CommandQueue.Error

/-!
# Fences

A fence is the timeline of a queue.  It counts the values handed out to
submissions and the values that the queue has completed; a value is reached
once the completed count has caught up with it.  Asking about a value that was
never handed out is a misuse and reported as such.
-/

namespace CommandQueue

/-- The two counters of a timeline. -/
structure Fence where
  issued : FenceValue
  /-- The greatest value completed. -/
  completed : FenceValue
  deriving DecidableEq, Repr

namespace Fence

def new : Fence := ⟨0, 0⟩

def signalNext (fence : Fence) : Fence × FenceValue :=
  ({ fence with issued := fence.issued + 1 }, fence.issued + 1)

/-- Take back a value; only the last one handed out can be taken back. -/
def cancel (fence : Fence) (value : FenceValue) : Fence :=
  if fence.issued = value then { fence with issued := value - 1 } else fence

def checkIssued (fence : Fence) (value : FenceValue) : Except Error Unit :=
  if fence.issued < value then .error (.fenceNotIssued value fence.issued) else .ok ()

def reached (fence : Fence) (value : FenceValue) : Except Error Bool := do
  fence.checkIssued value
  return value ≤ fence.completed

/-- Complete a value and all below it.  Completing a value that was never handed out breaks the
contract of the timeline and has no result. -/
def complete? (fence : Fence) (value : FenceValue) : Option Fence :=
  if value ≤ fence.issued then
    some { fence with completed := max fence.completed value }
  else
    none

@[simp]
theorem issued_signalNext (fence : Fence) : fence.signalNext.1.issued = fence.issued + 1 := rfl

@[simp]
theorem completed_signalNext (fence : Fence) : fence.signalNext.1.completed = fence.completed := rfl

@[simp]
theorem snd_signalNext (fence : Fence) : fence.signalNext.2 = fence.issued + 1 := rfl

/-- Taking back the value just handed out leaves no trace of it. -/
@[simp]
theorem cancel_signalNext (fence : Fence) :
    fence.signalNext.1.cancel fence.signalNext.2 = fence := by
  simp [cancel, signalNext]

theorem reached_eq_error_iff (fence : Fence) (value : FenceValue) (error : Error) :
    fence.reached value = .error error ↔
      fence.issued < value ∧ error = .fenceNotIssued value fence.issued := by
  unfold reached checkIssued
  by_cases unissued : fence.issued < value
  · simp [unissued, bind, Except.bind, eq_comm]
  · simp [unissued, bind, Except.bind, pure, Except.pure]

theorem complete?_isSome_iff (fence : Fence) (value : FenceValue) :
    (fence.complete? value).isSome ↔ value ≤ fence.issued := by
  unfold complete?
  split <;> simp_all

end Fence

end CommandQueue
