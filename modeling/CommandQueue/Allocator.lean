import CommandQueue.Command

/-!
# Allocators

An allocator owns the storage into which one list at a time records its
commands.  When the list is handed to a queue the recording is frozen under the
name of the list; the storage can be used again only once the queue no longer
refers to that frozen recording.
-/

namespace CommandQueue

/-- The recording storage of a command list. -/
structure Allocator where
  id : AllocatorId
  /-- The submission after which the storage was last given back. -/
  stamp : FenceValue
  recorded : List Command
  /-- The list under whose name the recording was handed to a queue. -/
  frozenBy : Option ListId

namespace Allocator

def category (allocator : Allocator) : Category := allocator.id.category

def new (id : AllocatorId) : Allocator := ⟨id, 0, [], none⟩

def record (allocator : Allocator) (command : Command) : Allocator :=
  { allocator with recorded := allocator.recorded ++ [command] }

/-- Freeze the recording under the name of its list; a frozen recording stays as it is. -/
def freeze (allocator : Allocator) (list : ListId) : Allocator :=
  { allocator with frozenBy := some (allocator.frozenBy.getD list) }

/-- The frozen recording as the queue sees it. -/
def stream? (allocator : Allocator) : Option Stream :=
  allocator.frozenBy.map fun list => ⟨list, allocator.category, allocator.recorded⟩

/-- Whether the queue still refers to the recording, given the streams it holds. -/
def inFlight (allocator : Allocator) (held : ListId → Bool) : Bool :=
  allocator.frozenBy.any held

def cleared (allocator : Allocator) : Allocator :=
  { allocator with recorded := [], frozenBy := none }

/-- Empty the storage, unless the queue still refers to its recording. -/
def reset (allocator : Allocator) (held : ListId → Bool) : Except Error Allocator :=
  if allocator.inFlight held then
    .error (.allocatorInFlight allocator.id allocator.stamp)
  else
    .ok allocator.cleared

def structural (allocator : Allocator) : String :=
  Text.record "CommandAllocator"
    [("id", allocator.id.structural), ("stamp", FenceValue.structural allocator.stamp),
      ("in_flight", toString allocator.frozenBy.isSome)]

@[simp]
theorem recorded_cleared (allocator : Allocator) : allocator.cleared.recorded = [] := rfl

@[simp]
theorem id_cleared (allocator : Allocator) : allocator.cleared.id = allocator.id := rfl

@[simp]
theorem stamp_cleared (allocator : Allocator) : allocator.cleared.stamp = allocator.stamp := rfl

@[simp]
theorem freeze_freeze (allocator : Allocator) (first second : ListId) :
    (allocator.freeze first).freeze second = allocator.freeze first := by
  simp [freeze]

theorem reset_eq_ok_iff (allocator next : Allocator) (held : ListId → Bool) :
    allocator.reset held = .ok next ↔
      allocator.inFlight held = false ∧ next = allocator.cleared := by
  unfold reset
  cases allocator.inFlight held <;> simp [eq_comm]

end Allocator

end CommandQueue
