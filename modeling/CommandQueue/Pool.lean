import CommandQueue.Allocator
import CommandQueue.Fence
import CommandQueue.Outcome

/-!
# Allocator pools

A pool keeps the idle allocators of one category in the order in which they were
given back.  It hands out the first one whose stamp is completed, and creates a
new one only when there is none.  An allocator that the queue still refers to is
not handed out: it goes to the back, and the request fails.
-/

namespace CommandQueue

/-- The idle allocators of one category. -/
structure Pool where
  category : Category
  /-- The idle allocators, the one that waits longest first. -/
  free : List Allocator
  /-- The number of allocators created and not lost, idle or in use. -/
  live : Nat
  nextSerial : Nat
  limit : Option Nat
  /-- The number of commands for which a new storage has room at once. -/
  initialCapacity : Nat
  commandWidth : Nat
  /-- The greatest number of bytes that a storage is given at present. -/
  memory : Nat

namespace Pool

/-- The greatest number of bytes that a storage can be asked to have. -/
def greatestStorage : Nat := 0x7ffffffffffffff8

/-- The greatest number of bytes that a storage is given while memory is not short. -/
def ampleMemory : Nat := 0x7ffffffff

def new (category : Category) (limit : Option Nat) (initialCapacity commandWidth : Nat) : Pool :=
  ⟨category, [], 0, 0, limit, initialCapacity, commandWidth, ampleMemory⟩

def full (pool : Pool) : Bool :=
  pool.limit.any (· ≤ pool.live)

def limitReason : String :=
  "allocator limit reached and no pooled allocator is idle"

def capacityReason : String :=
  "memory allocation failed because the computed capacity exceeded the collection's maximum"

def memoryReason : String :=
  "memory allocation failed because the memory allocator returned an error"

/-- Why the storage for the first commands cannot be set aside, if it cannot. -/
def storageProblem? (pool : Pool) : Option String :=
  let bytes := pool.initialCapacity * pool.commandWidth
  if greatestStorage < bytes then some capacityReason
  else if pool.memory < bytes then some memoryReason
  else none

/-- Create an allocator.  A serial is used up even when the storage cannot be set aside. -/
def create (pool : Pool) : Outcome Pool Allocator :=
  if pool.full then
    .refused pool (.resourceExhausted pool.category pool.live limitReason) []
  else
    let id : AllocatorId := ⟨pool.category, pool.nextSerial⟩
    let counted := { pool with nextSerial := pool.nextSerial + 1 }
    match pool.storageProblem? with
    | none =>
        .done { counted with live := pool.live + 1 } (Allocator.new id)
          [.allocatorCreated id (pool.live + 1)]
    | some reason =>
        .refused counted (.resourceExhausted pool.category pool.live reason) []

def putBack (pool : Pool) (allocator : Allocator) : Pool :=
  { pool with free := pool.free ++ [allocator] }

/-- Create idle allocators, up to the first that cannot be created. -/
def prewarm (pool : Pool) : Nat → Outcome Pool Unit
  | 0 => .done pool () []
  | count + 1 =>
      pool.create.andThen fun created allocator =>
        (created.putBack allocator).prewarm count

def eligible (completed : FenceValue) (allocator : Allocator) : Bool :=
  allocator.stamp ≤ completed

def acquire (pool : Pool) (completed : FenceValue) (held : ListId → Bool) :
    Outcome Pool Allocator :=
  match pool.free.find? (eligible completed) with
  | none => pool.create
  | some allocator =>
      let rest := { pool with free := pool.free.eraseP (eligible completed) }
      match allocator.reset held with
      | .ok emptied =>
          .done rest emptied [.allocatorReused allocator.id allocator.stamp]
      | .error error =>
          -- The queue still refers to its recording, so it waits behind the others.
          .refused (rest.putBack allocator) error [.allocatorKept error]

/-- Take an allocator back and stamp it.  Its storage is emptied at once if the queue no longer
refers to it, and otherwise when it is handed out again. -/
def release (pool : Pool) (allocator : Allocator) (stamp : FenceValue)
    (held : ListId → Bool) : Pool × List Event :=
  let stamped := { allocator with stamp := stamp }
  match stamped.reset held with
  | .ok emptied =>
      (pool.putBack emptied, [.allocatorReleased allocator.id stamp])
  | .error _ =>
      (pool.putBack stamped,
        [.allocatorStillInFlight allocator.id, .allocatorReleased allocator.id stamp])

def available (pool : Pool) : List (AllocatorId × FenceValue) :=
  pool.free.map fun allocator => (allocator.id, allocator.stamp)

def structural (pool : Pool) : String :=
  Text.listing <| pool.free.map fun allocator =>
    Text.record "PooledAllocator"
      [("id", allocator.id.structural), ("stamp", FenceValue.structural allocator.stamp)]

@[simp]
theorem free_putBack (pool : Pool) (allocator : Allocator) :
    (pool.putBack allocator).free = pool.free ++ [allocator] := rfl

/-- An allocator that is handed out has nothing recorded. -/
theorem recorded_of_acquire {pool : Pool} {completed : FenceValue} {held : ListId → Bool}
    {allocator : Allocator} (acquired : (pool.acquire completed held).result = .ok allocator) :
    allocator.recorded = [] := by
  unfold acquire at acquired
  split at acquired
  · unfold create at acquired
    split at acquired
    · simp [Outcome.refused] at acquired
    · split at acquired
      · simp only [Outcome.done, Except.ok.injEq] at acquired
        rw [← acquired]
        rfl
      · simp [Outcome.refused] at acquired
  · split at acquired
    · rename_i emptied reset
      simp only [Outcome.done, Except.ok.injEq] at acquired
      rw [← acquired, ((Allocator.reset_eq_ok_iff ..).mp reset).2]
      rfl
    · simp [Outcome.refused] at acquired

end Pool

end CommandQueue
