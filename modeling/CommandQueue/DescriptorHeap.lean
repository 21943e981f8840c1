import CommandQueue.DescriptorRange
import CommandQueue.Memory

/-!
# Descriptor heaps

A descriptor heap is a table of buffers with a fixed number of places.  Ranges of
places are handed out from the front and never taken back; each place is written
at most once and keeps its buffer from then on.  Places may be written before
they are handed out, so publishing buffers can meet a place that is already
taken; what was handed out and written before that place then stays.
-/

namespace CommandQueue

/-- A table of buffers, each place written at most once. -/
structure DescriptorHeap where
  capacity : Nat
  /-- The number of places handed out. -/
  allocated : Nat
  /-- The places written, the last one first, with their buffers. -/
  written : List (Nat × Buffer)
  deriving DecidableEq, Repr

namespace DescriptorHeap

def new (capacity : Nat) : DescriptorHeap := ⟨capacity, 0, []⟩

def get? (heap : DescriptorHeap) (index : Nat) : Option Buffer :=
  heap.written.lookup index

def allocate (heap : DescriptorHeap) (count : Nat) :
    Except Error (DescriptorHeap × DescriptorRange) :=
  if heap.allocated + count ≤ heap.capacity then
    .ok ({ heap with allocated := heap.allocated + count }, ⟨heap.allocated, count⟩)
  else
    .error (.heapExhausted count heap.allocated heap.capacity)

def write (heap : DescriptorHeap) (index : Nat) (buffer : Buffer) :
    Except Error DescriptorHeap :=
  if heap.capacity ≤ index then
    .error (.descriptorOutOfRange index heap.capacity)
  else if (heap.get? index).isSome then
    .error (.descriptorAlreadyWritten index)
  else
    .ok { heap with written := (index, buffer) :: heap.written }

/-- Write buffers to places in a row, as far as the first place that refuses. -/
def writeFrom (heap : DescriptorHeap) (index : Nat) :
    List Buffer → DescriptorHeap × Except Error Unit
  | [] => (heap, .ok ())
  | buffer :: rest =>
      match heap.write index buffer with
      | .ok next => next.writeFrom (index + 1) rest
      | .error error => (heap, .error error)

/-- Hand out places for buffers and write them there. -/
def publish (heap : DescriptorHeap) (buffers : List Buffer) :
    DescriptorHeap × Except Error DescriptorRange :=
  match heap.allocate buffers.length with
  | .error error => (heap, .error error)
  | .ok (grown, range) =>
      -- The range stays handed out, even if one of its places refuses its buffer.
      let (written, outcome) := grown.writeFrom range.start buffers
      (written, outcome.map fun _ => range)

/-- The buffer that a place must have. -/
def resolveAt (heap : DescriptorHeap) (index : Nat) : Except Error Buffer :=
  if heap.capacity ≤ index then
    .error (.descriptorOutOfRange index heap.capacity)
  else
    match heap.get? index with
    | some buffer => .ok buffer
    | none => .error (.descriptorUnwritten index)

/-- The buffers of places in a row, or the error of the first place that has none. -/
def resolveFrom (heap : DescriptorHeap) (index : Nat) : Nat → Except Error (List Buffer)
  | 0 => .ok []
  | count + 1 =>
      match heap.resolveAt index with
      | .error error => .error error
      | .ok buffer =>
          match heap.resolveFrom (index + 1) count with
          | .error error => .error error
          | .ok rest => .ok (buffer :: rest)

def resolve (heap : DescriptorHeap) (range : DescriptorRange) : Except Error (List Buffer) :=
  match range.end? with
  -- An end that is no word lies outside of every heap.
  | none => .error (.descriptorOutOfRange (wordBound - 1) heap.capacity)
  | some _ => heap.resolveFrom range.start range.count

def structural (heap : DescriptorHeap) : String :=
  Text.record "DescriptorHeap"
    [("capacity", toString heap.capacity), ("allocated", toString heap.allocated)]

@[simp]
theorem get?_new (capacity index : Nat) : (new capacity).get? index = none := rfl

/-- A successful write fills its place and no other. -/
theorem get?_of_write {heap next : DescriptorHeap} {index : Nat} {buffer : Buffer}
    (written : heap.write index buffer = .ok next) (queried : Nat) :
    next.get? queried = if queried = index then some buffer else heap.get? queried := by
  unfold write at written
  split at written
  · cases written
  · split at written
    · cases written
    · cases written
      by_cases equal : queried = index
      · simp [get?, equal]
      · have different : (queried == index) = false := by simpa using equal
        simp [get?, List.lookup_cons, equal, different]

/-- A write is refused exactly beyond the capacity and where something stands already. -/
theorem write_isOk_iff (heap : DescriptorHeap) (index : Nat) (buffer : Buffer) :
    (∃ next, heap.write index buffer = .ok next) ↔
      index < heap.capacity ∧ heap.get? index = none := by
  unfold write
  by_cases beyond : heap.capacity ≤ index
  · simp [beyond, Nat.not_lt.mpr beyond]
  · cases present : heap.get? index with
    | none => simp [beyond, Nat.lt_of_not_le beyond]
    | some old => simp [beyond]

end DescriptorHeap

end CommandQueue
