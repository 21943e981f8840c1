import CommandQueue.Error
import CommandQueue.Memory.Element

/-!
# Memory and buffers

A `Memory` holds storages of bytes.  A `Buffer` is a handle to one storage: two
handles with the same storage show the same bytes, whatever was written through
which of them.  The length of a storage never changes, and a handle knows it.
A copy reads all its bytes before it writes any, so overlapping regions of one
storage need no care.
-/

namespace CommandQueue

/-- A handle to a storage of bytes. -/
structure Buffer where
  storage : Nat
  size : Nat
  deriving DecidableEq, Repr

namespace Buffer

/-- Two handles show the same bytes. -/
def sameStorage (left right : Buffer) : Bool :=
  left.storage == right.storage

end Buffer

/-- The storages of all buffers, in the order in which they were made. -/
structure Memory where
  storages : List Bytes
  deriving DecidableEq, Repr

namespace Memory

def empty : Memory := ⟨[]⟩

def bytesAt (memory : Memory) (storage : Nat) : Bytes :=
  memory.storages[storage]?.getD []

/-- The bytes that a buffer shows. -/
def bytes (memory : Memory) (buffer : Buffer) : Bytes :=
  memory.bytesAt buffer.storage

/-- The buffer is a handle to a storage of this memory. -/
def Holds (memory : Memory) (buffer : Buffer) : Prop :=
  memory.storages[buffer.storage]?.map List.length = some buffer.size

/-- A new storage with the given bytes and a handle to it. -/
def allocate (memory : Memory) (contents : Bytes) : Memory × Buffer :=
  (⟨memory.storages ++ [contents]⟩, ⟨memory.storages.length, contents.length⟩)

/-- The greatest number of bytes of a storage. -/
def longestStorage : Nat := 0x7fffffffffffffff

/-- A new storage of zeros and a handle to it, unless it would be longer than any storage. -/
def allocateZeros? (memory : Memory) (length : Nat) : Option (Memory × Buffer) :=
  if length ≤ longestStorage then some (memory.allocate (List.replicate length 0)) else none

/-- The memory with the bytes of one storage replaced from `offset` on. -/
def overwrite (memory : Memory) (storage offset : Nat) (data : Bytes) : Memory :=
  ⟨memory.storages.modify storage fun contents => contents.splice offset data⟩

/-- Writing past the end of a buffer is refused; any other write takes place in full. -/
def write (memory : Memory) (buffer : Buffer) (offset : Nat) (data : Bytes) :
    Except Error Memory :=
  if offset + data.length ≤ buffer.size then
    .ok (memory.overwrite buffer.storage offset data)
  else
    .error (.copyOutOfBounds 0 data.length offset buffer.size data.length)

/-- The whole elements that a buffer shows. -/
def read {α : Type} (memory : Memory) (element : Element α) (buffer : Buffer) : List α :=
  element.decodeAll (memory.bytes buffer)

def readAt? {α : Type} (memory : Memory) (element : Element α) (buffer : Buffer)
    (index : Nat) : Option α :=
  element.decodeAt? (memory.bytes buffer) index

def writeAll {α : Type} (memory : Memory) (element : Element α) (buffer : Buffer)
    (offset : Nat) (values : List α) : Except Error Memory :=
  memory.write buffer offset (element.encodeAll values)

theorem bytesAt_overwrite (memory : Memory) (storage offset : Nat) (data : Bytes)
    (queried : Nat) :
    (memory.overwrite storage offset data).bytesAt queried =
      if queried = storage ∧ storage < memory.storages.length then
        (memory.bytesAt storage).splice offset data
      else
        memory.bytesAt queried := by
  unfold overwrite bytesAt
  simp only [List.getElem?_modify]
  by_cases equal : queried = storage
  · subst queried
    by_cases present : storage < memory.storages.length <;> simp [present]
  · simp [equal, Ne.symm equal]

theorem length_storages_overwrite (memory : Memory) (storage offset : Nat) (data : Bytes) :
    (memory.overwrite storage offset data).storages.length = memory.storages.length := by
  simp [overwrite]

end Memory

/-- A run of bytes to be copied from one buffer to another. -/
structure CopyRegion where
  source : Buffer
  sourceOffset : Nat
  target : Buffer
  targetOffset : Nat
  size : Nat
  deriving DecidableEq, Repr

namespace CopyRegion

/-- Both runs of the copy lie inside their buffers. -/
def InBounds (region : CopyRegion) : Prop :=
  region.sourceOffset + region.size ≤ region.source.size ∧
    region.targetOffset + region.size ≤ region.target.size

instance (region : CopyRegion) : Decidable region.InBounds :=
  inferInstanceAs (Decidable (_ ∧ _))

def outOfBounds (region : CopyRegion) : Error :=
  .copyOutOfBounds region.sourceOffset region.source.size region.targetOffset
    region.target.size region.size

end CopyRegion

/-- The memory after a copy: the target holds what the source held before. -/
def Memory.copy (memory : Memory) (region : CopyRegion) : Memory :=
  memory.overwrite region.target.storage region.targetOffset
    ((memory.bytes region.source).window region.sourceOffset region.size)

end CommandQueue
