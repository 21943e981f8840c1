import CommandQueue.Text.Structural

/-!
# Categories and identities

Work is recorded either for computing or for copying.  Lists and allocators are
told apart by small identities whose text forms appear in messages: a list is
`#3`, an allocator `compute#0`.
-/

namespace CommandQueue

/-- The kind of work a command list records. -/
inductive Category where
  | compute
  | copy
  deriving DecidableEq, Repr

namespace Category

/-- Every category, in the order in which they are reported. -/
def all : List Category := [.compute, .copy]

def text : Category → String
  | .compute => "compute"
  | .copy => "copy"

def structural : Category → String
  | .compute => "Compute"
  | .copy => "Copy"

/-- Only computing reads resources through descriptors. -/
def usesDescriptors : Category → Bool
  | .compute => true
  | .copy => false

def ofText? (word : String) : Option Category :=
  all.find? fun category => category.text == word

theorem mem_all (category : Category) : category ∈ all := by
  cases category <;> simp [all]

end Category

/-- The identity of an allocator: its category and its place in the order of creation. -/
structure AllocatorId where
  category : Category
  serial : Nat
  deriving DecidableEq, Repr

namespace AllocatorId

def text (id : AllocatorId) : String :=
  id.category.text ++ "#" ++ toString id.serial

def structural (id : AllocatorId) : String :=
  Text.record "AllocatorId"
    [("category", id.category.structural), ("serial", toString id.serial)]

end AllocatorId

structure ListId where
  number : Nat
  deriving DecidableEq, Repr

namespace ListId

def text (id : ListId) : String :=
  "#" ++ toString id.number

def structural (id : ListId) : String :=
  Text.wrapped "ListId" (toString id.number)

end ListId

/-- How far a command list has come. -/
inductive ListState where
  | opened
  /-- The list takes no more commands and waits for the queue. -/
  | closed
  | submitted
  deriving DecidableEq, Repr

namespace ListState

def all : List ListState := [.opened, .closed, .submitted]

def text : ListState → String
  | .opened => "open"
  | .closed => "closed"
  | .submitted => "submitted"

def structural : ListState → String
  | .opened => "Open"
  | .closed => "Closed"
  | .submitted => "Submitted"

def ofText? (word : String) : Option ListState :=
  all.find? fun state => state.text == word

end ListState

abbrev KernelId := String

namespace KernelId

def structural (kernel : KernelId) : String :=
  Text.wrapped "KernelId" (Text.quoted kernel)

end KernelId

end CommandQueue
