import CommandQueue.FenceValue
import CommandQueue.Identity

/-!
# Errors

Every way in which an operation of this library can be refused is a constructor
of `Error` that holds the facts of the case.  `Error.message` is the sentence for
people, `Error.structural` the shape for diagnostics, and `Error.kind` sorts the
errors into four families.
-/

namespace CommandQueue

/-- Why an operation was refused. -/
inductive Error where
  /-- The list has passed the state in which it admits the operation. -/
  | invalidState (list : ListId) (category : Category) (state : ListState) (operation : String)
  | noPipelineBound (list : ListId) (category : Category)
  /-- Lists of this category never admit the operation. -/
  | unsupportedOperation (list : ListId) (category : Category) (operation : String)
  | slotOutOfRange (slot max : Nat)
  | copyOutOfBounds (sourceOffset sourceLength targetOffset targetLength size : Nat)
  | foreignCommandList (list : ListId)
  /-- A pool can neither reuse nor create an allocator. -/
  | resourceExhausted (category : Category) (live : Nat) (reason : String)
  | heapExhausted (requested used capacity : Nat)
  /-- The fence value has not been handed out. -/
  | fenceNotIssued (value lastIssued : FenceValue)
  /-- The queue still refers to the commands of the allocator. -/
  | allocatorInFlight (allocator : AllocatorId) (stamp : FenceValue)
  | descriptorOutOfRange (index capacity : Nat)
  /-- A descriptor is written only once. -/
  | descriptorAlreadyWritten (index : Nat)
  | descriptorUnwritten (index : Nat)
  | unknownKernel (kernel : KernelId)
  | duplicateKernel (kernel : KernelId)
  | queueClosed (label : String)
  /-- The queue failed for a reason of its own. -/
  | backend (reason : String)
  deriving DecidableEq, Repr

/-- The families of errors. -/
inductive ErrorKind where
  | invalidState
  | resourceExhaustion
  | syncMisuse
  | backend
  deriving DecidableEq, Repr

def ErrorKind.name : ErrorKind → String
  | .invalidState => "InvalidState"
  | .resourceExhaustion => "ResourceExhaustion"
  | .syncMisuse => "SyncMisuse"
  | .backend => "Backend"

namespace Error

def kind : Error → ErrorKind
  | .resourceExhausted .. | .heapExhausted .. => .resourceExhaustion
  | .fenceNotIssued .. | .allocatorInFlight .. => .syncMisuse
  | .queueClosed _ | .backend _ => .backend
  | _ => .invalidState

def name : Error → String
  | .invalidState .. => "InvalidState"
  | .noPipelineBound .. => "NoPipelineBound"
  | .unsupportedOperation .. => "UnsupportedOperation"
  | .slotOutOfRange .. => "SlotOutOfRange"
  | .copyOutOfBounds .. => "CopyOutOfBounds"
  | .foreignCommandList _ => "ForeignCommandList"
  | .resourceExhausted .. => "ResourceExhausted"
  | .heapExhausted .. => "HeapExhausted"
  | .fenceNotIssued .. => "FenceNotIssued"
  | .allocatorInFlight .. => "AllocatorInFlight"
  | .descriptorOutOfRange .. => "DescriptorOutOfRange"
  | .descriptorAlreadyWritten _ => "DescriptorAlreadyWritten"
  | .descriptorUnwritten _ => "DescriptorUnwritten"
  | .unknownKernel _ => "UnknownKernel"
  | .duplicateKernel _ => "DuplicateKernel"
  | .queueClosed _ => "QueueClosed"
  | .backend _ => "Backend"

def message : Error → String
  | .invalidState list category state operation =>
      s!"cannot {operation} on {category.text} command list {list.text}: list is {state.text}"
  | .noPipelineBound list category =>
      s!"cannot dispatch on {category.text} command list {list.text}: no pipeline bound"
  | .unsupportedOperation list category operation =>
      s!"{category.text} command list {list.text} does not support {operation}"
  | .slotOutOfRange slot max =>
      s!"resource table slot {slot} out of range (max {max})"
  | .copyOutOfBounds sourceOffset sourceLength targetOffset targetLength size =>
      s!"copy of {size} bytes out of bounds: src {sourceOffset}/{sourceLength}, " ++
        s!"dst {targetOffset}/{targetLength}"
  | .foreignCommandList list =>
      s!"command list {list.text} belongs to another device"
  | .resourceExhausted category live reason =>
      s!"{category.text} allocator pool exhausted ({live} live): {reason}"
  | .heapExhausted requested used capacity =>
      s!"descriptor heap exhausted: requested {requested}, {used} of {capacity} in use"
  | .fenceNotIssued value lastIssued =>
      s!"fence value {value} was never issued (last issued {lastIssued})"
  | .allocatorInFlight allocator stamp =>
      s!"allocator {allocator.text} is still referenced by queued work (stamp {stamp})"
  | .descriptorOutOfRange index capacity =>
      s!"descriptor index {index} out of range (capacity {capacity})"
  | .descriptorAlreadyWritten index =>
      s!"descriptor {index} was already written"
  | .descriptorUnwritten index =>
      s!"descriptor {index} was bound before it was written"
  | .unknownKernel kernel =>
      s!"no pipeline registered for kernel '{kernel}'"
  | .duplicateKernel kernel =>
      s!"kernel '{kernel}' already has a pipeline bundle"
  | .queueClosed label =>
      s!"queue '{label}' is closed"
  | .backend reason =>
      s!"backend error: {reason}"

/-- The shape of an error: its constructor name with its facts. -/
def structural (error : Error) : String :=
  let shape := Text.record error.name
  match error with
  | .invalidState list category state operation =>
      shape [("list", list.structural), ("category", category.structural),
        ("state", state.structural), ("operation", Text.quoted operation)]
  | .noPipelineBound list category =>
      shape [("list", list.structural), ("category", category.structural)]
  | .unsupportedOperation list category operation =>
      shape [("list", list.structural), ("category", category.structural),
        ("operation", Text.quoted operation)]
  | .slotOutOfRange slot max =>
      shape [("slot", toString slot), ("max", toString max)]
  | .copyOutOfBounds sourceOffset sourceLength targetOffset targetLength size =>
      shape [("src_offset", toString sourceOffset), ("src_len", toString sourceLength),
        ("dst_offset", toString targetOffset), ("dst_len", toString targetLength),
        ("size", toString size)]
  | .foreignCommandList list =>
      shape [("list", list.structural)]
  | .resourceExhausted category live reason =>
      shape [("category", category.structural), ("live", toString live),
        ("reason", Text.quoted reason)]
  | .heapExhausted requested used capacity =>
      shape [("requested", toString requested), ("used", toString used),
        ("capacity", toString capacity)]
  | .fenceNotIssued value lastIssued =>
      shape [("value", FenceValue.structural value),
        ("last_issued", FenceValue.structural lastIssued)]
  | .allocatorInFlight allocator stamp =>
      shape [("allocator", allocator.structural), ("stamp", FenceValue.structural stamp)]
  | .descriptorOutOfRange index capacity =>
      shape [("index", toString index), ("capacity", toString capacity)]
  | .descriptorAlreadyWritten index | .descriptorUnwritten index =>
      shape [("index", toString index)]
  | .unknownKernel kernel | .duplicateKernel kernel =>
      Text.wrapped error.name (KernelId.structural kernel)
  | .queueClosed label =>
      Text.wrapped error.name (Text.quoted label)
  | .backend reason =>
      Text.wrapped error.name (Text.quoted reason)

end Error

end CommandQueue
