import CommandQueue.Allocator
import CommandQueue.Fence

/-!
# Command lists

A command list records commands while it is open.  Each recording call is a
`Call`; the list checks its own state first, then whether lists of its category
admit the call, and then the arguments.  A call that passes adds one command and
changes the binding it names; a call that fails changes nothing.
-/

namespace CommandQueue

/-- A recording call. -/
inductive Call where
  | bindPipeline (bundle : Bundle)
  | bindTable (slot : Nat) (range : DescriptorRange)
  | copyRegion (region : CopyRegion)
  | dispatch (grid : Extent)

namespace Call

/-- The call as a word in a message. -/
def operation : Call → String
  | .bindPipeline _ => "bind_pipeline"
  | .bindTable .. => "bind_resource_table"
  | .copyRegion _ => "copy_region"
  | .dispatch _ => "dispatch"

def command : Call → Command
  | .bindPipeline bundle => .setPipeline bundle
  | .bindTable slot range => .setTable slot range
  | .copyRegion region => .copyRegion region
  | .dispatch grid => .dispatch grid

/-- Lists for copying admit copies only. -/
def needsCompute : Call → Bool
  | .copyRegion _ => false
  | _ => true

end Call

/-- A list of commands under way. -/
structure CommandList where
  id : ListId
  /-- What tells the list's device apart from others. -/
  device : Nat
  category : Category
  state : ListState
  allocator : Allocator
  /-- The stamp that the allocator had when the list was opened. -/
  priorStamp : FenceValue
  /-- The value that the queue completes after the list. -/
  submitted : Option FenceValue
  /-- The capacity of the descriptor heap that the list can bind ranges of, if it can. -/
  heapCapacity : Option Nat
  bindings : Bindings

namespace CommandList

def opened (id : ListId) (device : Nat) (category : Category) (allocator : Allocator)
    (heapCapacity : Option Nat) : CommandList where
  id := id
  device := device
  category := category
  state := .opened
  allocator := allocator
  priorStamp := allocator.stamp
  submitted := none
  heapCapacity := heapCapacity
  bindings := Bindings.none

def recorded (list : CommandList) : List Command := list.allocator.recorded

/-- The error of an operation that the list's state does not admit. -/
def invalidState (list : CommandList) (operation : String) : Error :=
  .invalidState list.id list.category list.state operation

def ensureOpen (list : CommandList) (operation : String) : Except Error Unit :=
  if list.state = .opened then .ok () else .error (list.invalidState operation)

/-- Refuse a call that lists of this category never admit. -/
def ensureSupported (list : CommandList) (call : Call) : Except Error Unit :=
  if call.needsCompute = true ∧ list.category ≠ .compute then
    .error (.unsupportedOperation list.id list.category call.operation)
  else
    .ok ()

def ensureInside (capacity : Nat) (range : DescriptorRange) : Except Error Unit :=
  if range.end?.any (· ≤ capacity) then
    .ok ()
  else
    .error (.descriptorOutOfRange range.saturatedEnd capacity)

/-- Refuse arguments with which the recorded command could not run. -/
def ensureArguments (list : CommandList) : Call → Except Error Unit
  | .bindPipeline _ => .ok ()
  | .bindTable slot range =>
      if tableSlots ≤ slot then
        .error (.slotOutOfRange slot tableSlots)
      else
        match list.heapCapacity with
        | some capacity => ensureInside capacity range
        | none => .ok ()
  | .copyRegion region =>
      if region.InBounds then .ok () else .error region.outOfBounds
  | .dispatch _ =>
      if list.bindings.pipeline.isSome then .ok ()
      else .error (.noPipelineBound list.id list.category)

def append (list : CommandList) (command : Command) : CommandList :=
  { list with
    allocator := list.allocator.record command
    bindings := list.bindings.apply command }

def record (list : CommandList) (call : Call) : Except Error CommandList := do
  -- The state counts before the category, and the category before the arguments.
  list.ensureOpen call.operation
  list.ensureSupported call
  list.ensureArguments call
  return list.append call.command

def close (list : CommandList) : Except Error CommandList := do
  list.ensureOpen "close"
  return { list with state := .closed }

/-- Refuse a list that the queue has already accepted. -/
def ensureSubmittable (list : CommandList) : Except Error Unit :=
  match list.state with
  | .opened | .closed => .ok ()
  | .submitted => .error (list.invalidState "submit")

/-- Close the list and freeze its recording for the queue. -/
def freeze (list : CommandList) : CommandList :=
  { list with state := .closed, allocator := list.allocator.freeze list.id }

def stream (list : CommandList) : Stream :=
  ⟨list.allocator.frozenBy.getD list.id, list.category, list.recorded⟩

def markSubmitted (list : CommandList) (value : FenceValue) : CommandList :=
  { list with state := .submitted, submitted := some value }

/-- The stamp with which the list's allocator goes back to its pool. -/
def retirementStamp (list : CommandList) : FenceValue :=
  list.submitted.getD list.priorStamp

def structural (list : CommandList) : String :=
  Text.record "CommandList"
    [("id", list.id.structural), ("category", list.category.structural),
      ("state", list.state.structural), ("allocator", list.allocator.id.structural),
      ("submitted", Text.optional (list.submitted.map FenceValue.structural))]

/-- A call is accepted when it passes all three checks. -/
theorem record_eq_ok_iff {list next : CommandList} {call : Call} :
    list.record call = .ok next ↔
      list.ensureOpen call.operation = .ok () ∧ list.ensureSupported call = .ok () ∧
        list.ensureArguments call = .ok () ∧ next = list.append call.command := by
  unfold record
  cases list.ensureOpen call.operation with
  | error error => simp [bind, Except.bind]
  | ok _ =>
      cases list.ensureSupported call with
      | error error => simp [bind, Except.bind]
      | ok _ =>
          cases list.ensureArguments call with
          | error error => simp [bind, Except.bind]
          | ok _ => simp [bind, Except.bind, pure, Except.pure, eq_comm]

/-- An accepted call adds exactly the command it stands for. -/
theorem eq_append_of_record {list next : CommandList} {call : Call}
    (accepted : list.record call = .ok next) :
    next = list.append call.command :=
  (record_eq_ok_iff.mp accepted).2.2.2

@[simp]
theorem recorded_append (list : CommandList) (command : Command) :
    (list.append command).recorded = list.recorded ++ [command] := rfl

@[simp]
theorem bindings_append (list : CommandList) (command : Command) :
    (list.append command).bindings = list.bindings.apply command := rfl

@[simp]
theorem state_append (list : CommandList) (command : Command) :
    (list.append command).state = list.state := rfl

@[simp]
theorem recorded_freeze (list : CommandList) : list.freeze.recorded = list.recorded := rfl

end CommandList

end CommandQueue
