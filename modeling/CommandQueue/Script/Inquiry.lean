import CommandQueue.Device
import CommandQueue.Queue.Soft
import CommandQueue.Script.Value

/-!
# Inquiries

An inquiry asks how a value of the library is shown or computed and needs no
device.
-/

namespace CommandQueue.Script.Inquiry

/-- A text together with a second form of it. -/
def pair (first second : String) : Value := .list [.text first, .text second]

/-- A descriptor range: its end, its indices and its texts. -/
def range (fields : Fields) : Except Refusal Value := do
  let start ← fields.require "start" Value.word?
  let count ← fields.require "count" Value.word?
  let asked : DescriptorRange := ⟨start, count⟩
  return .record
    [("end", Value.ofOption (asked.end?.map Value.natural)),
      ("indices", .list ([asked.start, asked.saturatedEnd,
        asked.saturatedEnd - asked.start].map Value.natural)),
      ("display", .text asked.text), ("debug", .text asked.structural)]

/-- Two fence values: the texts of the first and how it stands to the second. -/
def fenceValue (fields : Fields) : Except Refusal Value := do
  let first ← fields.require "a" Value.long?
  let second ← fields.require "b" Value.long?
  let shown := toString first
  return .record
    [("display", .text shown), ("debug", .text (FenceValue.structural first)),
      ("padded", .text (shown ++ "|" ++ shown ++ "|")),
      ("cmp", .integer (FenceValue.compare first second)),
      ("max", .natural (max first second)), ("zero", .flag (first == 0)),
      ("default", .natural Fence.new.issued)]

def softLayout (fields : Fields) : Except Refusal Value := do
  let requested ← fields.require "slots" Value.word?
  let slots := layoutSlots requested
  return .record
    [("slots", .natural slots),
      ("debug", .text (Text.record "SoftLayout" [("table_slots", toString slots)])),
      ("max", .natural tableSlots)]

def ids (fields : Fields) : Except Refusal Value := do
  let category ← fields.require "category" Value.category?
  let serial ← fields.require "serial" Value.word?
  let number ← fields.require "list" Value.long?
  let state ← fields.require "state" Value.state?
  let allocator : AllocatorId := ⟨category, serial⟩
  let list : ListId := ⟨number⟩
  return .record
    [("category", .list [.text category.text, .text category.structural,
        .flag category.usesDescriptors]),
      ("all", .list (Category.all.map fun each => .text each.text)),
      ("allocator", pair allocator.text allocator.structural),
      ("list", pair list.text list.structural),
      ("state", pair state.text state.structural)]

/-- Kernel names: their texts, where each occurs first, and their order. -/
def kernelIds (fields : Fields) : Except Refusal Value := do
  let names ← fields.require "names" (Value.listOf? Value.text?)
  let shown (name : String) : Value := .text s!"'{name}' {name.utf8ByteSize}"
  return .record
    [("shown", .list (names.map shown)),
      ("first_equal", .list (names.map fun name => .natural (names.idxOf name))),
      ("sorted", .list ((names.mergeSort fun left right => left ≤ right).map .text))]

/-- The configuration of a log that is not told how to write. -/
def loggingDefaults (level : Level) (isTest : Bool) : Value :=
  .record
    [("env_filter", .null), ("default_level", .text level.name),
      ("write_style", .text "Auto"), ("is_test", .flag isTest)]

def softDefaults : String :=
  Text.record "SoftInit"
    [("label", Text.quoted SoftQueue.defaultLabel), ("latency", Text.optional none)]

/-- The configuration that stands in where none is given. -/
def defaults (fields : Fields) : Except Refusal Value := do
  match ← fields.require "of" Value.text? with
  | "device" => return .text DeviceConfig.standard.structural
  | "soft" => return .text softDefaults
  | "wgpu" =>
      return .list
        [.text "ember wgpu queue", .text "HighPerformance", .flag false, .flag true]
  | "logging" => return loggingDefaults .info false
  | "logging_tests" => return loggingDefaults .debug true
  | _ => throw (.field "of")

def describedError (fields : Fields) (variant : String) : Except Refusal Error := do
  let list : Except Refusal ListId := ListId.mk <$> fields.require "list" Value.long?
  let category := fields.require "category" Value.category?
  let text (name : String) := fields.require name Value.text?
  let word (name : String) := fields.require name Value.word?
  let long (name : String) := fields.require name Value.long?
  match variant with
  | "InvalidState" =>
      return .invalidState (← list) (← category) (← fields.require "state" Value.state?)
        (← text "operation")
  | "NoPipelineBound" => return .noPipelineBound (← list) (← category)
  | "UnsupportedOperation" =>
      return .unsupportedOperation (← list) (← category) (← text "operation")
  | "SlotOutOfRange" => return .slotOutOfRange (← word "slot") (← word "max")
  | "CopyOutOfBounds" =>
      return .copyOutOfBounds (← long "src_offset") (← long "src_len") (← long "dst_offset")
        (← long "dst_len") (← long "size")
  | "ForeignCommandList" => return .foreignCommandList (← list)
  | "ResourceExhausted" =>
      return .resourceExhausted (← category) (← long "live") (← text "reason")
  | "HeapExhausted" =>
      return .heapExhausted (← word "requested") (← word "used") (← word "capacity")
  | "FenceNotIssued" => return .fenceNotIssued (← long "value") (← long "last_issued")
  | "AllocatorInFlight" =>
      return .allocatorInFlight ⟨← category, ← word "serial"⟩ (← long "stamp")
  | "DescriptorOutOfRange" =>
      return .descriptorOutOfRange (← word "index") (← word "capacity")
  | "DescriptorAlreadyWritten" => return .descriptorAlreadyWritten (← word "index")
  | "DescriptorUnwritten" => return .descriptorUnwritten (← word "index")
  | "UnknownKernel" => return .unknownKernel (← text "text")
  | "DuplicateKernel" => return .duplicateKernel (← text "text")
  | "QueueClosed" => return .queueClosed (← text "text")
  | "Backend" => return .backend (← text "text")
  | _ => throw (.field "variant")

def error (fields : Fields) : Except Refusal Value := do
  let variant ← fields.require "variant" Value.text?
  let described ← describedError fields variant
  return .record
    [("variant", .text described.name), ("kind", .text described.kind.name),
      ("invalid_state", .flag (described.kind == .invalidState)),
      ("display", .text described.message), ("debug", .text described.structural)]

def find? (name : String) : Option (Fields → Except Refusal Value) :=
  match name with
  | "range" => some range
  | "fence_value" => some fenceValue
  | "soft_layout" => some softLayout
  | "ids" => some ids
  | "kernel_ids" => some kernelIds
  | "defaults" => some defaults
  | "error" => some error
  | _ => none

end CommandQueue.Script.Inquiry
