import CommandQueue.Script.Session

/-!
# Steps on buffers

Buffers are made from bytes or typed values, shared under further names, read
and written.  Buffers of the GPU queue are made from bytes or to be read back,
and only the latter can be read.
-/

namespace CommandQueue.Script.BufferSteps

open Scripted

def byteValue? (value : Value) : Option UInt8 :=
  (value.natural? 256).map UInt8.ofNat

def scalarValue? (scalar : Scalar) (value : Value) : Option Int :=
  value.integer?.bind fun number => if scalar.admits number then some number else none

def scalarField (fields : Fields) : Except Refusal Scalar :=
  fields.require "as" fun value => value.text?.bind fun name => Scalar.named.lookup name

def typedBytes (fields : Fields) : Except Refusal Bytes := do
  let scalar ← scalarField fields
  let values ← fields.require "values" (Value.listOf? (scalarValue? scalar))
  return scalar.element.encodeAll values

/-- What a new buffer holds. -/
inductive Contents where
  | zeros (length : Nat)
  | listed (bytes : Bytes)

def zeros (fields : Fields) (field : String) : Except Refusal Contents :=
  Contents.zeros <$> fields.require field Value.long?

def listedBytes (fields : Fields) : Except Refusal Bytes :=
  fields.require "bytes" (Value.listOf? byteValue?)

/-- The number of bytes that the GPU moves at once. -/
def gpuUnit : Nat := 4

/-- The bytes that fill a storage of the GPU up to a whole number of units. -/
def padding (length : Nat) : Bytes :=
  List.replicate ((gpuUnit - length % gpuUnit) % gpuUnit) 0

/-- The contents of a new buffer, and whether it is made to be read back. -/
def contents (fields : Fields) : Scripted (Contents × Bool) := do
  if (← get).kind = .gpu then
    let _ ← device fields
    if (fields.get "readback").present then
      return (← zeros fields "readback", true)
    else
      let bytes ← listedBytes fields
      return (.listed (bytes ++ padding bytes.length), false)
  else if (fields.get "zeroed").present then
    return (← zeros fields "zeroed", false)
  else if (fields.get "bytes").present then
    return (.listed (← listedBytes fields), false)
  else
    return (.listed (← typedBytes fields), false)

def Contents.allocate? (memory : Memory) : Contents → Option (Memory × Buffer)
  | .zeros length => memory.allocateZeros? length
  | .listed bytes => some (memory.allocate bytes)

/-- Make a buffer.  One that would be longer than any storage breaks a contract. -/
def create (fields : Fields) : Scripted Answer := do
  let given ← freshName fields "buf" Session.buffers
  let (contents, readback) ← contents fields
  match contents.allocate? (← get).scene.memory with
  | none => return .panicked
  | some (memory, buffer) =>
      putMemory memory
      putBuffer given ⟨buffer, readback⟩
      return .success (.natural buffer.size)

/-- Give a buffer a further name. -/
def share (fields : Fields) : Scripted Answer := do
  let given ← freshName fields "buf" Session.buffers
  putBuffer given (← buffer fields "of")
  return .nothing

def same (fields : Fields) : Scripted Answer := do
  let left ← buffer fields "a"
  let right ← buffer fields "b"
  return .success (.flag (left.buffer.sameStorage right.buffer))

def numbers (values : List Int) : Value := .list (values.map Value.integer)

/-- What a type name makes of the bytes of a buffer. -/
def typedValue? (memory : Memory) (buffer : Buffer) (type : String) : Option Value :=
  let grouped (scalar : Scalar) (count : Nat) : Value :=
    .list ((memory.read (scalar.element.repeated count) buffer).map numbers)
  match type with
  | "u8x3" => some (grouped ⟨1, false⟩ 3)
  | "u16x5" => some (grouped ⟨2, false⟩ 5)
  | "u32x0" => some (grouped ⟨4, false⟩ 0)
  | "unit" => some (.natural (memory.read (Element.repeated Element.word 0) buffer).length)
  | _ =>
      (Scalar.named.lookup type).map fun scalar => numbers (memory.read scalar.element buffer)

/-- Read a buffer.  A buffer of the GPU is read through a device, in whole units and at least one
of them. -/
def read (fields : Fields) : Scripted Answer := do
  let named ← buffer fields "buf"
  let session ← get
  let memory := session.scene.memory
  let bytes := numbers ((memory.bytes named.buffer).map fun byte => (byte.toNat : Int))
  if session.kind = .gpu then
    if !named.readback then refuse .notReadable
    let _ ← device fields
    if named.buffer.size = 0 ∨ named.buffer.size % gpuUnit ≠ 0 then return .panicked
    return .success bytes
  else if (fields.get "as").present then
    let shown ← fields.require "as" fun value =>
      value.text?.bind (typedValue? memory named.buffer)
    return .success shown
  else
    return .success bytes

def write (fields : Fields) : Scripted Answer := do
  let named ← buffer fields "buf"
  let session ← get
  if session.kind = .gpu then refuse (.field "backend")
  let offset ← fields.require "offset" Value.long?
  let bytes ← typedBytes fields
  match session.scene.memory.write named.buffer offset bytes with
  | .error error => return .failed error
  | .ok memory =>
      putMemory memory
      return .nothing

def find? (name : String) : Option (Fields → Scripted Answer) :=
  match name with
  | "buffer" => some create
  | "clone_buffer" => some share
  | "same" => some same
  | "read" => some read
  | "write" => some write
  | _ => none

end CommandQueue.Script.BufferSteps
