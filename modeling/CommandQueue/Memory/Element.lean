import CommandQueue.Memory.Bytes

/-!
# Typed access to bytes

An `Element` says how values of a type lie in memory: their width and how one
of them is written and read.  A sequence of bytes then reads as the whole
elements it holds, bytes that fill no element being left out.  Integers lie
with their least significant byte first.
-/

namespace CommandQueue

namespace LittleEndian

/-- The `width` low bytes of a number, the least significant one first. -/
def encode : Nat → Nat → Bytes
  | 0, _ => []
  | width + 1, number => UInt8.ofNat number :: encode width (number / 256)

/-- The number that bytes stand for when the least significant one is first. -/
def decode : Bytes → Nat
  | [] => 0
  | byte :: rest => byte.toNat + 256 * decode rest

/-- The number of patterns that a number of bytes has. -/
def span : Nat → Nat
  | 0 => 1
  | width + 1 => 256 * span width

@[simp]
theorem length_encode (width number : Nat) : (encode width number).length = width := by
  induction width generalizing number with
  | zero => rfl
  | succ width inductionHypothesis => simp [encode, inductionHypothesis]

/-- Reading what was written keeps exactly the part of the number that fits. -/
theorem decode_encode (width number : Nat) :
    decode (encode width number) = number % span width := by
  induction width generalizing number with
  | zero => simp [encode, decode, span, Nat.mod_one]
  | succ width inductionHypothesis =>
      simp only [encode, decode, inductionHypothesis, UInt8.toNat_ofNat']
      change number % 256 + 256 * (number / 256 % span width) = number % (256 * span width)
      rw [Nat.mod_mul]

end LittleEndian

/-- How values of a type lie in memory. -/
structure Element (α : Type) where
  width : Nat
  encode : α → Bytes
  decode : Bytes → α

namespace Element

/-- An element is lawful when its values fill their width and read back as themselves. -/
structure Lawful {α : Type} (element : Element α) : Prop where
  length_encode : ∀ value, (element.encode value).length = element.width
  decode_encode : ∀ value, element.decode (element.encode value) = value

def encodeAll {α : Type} (element : Element α) (values : List α) : Bytes :=
  values.flatMap element.encode

def decodeAt {α : Type} (element : Element α) (bytes : Bytes) (index : Nat) : α :=
  element.decode (bytes.window (index * element.width) element.width)

/-- The whole elements that the bytes hold; of an element without width there is none.  The bytes
are laid out once, so that each element is found at its place. -/
def decodeAll {α : Type} (element : Element α) (bytes : Bytes) : List α :=
  let laidOut := bytes.toArray
  (List.range (bytes.length / element.width)).map fun index =>
    element.decode
      (laidOut.extract (index * element.width) (index * element.width + element.width)).toList

def decodeAt? {α : Type} (element : Element α) (bytes : Bytes) (index : Nat) : Option α :=
  if index < bytes.length / element.width then some (element.decodeAt bytes index) else none

theorem decodeAll_eq_map {α : Type} (element : Element α) (bytes : Bytes) :
    element.decodeAll bytes =
      (List.range (bytes.length / element.width)).map (element.decodeAt bytes) := by
  simp [decodeAll, decodeAt, Bytes.window, List.extract_eq_take_drop]

theorem length_decodeAll {α : Type} (element : Element α) (bytes : Bytes) :
    (element.decodeAll bytes).length = bytes.length / element.width := by
  simp [decodeAll]

theorem getElem?_decodeAll {α : Type} (element : Element α) (bytes : Bytes) (index : Nat) :
    (element.decodeAll bytes)[index]? = element.decodeAt? bytes index := by
  rw [decodeAll_eq_map]
  unfold decodeAt?
  by_cases within : index < bytes.length / element.width
  · simp [within]
  · simp [within]

theorem length_encodeAll_of_width {α : Type} {element : Element α} {values : List α}
    (filled : ∀ value ∈ values, (element.encode value).length = element.width) :
    (element.encodeAll values).length = element.width * values.length := by
  induction values with
  | nil => rfl
  | cons value rest inductionHypothesis =>
      obtain ⟨first, others⟩ := List.forall_mem_cons.mp filled
      simp only [encodeAll, List.flatMap_cons, List.length_append, List.length_cons] at *
      rw [first, inductionHypothesis others, Nat.mul_succ, Nat.add_comm]

theorem length_encodeAll {α : Type} {element : Element α}
    (lawful : element.Lawful) (values : List α) :
    (element.encodeAll values).length = element.width * values.length :=
  length_encodeAll_of_width fun value _ => lawful.length_encode value

/-- Several values of one type as a single value. -/
def repeated {α : Type} (element : Element α) (count : Nat) : Element (List α) where
  width := element.width * count
  encode := element.encodeAll
  decode := element.decodeAll

def word : Element UInt32 where
  width := 4
  encode value := LittleEndian.encode 4 value.toNat
  decode bytes := UInt32.ofNat (LittleEndian.decode bytes)

theorem word_lawful : word.Lawful where
  length_encode value := LittleEndian.length_encode 4 value.toNat
  decode_encode value := by
    have bound : value.toNat < LittleEndian.span 4 := value.toNat_lt
    simp [word, LittleEndian.decode_encode, Nat.mod_eq_of_lt bound]

end Element

/-- A type of integers in memory: its width in bytes and whether it has negative values. -/
structure Scalar where
  width : Nat
  signed : Bool
  deriving DecidableEq, Repr

namespace Scalar

def named : List (String × Scalar) :=
  [("u8", ⟨1, false⟩), ("u16", ⟨2, false⟩), ("u32", ⟨4, false⟩), ("u64", ⟨8, false⟩),
    ("i32", ⟨4, true⟩), ("i64", ⟨8, true⟩)]

def span (scalar : Scalar) : Nat := LittleEndian.span scalar.width

def least (scalar : Scalar) : Int :=
  if scalar.signed then -(scalar.span / 2 : Nat) else 0

def admits (scalar : Scalar) (value : Int) : Bool :=
  scalar.least ≤ value && value < scalar.least + scalar.span

/-- A number as the type holds it: a negative one is its distance below the span. -/
def element (scalar : Scalar) : Element Int where
  width := scalar.width
  encode value := LittleEndian.encode scalar.width (value % scalar.span).toNat
  decode bytes :=
    let pattern : Int := LittleEndian.decode bytes
    if pattern < scalar.least + scalar.span then pattern else pattern - scalar.span

example : (Scalar.mk 4 true).element.encode (-2) = [254, 255, 255, 255] := by decide
example : (Scalar.mk 4 true).element.decode [254, 255, 255, 255] = -2 := by decide
example : (Scalar.mk 2 false).element.decode [1, 2] = 513 := by decide

end Scalar

end CommandQueue
