import CommandQueue.Proofs.Overlaps

/-!
# Typed access to buffers

Values are written as their bytes and read back from them.  A write takes place
in full or not at all, and every handle to the storage shows it; so after any
writes a byte is the one that the last successful write put there
(`Memory.getElem?_afterWrites`).  A read shows the whole elements, whatever
their width has to do with the size of the buffer or with the widths that were
written, and values that were written to the place of an element are read back
as they were (`Element.getElem?_decodeAll_splice`).
-/

namespace CommandQueue

/-! ## Images of values -/

namespace LittleEndian

/-- The bytes of a number are its digits to the base of 256. -/
theorem getElem?_encode {width place : Nat} (inside : place < width) (number : Nat) :
    (encode width number)[place]? = some (UInt8.ofNat (number / span place)) := by
  induction width generalizing number place with
  | zero => omega
  | succ width inductionHypothesis =>
      cases place with
      | zero => simp [encode, span]
      | succ place =>
          rw [encode, span, List.getElem?_cons_succ,
            inductionHypothesis (Nat.lt_of_succ_lt_succ inside), Nat.div_div_eq_div_mul]

end LittleEndian

namespace Bytes

variable {bytes data : Bytes} {offset start count : Nat}

theorem window_splice_of_inside (fits : offset + data.length ≤ bytes.length)
    (after : offset ≤ start) (before : start + count ≤ offset + data.length) :
    (splice bytes offset data).window start count = data.window (start - offset) count := by
  apply List.ext_getElem?
  intro index
  simp only [window, List.getElem?_take, List.getElem?_drop, getElem?_splice fits]
  by_cases inside : index < count
  · have within : offset ≤ start + index ∧ start + index < offset + data.length := by omega
    have place : start + index - offset = start - offset + index := by omega
    simp [inside, within, place]
  · simp [inside]

theorem window_splice_of_outside (fits : offset + data.length ≤ bytes.length)
    (apart : start + count ≤ offset ∨ offset + data.length ≤ start) :
    (splice bytes offset data).window start count = window bytes start count := by
  apply List.ext_getElem?
  intro index
  simp only [window, List.getElem?_take, List.getElem?_drop, getElem?_splice fits]
  by_cases inside : index < count
  · have outside : ¬ (offset ≤ start + index ∧ start + index < offset + data.length) := by omega
    simp [inside, outside]
  · simp [inside]

end Bytes

namespace Element

variable {α : Type} {element : Element α} {values : List α} {bytes : Bytes} {place : Nat}

/-- The bytes of the value fill the width of the element, and it is read back from them. -/
structure Represents (element : Element α) (value : α) : Prop where
  length_encode : (element.encode value).length = element.width
  decode_encode : element.decode (element.encode value) = value

theorem length_encodeAll_of_represents
    (represented : ∀ value ∈ values, element.Represents value) :
    (element.encodeAll values).length = element.width * values.length :=
  length_encodeAll_of_width fun value member => (represented value member).length_encode

/-- The bytes of several values hold those of each value in its place. -/
theorem window_encodeAll (represented : ∀ value ∈ values, element.Represents value)
    (inside : place < values.length) :
    (element.encodeAll values).window (place * element.width) element.width =
      element.encode values[place] := by
  induction values generalizing place with
  | nil => exact absurd inside (Nat.not_lt_zero place)
  | cons value rest inductionHypothesis =>
      obtain ⟨first, others⟩ := List.forall_mem_cons.mp represented
      rw [encodeAll, List.flatMap_cons, ← encodeAll]
      cases place with
      | zero => simp [Bytes.window, ← first.length_encode]
      | succ place =>
          have behind := inductionHypothesis others (Nat.lt_of_succ_lt_succ inside)
          rw [List.getElem_cons_succ, ← behind, Bytes.window, Bytes.window, Nat.succ_mul,
            Nat.add_comm, ← List.drop_drop, ← first.length_encode, List.drop_left]

theorem decodeAll_encodeAll (positive : 0 < element.width)
    (represented : ∀ value ∈ values, element.Represents value) :
    element.decodeAll (element.encodeAll values) = values := by
  have length := length_encodeAll_of_represents represented
  apply List.ext_getElem?
  intro place
  rw [getElem?_decodeAll, decodeAt?, length, Nat.mul_div_cancel_left _ positive]
  by_cases inside : place < values.length
  · have whole := represented values[place] (List.getElem_mem inside)
    rw [if_pos inside, decodeAt, window_encodeAll represented inside, whole.decode_encode,
      List.getElem?_eq_getElem inside]
  · rw [if_neg inside, List.getElem?_eq_none (Nat.le_of_not_lt inside)]

/-- Values that replace the bytes of whole elements are read back in their places, and the other
elements are read as before. -/
theorem getElem?_decodeAll_splice (positive : 0 < element.width)
    (represented : ∀ value ∈ values, element.Represents value)
    (fits : element.width * place + element.width * values.length ≤ bytes.length) (index : Nat) :
    (element.decodeAll (bytes.splice (element.width * place) (element.encodeAll values)))[index]? =
      if place ≤ index ∧ index < place + values.length then values[index - place]?
      else (element.decodeAll bytes)[index]? := by
  have image := length_encodeAll_of_represents represented
  have room : element.width * place + (element.encodeAll values).length ≤ bytes.length := by
    rw [image]
    exact fits
  have inside : place + values.length ≤ bytes.length / element.width := by
    rw [Nat.le_div_iff_mul_le positive, Nat.mul_comm, Nat.mul_add]
    exact fits
  rw [getElem?_decodeAll, getElem?_decodeAll, decodeAt?, decodeAt?, Bytes.length_splice room]
  by_cases written : place ≤ index ∧ index < place + values.length
  · have after := written.1
    have before := written.2
    have offset : index * element.width - element.width * place =
        (index - place) * element.width := by
      rw [Nat.mul_comm element.width, Nat.sub_mul]
    have within : index - place < values.length := by omega
    have window : (bytes.splice (element.width * place) (element.encodeAll values)).window
        (index * element.width) element.width = element.encode values[index - place] := by
      rw [Bytes.window_splice_of_inside room, offset, window_encodeAll represented within]
      · rw [Nat.mul_comm]
        exact Nat.mul_le_mul_right _ after
      · rw [image, ← Nat.mul_add, ← Nat.succ_mul, Nat.mul_comm]
        exact Nat.mul_le_mul_left _ before
    have whole := represented values[index - place] (List.getElem_mem within)
    have present : index < bytes.length / element.width := by omega
    rw [if_pos present, if_pos written, decodeAt, window, whole.decode_encode,
      List.getElem?_eq_getElem within]
  · have apart : index * element.width + element.width ≤ element.width * place ∨
        element.width * place + (element.encodeAll values).length ≤ index * element.width := by
      rw [image, ← Nat.mul_add, ← Nat.succ_mul, Nat.mul_comm index.succ, Nat.mul_comm index]
      rcases Nat.lt_or_ge index place with sooner | later
      · exact Or.inl (Nat.mul_le_mul_left _ sooner)
      · exact Or.inr (Nat.mul_le_mul_left _ (by omega))
    rw [if_neg written, decodeAt, decodeAt, Bytes.window_splice_of_outside room apart]

/-- A row of values is a value of its own. -/
theorem represents_repeated (positive : 0 < element.width)
    (represented : ∀ value ∈ values, element.Represents value) :
    (element.repeated values.length).Represents values where
  length_encode := length_encodeAll_of_represents represented
  decode_encode := decodeAll_encodeAll positive represented

end Element

/-! ## Integers -/

namespace Scalar

variable {scalar : Scalar} {value : Int}

/-- The image of an integer: its digits to the base of 256, the least one first, those of a negative
one counted from the span down. -/
structure Images (scalar : Scalar) (value : Int) : Prop where
  represents : scalar.element.Represents value
  digits : ∀ place < scalar.width, (scalar.element.encode value)[place]? =
    some (UInt8.ofNat ((value % scalar.span).toNat / LittleEndian.span place))

theorem span_pos (scalar : Scalar) : 0 < scalar.span := by
  unfold span
  induction scalar.width with
  | zero => exact Nat.one_pos
  | succ width inductionHypothesis =>
      rw [LittleEndian.span]
      omega

theorem least_bounds (scalar : Scalar) :
    -(scalar.span : Int) < scalar.least ∧ scalar.least ≤ 0 := by
  have positive := scalar.span_pos
  unfold least
  split <;> omega

/-- The pattern of an integer that the type admits. -/
theorem emod_span (admitted : scalar.admits value = true) :
    value % scalar.span = if 0 ≤ value then value else value + scalar.span := by
  have bounds := scalar.least_bounds
  simp only [admits, Bool.and_eq_true, decide_eq_true_eq] at admitted
  by_cases natural : 0 ≤ value
  · rw [if_pos natural]
    exact Int.emod_eq_of_lt natural (by omega)
  · rw [if_neg natural, ← Int.add_emod_right]
    exact Int.emod_eq_of_lt (by omega) (by omega)

theorem images_of_admits (admitted : scalar.admits value = true) : scalar.Images value := by
  refine ⟨⟨LittleEndian.length_encode _ _, ?_⟩,
    fun place inside => LittleEndian.getElem?_encode inside _⟩
  have known := emod_span admitted
  have positive : (scalar.span : Int) ≠ 0 := by
    have span := scalar.span_pos
    omega
  have natural := Int.emod_nonneg value positive
  have small : (value % scalar.span).toNat < scalar.span := by
    have below := Int.emod_lt_of_pos value (Int.natCast_pos.mpr scalar.span_pos)
    omega
  have pattern :
      (LittleEndian.decode (scalar.element.encode value) : Int) = value % scalar.span := by
    have exact : LittleEndian.decode (scalar.element.encode value) =
        (value % scalar.span).toNat :=
      (LittleEndian.decode_encode _ _).trans (Nat.mod_eq_of_lt small)
    rw [exact]
    omega
  simp only [admits, Bool.and_eq_true, decide_eq_true_eq] at admitted
  change (if (LittleEndian.decode (scalar.element.encode value) : Int) <
      scalar.least + scalar.span then _ else _ - (scalar.span : Int)) = value
  rw [pattern, known]
  have bounds := scalar.least_bounds
  split <;> split <;> omega

end Scalar

/-! ## Writes in a row -/

/-- Values that are to be written to a buffer. -/
structure WriteRequest where
  {α : Type}
  element : Element α
  buffer : Buffer
  offset : Nat
  values : List α

namespace WriteRequest

def image (request : WriteRequest) : Bytes := request.element.encodeAll request.values

/-- The byte that a request puts into a place, if it succeeds and reaches the place. -/
def byteAt? (request : WriteRequest) (storage index : Nat) : Option UInt8 :=
  if storage = request.buffer.storage ∧ request.offset ≤ index ∧
      request.offset + request.image.length ≤ request.buffer.size then
    request.image[index - request.offset]?
  else none

end WriteRequest

namespace Memory

variable {memory : Memory} {requests : List WriteRequest}

/-- The memory after a request; one that fails leaves it as it is. -/
def attempt (memory : Memory) (request : WriteRequest) : Memory :=
  match memory.writeAll request.element request.buffer request.offset request.values with
  | .ok after => after
  | .error _ => memory

def afterWrites (memory : Memory) (requests : List WriteRequest) : Memory :=
  requests.foldl attempt memory

theorem attempt_eq (memory : Memory) (request : WriteRequest) :
    memory.attempt request =
      if request.offset + request.image.length ≤ request.buffer.size then
        memory.overwrite request.buffer.storage request.offset request.image
      else memory := by
  unfold attempt writeAll write
  rw [← WriteRequest.image]
  by_cases fits : request.offset + request.image.length ≤ request.buffer.size
  · simp only [if_pos fits]
  · simp only [if_neg fits]

theorem holds_iff_attempt {request : WriteRequest} (held : memory.Holds request.buffer)
    (buffer : Buffer) : (memory.attempt request).Holds buffer ↔ memory.Holds buffer := by
  rw [attempt_eq]
  by_cases fits : request.offset + request.image.length ≤ request.buffer.size
  · rw [if_pos fits]
    exact (replaced_overwrite held fits).holds_iff buffer
  · rw [if_neg fits]

theorem getElem?_bytesAt_attempt {request : WriteRequest} (held : memory.Holds request.buffer)
    (storage index : Nat) :
    ((memory.attempt request).bytesAt storage)[index]? =
      (request.byteAt? storage index).or (memory.bytesAt storage)[index]? := by
  rw [attempt_eq, WriteRequest.byteAt?]
  by_cases fits : request.offset + request.image.length ≤ request.buffer.size
  · rw [if_pos fits, getElem?_bytesAt_overwrite held fits]
    by_cases there : storage = request.buffer.storage ∧ request.offset ≤ index
    · by_cases inside : index < request.offset + request.image.length
      · have within : index - request.offset < request.image.length := by omega
        simp [there, inside, fits, within]
      · have beyond : request.image.length ≤ index - request.offset := by omega
        simp [there, inside, fits, beyond]
    · rw [if_neg (by omega), if_neg (by omega), Option.none_or]
  · simp [fits]

theorem holds_iff_afterWrites (held : ∀ request ∈ requests, memory.Holds request.buffer)
    (buffer : Buffer) : (memory.afterWrites requests).Holds buffer ↔ memory.Holds buffer := by
  induction requests generalizing memory with
  | nil => exact Iff.rfl
  | cons request rest inductionHypothesis =>
      obtain ⟨first, others⟩ := List.forall_mem_cons.mp held
      have step := holds_iff_attempt first
      have later := @inductionHypothesis (memory.attempt request)
        fun each member => (step each.buffer).mpr (others each member)
      exact later.trans (step buffer)

/-- After requests in a row a byte is the one that the last of them put there, if any did. -/
theorem getElem?_afterWrites (held : ∀ request ∈ requests, memory.Holds request.buffer)
    (storage index : Nat) :
    ((memory.afterWrites requests).bytesAt storage)[index]? =
      (requests.reverse.findSome? fun request => request.byteAt? storage index).or
        (memory.bytesAt storage)[index]? := by
  induction requests generalizing memory with
  | nil => rfl
  | cons request rest inductionHypothesis =>
      obtain ⟨first, others⟩ := List.forall_mem_cons.mp held
      have later := @inductionHypothesis (memory.attempt request)
        fun each member => (holds_iff_attempt first each.buffer).mpr (others each member)
      rw [getElem?_bytesAt_attempt first] at later
      rw [List.reverse_cons, List.findSome?_append, Option.or_assoc]
      refine later.trans ?_
      simp

end Memory

/-! ## One write and one read -/

namespace Memory

variable {α : Type} {memory after : Memory} {element : Element α} {buffer : Buffer} {offset : Nat}
  {values : List α}

/-- What writing values to a buffer does. -/
structure Writes (memory : Memory) (element : Element α) (buffer : Buffer) (offset : Nat)
    (values : List α) : Prop where
  succeeds_iff : (∃ after, memory.writeAll element buffer offset values = .ok after) ↔
    offset + element.width * values.length ≤ buffer.size
  onWords : buffer.size < longBound →
    (buffer.admits offset (element.width * values.length) = true ↔
      offset + element.width * values.length ≤ buffer.size)
  refused : buffer.size < offset + element.width * values.length →
    memory.writeAll element buffer offset values =
      .error (.copyOutOfBounds 0 (element.width * values.length) offset buffer.size
        (element.width * values.length))
  image : ∀ place (inside : place < values.length),
    (element.encodeAll values).window (place * element.width) element.width =
      element.encode values[place]
  replaced : ∀ after, memory.writeAll element buffer offset values = .ok after →
    ∀ clone : Buffer, clone.sameStorage buffer = true →
      memory.Replaced after clone.storage offset (element.encodeAll values)
  readBack : ∀ after, memory.writeAll element buffer offset values = .ok after →
    ∀ place, offset = element.width * place → ∀ clone : Buffer, clone.sameStorage buffer = true →
      ∀ index, (after.read element clone)[index]? =
        if place ≤ index ∧ index < place + values.length then values[index - place]?
        else (memory.read element clone)[index]?

/-- What reading values from a buffer shows. -/
structure Reads (memory : Memory) (element : Element α) (buffer : Buffer) : Prop where
  count : (memory.read element buffer).length = buffer.size / element.width
  whole : ∀ place < buffer.size / element.width,
    ((memory.bytes buffer).window (place * element.width) element.width).length = element.width
  decoded : ∀ place < buffer.size / element.width, (memory.read element buffer)[place]? =
    some (element.decode ((memory.bytes buffer).window (place * element.width) element.width))

theorem writeAll_eq (represented : ∀ value ∈ values, element.Represents value) (memory : Memory)
    (buffer : Buffer) (offset : Nat) :
    memory.writeAll element buffer offset values =
      if offset + element.width * values.length ≤ buffer.size then
        .ok (memory.overwrite buffer.storage offset (element.encodeAll values))
      else
        .error (.copyOutOfBounds 0 (element.width * values.length) offset buffer.size
          (element.width * values.length)) := by
  rw [writeAll, write, Element.length_encodeAll_of_represents represented]

theorem fits_of_writeAll (represented : ∀ value ∈ values, element.Represents value)
    (written : memory.writeAll element buffer offset values = .ok after) :
    offset + element.width * values.length ≤ buffer.size ∧
      after = memory.overwrite buffer.storage offset (element.encodeAll values) := by
  rw [writeAll_eq represented] at written
  by_cases fits : offset + element.width * values.length ≤ buffer.size
  · rw [if_pos fits] at written
    cases written
    exact ⟨fits, rfl⟩
  · rw [if_neg fits] at written
    cases written

theorem bytes_overwrite_of_holds (held : memory.Holds buffer) (offset : Nat) (data : Bytes) :
    (memory.overwrite buffer.storage offset data).bytesAt buffer.storage =
      (memory.bytes buffer).splice offset data := by
  rw [bytesAt_overwrite, if_pos ⟨rfl, storage_lt_of_holds held⟩, bytes]

theorem writes_of_holds (held : memory.Holds buffer) (positive : 0 < element.width)
    (represented : ∀ value ∈ values, element.Represents value) (offset : Nat) :
    memory.Writes element buffer offset values where
  succeeds_iff := by
    constructor
    · rintro ⟨after, written⟩
      exact (fits_of_writeAll represented written).1
    · intro fits
      exact ⟨_, (writeAll_eq represented memory buffer offset).trans (if_pos fits)⟩
  onWords word := Buffer.admits_iff word _ _
  refused beyond := by
    rw [writeAll_eq represented, if_neg (Nat.not_le_of_lt beyond)]
  image _ inside := Element.window_encodeAll represented inside
  replaced after written clone same := by
    obtain ⟨fits, rfl⟩ := fits_of_writeAll represented written
    rw [beq_iff_eq.mp same]
    apply replaced_overwrite held
    rw [Element.length_encodeAll_of_represents represented]
    exact fits
  readBack after written place aligned clone same index := by
    obtain ⟨fits, rfl⟩ := fits_of_writeAll represented written
    have storage : clone.storage = buffer.storage := beq_iff_eq.mp same
    rw [read, read, bytes, bytes, storage, bytes_overwrite_of_holds held, aligned, ← bytes]
    apply Element.getElem?_decodeAll_splice positive represented
    rw [← aligned, length_bytes_of_holds held]
    exact fits

theorem reads_of_holds (held : memory.Holds buffer) (positive : 0 < element.width) :
    memory.Reads element buffer where
  count := by
    rw [read, Element.length_decodeAll, length_bytes_of_holds held]
  whole place inside := by
    have room : (place + 1) * element.width ≤ buffer.size :=
      (Nat.le_div_iff_mul_le positive).mp inside
    rw [Nat.succ_mul] at room
    rw [Bytes.length_window, length_bytes_of_holds held]
    omega
  decoded place inside := by
    rw [read, Element.getElem?_decodeAll, Element.decodeAt?, length_bytes_of_holds held,
      if_pos inside, Element.decodeAt]

/-- What a new buffer with the image of some values shows. -/
structure Begins (memory : Memory) (element : Element α) (values : List α) : Prop where
  holds : (memory.allocate (element.encodeAll values)).1.Holds
    (memory.allocate (element.encodeAll values)).2
  size : (memory.allocate (element.encodeAll values)).2.size = element.width * values.length
  read : (memory.allocate (element.encodeAll values)).1.read element
    (memory.allocate (element.encodeAll values)).2 = values

theorem begins_of_represents (positive : 0 < element.width)
    (represented : ∀ value ∈ values, element.Represents value) (memory : Memory) :
    memory.Begins element values where
  holds := by simp [allocate, Holds]
  size := Element.length_encodeAll_of_represents represented
  read := by
    have contents : (memory.allocate (element.encodeAll values)).1.bytes
        (memory.allocate (element.encodeAll values)).2 = element.encodeAll values := by
      simp [allocate, bytes, bytesAt]
    rw [Memory.read, contents, Element.decodeAll_encodeAll positive represented]

end Memory

/-! ## Typed access -/

namespace Memory

variable {memory : Memory} {requests : List WriteRequest}

/-- Typed values and bytes agree in a memory, after any requests. -/
structure TypedAccess (memory : Memory) (requests : List WriteRequest) : Prop where
  holds_iff : ∀ buffer, (memory.afterWrites requests).Holds buffer ↔ memory.Holds buffer
  latest : ∀ storage index, ((memory.afterWrites requests).bytesAt storage)[index]? =
    (requests.reverse.findSome? fun request => request.byteAt? storage index).or
      (memory.bytesAt storage)[index]?
  writes : ∀ {α : Type} (element : Element α) (buffer : Buffer) (offset : Nat) (values : List α),
    memory.Holds buffer → 0 < element.width → (∀ value ∈ values, element.Represents value) →
      (memory.afterWrites requests).Writes element buffer offset values
  reads : ∀ {α : Type} (element : Element α) (buffer : Buffer),
    memory.Holds buffer → 0 < element.width →
      (memory.afterWrites requests).Reads element buffer
  begins : ∀ {α : Type} (element : Element α) (values : List α),
    0 < element.width → (∀ value ∈ values, element.Represents value) →
      (memory.afterWrites requests).Begins element values

/-- After any writes through any handles, values are written and read as their bytes.  Integers
of every width have little-endian images, and so have rows of values. -/
theorem typedAccess_of_holds (held : ∀ request ∈ requests, memory.Holds request.buffer) :
    memory.TypedAccess requests ∧
      (∀ (scalar : Scalar) (value : Int), scalar.admits value = true → scalar.Images value) ∧
      ∀ {α : Type} (element : Element α) (values : List α), 0 < element.width →
        (∀ value ∈ values, element.Represents value) →
          (element.repeated values.length).Represents values := by
  have holds := holds_iff_afterWrites held
  refine ⟨⟨holds, getElem?_afterWrites held, ?_, ?_, ?_⟩, ?_, ?_⟩
  · intro α element buffer offset values known positive represented
    exact writes_of_holds ((holds buffer).mpr known) positive represented offset
  · intro α element buffer known positive
    exact reads_of_holds ((holds buffer).mpr known) positive
  · intro α element values positive represented
    exact begins_of_represents positive represented _
  · exact fun scalar value => Scalar.images_of_admits
  · intro α element values positive represented
    exact Element.represents_repeated positive represented

/-- Eleven bytes are written as two words of four bytes and, across them, as one of two bytes.  A
third write would end one byte behind the buffer. -/
theorem typedAccess_of_holds_acrossWords :
    let buffer : Buffer := ⟨0, 11⟩
    let memory : Memory := ⟨[List.replicate 11 0, [7]]⟩
    let signed : Element Int := (Scalar.mk 4 true).element
    let requests : List WriteRequest :=
      [⟨signed, buffer, 0, [1, -2]⟩, ⟨(Scalar.mk 2 false).element, buffer, 3, [0x0203]⟩,
        ⟨signed, buffer, 8, [5]⟩]
    (∀ request ∈ requests, memory.Holds request.buffer) ∧
      memory.TypedAccess requests ∧
      (memory.afterWrites requests).Writes signed buffer 4 [-7] ∧
      (memory.afterWrites requests).storages =
        [[1, 0, 0, 3, 2, 255, 255, 255, 0, 0, 0], [7]] ∧
      (memory.afterWrites requests).read signed buffer = [50331649, -254] := by
  intro buffer memory signed requests
  have held : ∀ request ∈ requests, memory.Holds request.buffer := by
    intro request member
    simp only [requests, List.mem_cons, List.not_mem_nil, or_false] at member
    rcases member with rfl | rfl | rfl <;> rfl
  obtain ⟨typed, integers, _⟩ := typedAccess_of_holds held
  have represented : ∀ value ∈ [(-7 : Int)], signed.Represents value := by
    intro value member
    rw [List.mem_singleton.mp member]
    exact (integers ⟨4, true⟩ (-7) (by decide)).represents
  have writes := typed.writes signed buffer 4 [-7] rfl (by decide) represented
  exact ⟨held, typed, writes, by decide, by decide⟩

end Memory

end CommandQueue
