import CommandQueue.Proofs.Lifecycle
import CommandQueue.Proofs.Sizes

/-!
# Copies that overlap

A copy puts into its target what its source held before, whether the two runs lie
in different storages, apart in one storage, or over each other
(`Memory.replaced_copy`).  A queue that moves the bytes one by one must not
overwrite a byte before it is read: between two storages any order does, inside
one storage the order from the front if the target lies before the source, and
the order from the back if it lies behind (`Memory.carry_eq_copy`).
-/

namespace CommandQueue

/-! ## Replacing a run of bytes -/

namespace Memory

variable {memory after first second : Memory} {buffer : Buffer} {storage offset : Nat}
  {data : Bytes}

/-- The data stands in the storage from the offset on, and nothing else changed. -/
structure Replaced (memory after : Memory) (storage offset : Nat) (data : Bytes) : Prop where
  arrived : (after.bytesAt storage).window offset data.length = data
  elsewhere : ∀ other index,
    ¬ (other = storage ∧ offset ≤ index ∧ index < offset + data.length) →
      (after.bytesAt other)[index]? = (memory.bytesAt other)[index]?
  holds_iff : ∀ buffer, after.Holds buffer ↔ memory.Holds buffer

/-- A memory with as many storages that holds all buffers of another one holds no more. -/
theorem Extends.holds_iff (extended : memory.Extends after)
    (count : after.storages.length = memory.storages.length) (buffer : Buffer) :
    after.Holds buffer ↔ memory.Holds buffer := by
  constructor
  · intro held
    have inside : buffer.storage < memory.storages.length := count ▸ storage_lt_of_holds held
    have known : memory.Holds ⟨buffer.storage, memory.storages[buffer.storage].length⟩ := by
      simp [Holds, inside]
    have same : some memory.storages[buffer.storage].length = some buffer.size :=
      (extended _ known).symm.trans held
    rw [Option.some.inj same] at known
    exact known
  · exact extended buffer

theorem getElem?_bytesAt_overwrite (held : memory.Holds buffer)
    (fits : offset + data.length ≤ buffer.size) (other index : Nat) :
    ((memory.overwrite buffer.storage offset data).bytesAt other)[index]? =
      if other = buffer.storage ∧ offset ≤ index ∧ index < offset + data.length then
        data[index - offset]?
      else (memory.bytesAt other)[index]? := by
  have room : offset + data.length ≤ (memory.bytesAt buffer.storage).length := by
    rw [← bytes, length_bytes_of_holds held]
    exact fits
  rw [bytesAt_overwrite]
  by_cases same : other = buffer.storage
  · subst same
    simp [storage_lt_of_holds held, Bytes.getElem?_splice room]
  · simp [same]

theorem replaced_overwrite (held : memory.Holds buffer)
    (fits : offset + data.length ≤ buffer.size) :
    memory.Replaced (memory.overwrite buffer.storage offset data) buffer.storage offset data where
  arrived := by
    apply List.ext_getElem?
    intro index
    rw [Bytes.getElem?_window, getElem?_bytesAt_overwrite held fits]
    by_cases inside : index < data.length
    · simp [inside]
    · simp [inside]
  elsewhere other index outside := by
    rw [getElem?_bytesAt_overwrite held fits, if_neg outside]
  holds_iff :=
    (extends_overwrite held fits).holds_iff (length_storages_overwrite _ _ _ _)

theorem eq_of_bytesAt (count : first.storages.length = second.storages.length)
    (same : ∀ storage, first.bytesAt storage = second.bytesAt storage) : first = second := by
  obtain ⟨firstStorages⟩ := first
  obtain ⟨secondStorages⟩ := second
  congr 1
  apply List.ext_getElem count
  intro storage inside insideSecond
  have equal := same storage
  simpa [bytesAt, inside, insideSecond] using equal

end Memory

/-! ## One copy -/

namespace Memory

variable {memory : Memory} {region : CopyRegion}

theorem length_window_of_inBounds (source : memory.Holds region.source)
    (inBounds : region.InBounds) :
    ((memory.bytes region.source).window region.sourceOffset region.size).length =
      region.size := by
  have room := inBounds.1
  rw [Bytes.length_window, length_bytes_of_holds source]
  omega

/-- A byte of the target is the byte of the source that stood there before the copy. -/
theorem getElem?_bytesAt_copy (source : memory.Holds region.source)
    (target : memory.Holds region.target) (inBounds : region.InBounds) (storage index : Nat) :
    ((memory.copy region).bytesAt storage)[index]? =
      if storage = region.target.storage ∧ region.targetOffset ≤ index ∧
          index < region.targetOffset + region.size then
        (memory.bytes region.source)[region.sourceOffset + (index - region.targetOffset)]?
      else (memory.bytesAt storage)[index]? := by
  have whole := length_window_of_inBounds source inBounds
  have fits : region.targetOffset +
      ((memory.bytes region.source).window region.sourceOffset region.size).length ≤
        region.target.size := by
    rw [whole]
    exact inBounds.2
  rw [copy, getElem?_bytesAt_overwrite target fits, whole]
  by_cases inside : storage = region.target.storage ∧ region.targetOffset ≤ index ∧
      index < region.targetOffset + region.size
  · have before : index - region.targetOffset < region.size := by omega
    rw [if_pos inside, if_pos inside, Bytes.getElem?_window, if_pos before]
  · rw [if_neg inside, if_neg inside]

theorem length_storages_copy (memory : Memory) (region : CopyRegion) :
    (memory.copy region).storages.length = memory.storages.length :=
  length_storages_overwrite _ _ _ _

theorem replaced_copy (source : memory.Holds region.source) (target : memory.Holds region.target)
    (inBounds : region.InBounds) :
    memory.Replaced (memory.copy region) region.target.storage region.targetOffset
      ((memory.bytes region.source).window region.sourceOffset region.size) := by
  apply replaced_overwrite target
  rw [length_window_of_inBounds source inBounds]
  exact inBounds.2

end Memory

/-! ## Byte by byte -/

namespace CopyRegion

variable {region : CopyRegion}

def byte (region : CopyRegion) (place : Nat) : CopyRegion :=
  { region with
    sourceOffset := region.sourceOffset + place
    targetOffset := region.targetOffset + place
    size := 1 }

/-- In this order no byte is overwritten before it is read. -/
def Safe (region : CopyRegion) (order : List Nat) : Prop :=
  order.Pairwise fun earlier later => region.source.storage = region.target.storage →
    region.targetOffset + earlier ≠ region.sourceOffset + later

theorem InBounds.byte (inBounds : region.InBounds) {place : Nat} (inside : place < region.size) :
    (region.byte place).InBounds := by
  obtain ⟨source, target⟩ := inBounds
  constructor <;> simp only [CopyRegion.byte] <;> omega

/-- An order in which the bytes can be moved: between two storages from the front, inside one
storage from the front or from the back, as the run moves down or up. -/
def order (region : CopyRegion) : List Nat :=
  if region.source.storage = region.target.storage ∧ region.sourceOffset < region.targetOffset then
    (List.range region.size).reverse
  else List.range region.size

theorem mem_order_iff (place : Nat) : place ∈ region.order ↔ place < region.size := by
  unfold order
  split <;> simp

theorem safe_order (region : CopyRegion) : region.Safe region.order := by
  unfold order
  by_cases upward : region.source.storage = region.target.storage ∧
      region.sourceOffset < region.targetOffset
  · rw [if_pos upward]
    refine List.pairwise_reverse.mpr (List.pairwise_lt_range.imp ?_)
    omega
  · rw [if_neg upward]
    refine List.pairwise_lt_range.imp ?_
    omega

end CopyRegion

namespace Memory

variable {memory : Memory} {region : CopyRegion} {order : List Nat}

/-- Copy the bytes of a run one by one in some order. -/
def carry (memory : Memory) (region : CopyRegion) (order : List Nat) : Memory :=
  order.foldl (fun current place => current.copy (region.byte place)) memory

theorem carry_append_singleton (memory : Memory) (region : CopyRegion) (order : List Nat)
    (place : Nat) :
    memory.carry region (order ++ [place]) =
      (memory.carry region order).copy (region.byte place) := by
  simp [carry, List.foldl_append]

/-- What some bytes of a run, copied one by one, leave in each place. -/
structure Carried (memory current : Memory) (region : CopyRegion) (moved : List Nat) : Prop where
  arrived : ∀ place ∈ moved,
    (current.bytesAt region.target.storage)[region.targetOffset + place]? =
      (memory.bytes region.source)[region.sourceOffset + place]?
  elsewhere : ∀ storage index,
    (∀ place ∈ moved, ¬ (storage = region.target.storage ∧
      index = region.targetOffset + place)) →
        (current.bytesAt storage)[index]? = (memory.bytesAt storage)[index]?
  extended : memory.Extends current
  count : current.storages.length = memory.storages.length

theorem getElem?_bytesAt_copy_byte (source : memory.Holds region.source)
    (target : memory.Holds region.target) (inBounds : region.InBounds) {place : Nat}
    (inside : place < region.size) (storage index : Nat) :
    ((memory.copy (region.byte place)).bytesAt storage)[index]? =
      if storage = region.target.storage ∧ index = region.targetOffset + place then
        (memory.bytes region.source)[region.sourceOffset + place]?
      else (memory.bytesAt storage)[index]? := by
  have reaches_iff : (storage = (region.byte place).target.storage ∧
      (region.byte place).targetOffset ≤ index ∧
        index < (region.byte place).targetOffset + (region.byte place).size) ↔
      storage = region.target.storage ∧ index = region.targetOffset + place := by
    simp only [CopyRegion.byte]
    omega
  rw [@getElem?_bytesAt_copy memory (region.byte place) source target (inBounds.byte inside)]
  by_cases there : storage = region.target.storage ∧ index = region.targetOffset + place
  · rw [if_pos (reaches_iff.mpr there), if_pos there, there.2]
    simp [CopyRegion.byte]
  · rw [if_neg (mt reaches_iff.mp there), if_neg there]

theorem carried_carry (source : memory.Holds region.source) (target : memory.Holds region.target)
    (inBounds : region.InBounds) (inside : ∀ place ∈ order, place < region.size)
    (safe : region.Safe order) : memory.Carried (memory.carry region order) region order := by
  -- By induction from the back: the last byte read is still the one that was there at first.
  induction order using List.reverseRecOn with
  | nil => exact ⟨nofun, fun _ _ _ => rfl, Extends.refl _, rfl⟩
  | append_singleton moved place inductionHypothesis =>
      obtain ⟨movedSafe, _, apart⟩ := List.pairwise_append.mp safe
      have carried := inductionHypothesis
        (fun earlier member => inside earlier (List.mem_append_left _ member)) movedSafe
      rw [carry_append_singleton]
      generalize memory.carry region moved = current at carried ⊢
      have within : place < region.size := inside place (by simp)
      have currentSource := carried.extended _ source
      have currentTarget := carried.extended _ target
      have copied := getElem?_bytesAt_copy_byte currentSource currentTarget inBounds within
      have read : (current.bytes region.source)[region.sourceOffset + place]? =
          (memory.bytes region.source)[region.sourceOffset + place]? := by
        apply carried.elsewhere
        rintro earlier member ⟨same, met⟩
        exact apart earlier member place (by simp) same met.symm
      refine ⟨?_, ?_, ?_, ?_⟩
      · intro each member
        rw [copied]
        by_cases last : each = place
        · subst last
          rw [if_pos ⟨rfl, rfl⟩, read]
        · have earlier : each ∈ moved := by simpa [last] using member
          have apartNow : ¬ (region.target.storage = region.target.storage ∧
              region.targetOffset + each = region.targetOffset + place) := by omega
          rw [if_neg apartNow]
          exact carried.arrived each earlier
      · intro storage index outside
        rw [copied, if_neg (outside place (by simp))]
        apply carried.elsewhere
        exact fun earlier member => outside earlier (List.mem_append_left _ member)
      · exact carried.extended.trans (extends_copy currentTarget (inBounds.byte within))
      · rw [length_storages_copy, carried.count]

/-- Moving the bytes one by one is copying them at once, as long as each is read in time. -/
theorem carry_eq_copy (source : memory.Holds region.source) (target : memory.Holds region.target)
    (inBounds : region.InBounds) (covers : ∀ place, place ∈ order ↔ place < region.size)
    (safe : region.Safe order) : memory.carry region order = memory.copy region := by
  have carried := carried_carry source target inBounds (fun place => (covers place).mp) safe
  apply eq_of_bytesAt
  · rw [carried.count, length_storages_copy]
  · intro storage
    apply List.ext_getElem?
    intro index
    rw [getElem?_bytesAt_copy source target inBounds]
    by_cases inside : storage = region.target.storage ∧ region.targetOffset ≤ index ∧
        index < region.targetOffset + region.size
    · obtain ⟨rfl, after, before⟩ := inside
      have place := carried.arrived (index - region.targetOffset)
        ((covers _).mpr (by omega))
      rw [Nat.add_sub_cancel' after] at place
      rw [if_pos ⟨rfl, after, before⟩, place]
    · rw [if_neg inside]
      apply carried.elsewhere
      rintro place member ⟨same, rfl⟩
      have small := (covers place).mp member
      omega

/-- The run moves up by two places.  From the front its first bytes are overwritten too early. -/
example :
    let buffer : Buffer := ⟨0, 8⟩
    let memory : Memory := ⟨[[1, 2, 3, 4, 5, 6, 7, 8]]⟩
    let region : CopyRegion := ⟨buffer, 0, buffer, 2, 5⟩
    region.order = [4, 3, 2, 1, 0] ∧
      (memory.carry region region.order).storages = [[1, 2, 1, 2, 3, 4, 5, 8]] ∧
      (memory.carry region (List.range 5)).storages = [[1, 2, 1, 2, 1, 2, 1, 8]] := by
  decide

end Memory

/-! ## Recorded copies -/

namespace Buffer

/-- The check of a run of bytes, computed on words of 64 bits: an end that is no word lies outside
of every buffer. -/
def admits (buffer : Buffer) (offset length : Nat) : Bool :=
  (Extent.word? (offset + length)).any (· ≤ buffer.size)

theorem admits_iff {buffer : Buffer} (word : buffer.size < longBound) (offset length : Nat) :
    buffer.admits offset length = true ↔ offset + length ≤ buffer.size := by
  unfold admits Extent.word?
  by_cases small : offset + length < longBound
  · simp [small]
  · have beyond : ¬ offset + length ≤ buffer.size := by omega
    simp [small, beyond]

end Buffer

namespace CommandList

variable {list next : CommandList} {region : CopyRegion}

/-- Whatever the category of an open list, the two runs of a copy decide. -/
theorem record_copyRegion (opened : list.state = .opened) (region : CopyRegion) :
    list.record (.copyRegion region) =
      if region.InBounds then .ok (list.append (.copyRegion region))
      else .error region.outOfBounds := by
  have suits : (Call.copyRegion region).Suits list.category := trivial
  rw [record_of_suits opened suits, ensureArguments]
  by_cases inBounds : region.InBounds
  · rw [if_pos inBounds, if_pos inBounds]
    rfl
  · rw [if_neg inBounds, if_neg inBounds]
    rfl

theorem inBounds_of_record (accepted : list.record (.copyRegion region) = .ok next) :
    list.state = .opened ∧ region.InBounds := by
  have opened := opened_of_record accepted
  refine ⟨opened, ?_⟩
  by_contra outside
  rw [record_copyRegion opened, if_neg outside] at accepted
  cases accepted

end CommandList

namespace Execution

variable {region : CopyRegion} {execution : Execution}

/-- A copy is carried out: the target holds what the source held before, all else is left alone,
and it makes no difference if the bytes are moved one by one. -/
structure Carries (heap : DescriptorHeap) (execution : Execution) (region : CopyRegion) : Prop where
  whole : ((execution.scene.memory.bytes region.source).window region.sourceOffset
    region.size).length = region.size
  replaced : execution.scene.memory.Replaced (execution.step heap (.copyRegion region)).scene.memory
    region.target.storage region.targetOffset
      ((execution.scene.memory.bytes region.source).window region.sourceOffset region.size)
  frame : execution.step heap (.copyRegion region) =
    { execution with
      scene := { execution.scene with
        memory := (execution.step heap (.copyRegion region)).scene.memory } }
  bytewise : execution.scene.memory.carry region region.order =
    (execution.step heap (.copyRegion region)).scene.memory
  inAnyOrder : ∀ order, (∀ place, place ∈ order ↔ place < region.size) → region.Safe order →
    execution.scene.memory.carry region order =
      (execution.step heap (.copyRegion region)).scene.memory

/-- What becomes of a copy between two buffers that is to be recorded and then carried out. -/
structure Copies (list : CommandList) (heap : DescriptorHeap) (execution : Execution)
    (region : CopyRegion) : Prop where
  accepts_iff : (∃ next, list.record (.copyRegion region) = .ok next) ↔
    list.state = .opened ∧ region.sourceOffset + region.size ≤ region.source.size ∧
      region.targetOffset + region.size ≤ region.target.size
  onWords : region.source.size < longBound → region.target.size < longBound →
    ((region.source.admits region.sourceOffset region.size &&
      region.target.admits region.targetOffset region.size) = true ↔
        region.sourceOffset + region.size ≤ region.source.size ∧
          region.targetOffset + region.size ≤ region.target.size)
  refused : list.state = .opened → ¬ region.InBounds →
    list.record (.copyRegion region) = .error region.outOfBounds
  carries : ∀ next, list.record (.copyRegion region) = .ok next →
    next.recorded = list.recorded ++ [.copyRegion region] ∧ Carries heap execution region

theorem carries_of_inBounds (source : execution.scene.memory.Holds region.source)
    (target : execution.scene.memory.Holds region.target) (inBounds : region.InBounds)
    (heap : DescriptorHeap) : Carries heap execution region where
  whole := Memory.length_window_of_inBounds source inBounds
  replaced := Memory.replaced_copy source target inBounds
  frame := rfl
  bytewise := Memory.carry_eq_copy source target inBounds CopyRegion.mem_order_iff region.safe_order
  inAnyOrder _ covers safe := Memory.carry_eq_copy source target inBounds covers safe

/-- Copies between buffers of the memory are recorded if both runs lie inside, and read all their
bytes before they write any. -/
theorem copies_of_holds (source : execution.scene.memory.Holds region.source)
    (target : execution.scene.memory.Holds region.target) (list : CommandList)
    (heap : DescriptorHeap) : Copies list heap execution region where
  accepts_iff := by
    constructor
    · rintro ⟨next, accepted⟩
      exact CommandList.inBounds_of_record accepted
    · rintro ⟨opened, inBounds⟩
      exact ⟨_, (CommandList.record_copyRegion opened region).trans (if_pos inBounds)⟩
  onWords sourceWord targetWord := by
    rw [Bool.and_eq_true, Buffer.admits_iff sourceWord, Buffer.admits_iff targetWord]
  refused opened outside := (CommandList.record_copyRegion opened region).trans (if_neg outside)
  carries next accepted := by
    have appended := CommandList.eq_append_of_record accepted
    refine ⟨?_, carries_of_inBounds source target (CommandList.inBounds_of_record accepted).2 heap⟩
    rw [appended, CommandList.recorded_append, Call.command]

/-- Two handles to one storage, and a run that moves up by two places over itself. -/
theorem copies_of_holds_upward :
    let buffer : Buffer := ⟨0, 8⟩
    let execution := start ⟨⟨[[1, 2, 3, 4, 5, 6, 7, 8]]⟩, []⟩
    let region : CopyRegion := ⟨buffer, 0, buffer, 2, 5⟩
    let list := CommandList.opened ⟨1⟩ 0 .copy (Allocator.new ⟨.copy, 0⟩) none
    let heap := DescriptorHeap.new 0
    execution.scene.memory.Holds region.source ∧ execution.scene.memory.Holds region.target ∧
      Copies list heap execution region ∧
      list.record (.copyRegion region) = .ok (list.append (.copyRegion region)) ∧
      (execution.step heap (.copyRegion region)).scene.memory.storages =
        [[1, 2, 1, 2, 3, 4, 5, 8]] := by
  intro buffer execution region list heap
  have held : execution.scene.memory.Holds buffer := rfl
  have copies : Copies list heap execution region := copies_of_holds held held list heap
  exact ⟨held, held, copies, rfl, rfl⟩

end Execution

end CommandQueue
