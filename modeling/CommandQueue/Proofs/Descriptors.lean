import CommandQueue.DescriptorHeap
import Mathlib.Data.List.Induction

/-!
# Descriptor heaps over runs of calls

Places are handed out from the front and never taken back, and a place keeps its
buffer once it is written.  `DescriptorHeap.Grows` says the latter of two states
of a heap, and every call lets the heap grow, whether it succeeds or not.

`DescriptorHeap.Reacts` lists what a call can do.  From it follows the account
of a run (`DescriptorHeap.Accounted`): the ranges handed out lie one behind the
other, and they leave no place out, unless a publication came upon a place that
was written before.  Such a publication keeps the places that it was given
without returning them.
-/

namespace CommandQueue

/-! ## Heaps that grow -/

namespace DescriptorHeap

/-- The later heap has all that was written in the earlier one. -/
structure Grows (before after : DescriptorHeap) : Prop where
  capacity : after.capacity = before.capacity
  written : ∀ index buffer, before.get? index = some buffer → after.get? index = some buffer

theorem Grows.refl (heap : DescriptorHeap) : heap.Grows heap := ⟨rfl, fun _ _ present => present⟩

theorem Grows.trans {before middle after : DescriptorHeap} (first : before.Grows middle)
    (second : middle.Grows after) : before.Grows after :=
  ⟨second.capacity.trans first.capacity, fun index buffer present =>
    second.written index buffer (first.written index buffer present)⟩

theorem grows_allocate {heap after : DescriptorHeap} {count : Nat} {range : DescriptorRange}
    (allocated : heap.allocate count = .ok (after, range)) : heap.Grows after := by
  unfold allocate at allocated
  split at allocated
  · cases allocated
    exact ⟨rfl, fun _ _ present => present⟩
  · cases allocated

theorem write_eq_ok_iff {heap after : DescriptorHeap} {index : Nat} {buffer : Buffer} :
    heap.write index buffer = .ok after ↔
      (index < heap.capacity ∧ heap.get? index = none) ∧
        after = { heap with written := (index, buffer) :: heap.written } := by
  unfold write
  by_cases beyond : heap.capacity ≤ index
  · simp [beyond, Nat.not_lt.mpr beyond]
  · cases present : heap.get? index with
    | none => simp [beyond, Nat.lt_of_not_le beyond, eq_comm]
    | some old => simp [beyond]

theorem grows_write {heap after : DescriptorHeap} {index : Nat} {buffer : Buffer}
    (written : heap.write index buffer = .ok after) : heap.Grows after := by
  obtain ⟨⟨_, free⟩, shape⟩ := write_eq_ok_iff.mp written
  refine ⟨by rw [shape], ?_⟩
  intro queried old present
  have different : queried ≠ index := by
    rintro rfl
    rw [free] at present
    cases present
  rw [get?_of_write written, if_neg different]
  exact present

theorem grows_writeFrom (heap : DescriptorHeap) (index : Nat) (buffers : List Buffer) :
    heap.Grows (heap.writeFrom index buffers).1 := by
  induction buffers generalizing heap index with
  | nil => exact Grows.refl heap
  | cons buffer rest inductionHypothesis =>
      unfold writeFrom
      cases written : heap.write index buffer with
      | ok next => exact (grows_write written).trans (inductionHypothesis next (index + 1))
      | error error => exact Grows.refl heap

/-- Whatever becomes of a publication, nothing that was written is lost. -/
theorem grows_publish (heap : DescriptorHeap) (buffers : List Buffer) :
    heap.Grows (heap.publish buffers).1 := by
  unfold publish
  cases allocated : heap.allocate buffers.length with
  | error error => exact Grows.refl heap
  | ok grown => exact (grows_allocate allocated).trans (grows_writeFrom _ _ _)

theorem Grows.resolveAt {before after : DescriptorHeap} (grows : before.Grows after) {index : Nat}
    {buffer : Buffer} (resolved : before.resolveAt index = .ok buffer) :
    after.resolveAt index = .ok buffer := by
  unfold DescriptorHeap.resolveAt at resolved ⊢
  rw [grows.capacity]
  split at resolved
  · cases resolved
  · rename_i inside
    rw [if_neg inside]
    cases present : before.get? index with
    | none =>
        rw [present] at resolved
        cases resolved
    | some found =>
        rw [present] at resolved
        cases resolved
        rw [grows.written index buffer present]

theorem Grows.resolveFrom {before after : DescriptorHeap} (grows : before.Grows after)
    {start count : Nat} {buffers : List Buffer}
    (resolved : before.resolveFrom start count = .ok buffers) :
    after.resolveFrom start count = .ok buffers := by
  induction count generalizing start buffers with
  | zero => exact resolved
  | succ count inductionHypothesis =>
      rw [DescriptorHeap.resolveFrom] at resolved ⊢
      cases first : before.resolveAt start with
      | error error =>
          rw [first] at resolved
          cases resolved
      | ok buffer =>
          cases others : before.resolveFrom (start + 1) count with
          | error error =>
              rw [first, others] at resolved
              cases resolved
          | ok rest =>
              rw [first, others] at resolved
              cases resolved
              rw [grows.resolveAt first, inductionHypothesis others]

theorem Grows.resolve {before after : DescriptorHeap} (grows : before.Grows after)
    {range : DescriptorRange} {buffers : List Buffer}
    (resolved : before.resolve range = .ok buffers) : after.resolve range = .ok buffers := by
  unfold DescriptorHeap.resolve at resolved ⊢
  cases word : range.end? with
  | none =>
      rw [word] at resolved
      cases resolved
  | some last =>
      rw [word] at resolved
      exact grows.resolveFrom resolved

end DescriptorHeap

/-! ## Writing in a row -/

namespace DescriptorHeap

section Filled

variable {heap after : DescriptorHeap} {start : Nat} {buffers rest : List Buffer}
  {buffer : Buffer}

/-- The heap with buffers in a row of places, and nothing else changed. -/
structure Filled (heap : DescriptorHeap) (start : Nat) (buffers : List Buffer)
    (after : DescriptorHeap) : Prop where
  capacity : after.capacity = heap.capacity
  allocated : after.allocated = heap.allocated
  inside : ∀ offset < buffers.length, after.get? (start + offset) = buffers[offset]?
  outside : ∀ index, index < start ∨ start + buffers.length ≤ index →
    after.get? index = heap.get? index

theorem Filled.nil (heap : DescriptorHeap) (start : Nat) : heap.Filled start [] heap :=
  ⟨rfl, rfl, by simp, fun _ _ => rfl⟩

theorem Filled.cons {next : DescriptorHeap} (written : heap.write start buffer = .ok next)
    (filled : next.Filled (start + 1) rest after) :
    heap.Filled start (buffer :: rest) after := by
  have shape := (write_eq_ok_iff.mp written).2
  refine ⟨?_, ?_, ?_, ?_⟩
  · rw [filled.capacity, shape]
  · rw [filled.allocated, shape]
  · intro offset inside
    cases offset with
    | zero =>
        rw [Nat.add_zero, filled.outside start (Or.inl (Nat.lt_succ_self start)),
          get?_of_write written]
        simp
    | succ offset =>
        have later := filled.inside offset (by simpa using inside)
        rw [show start + (offset + 1) = start + 1 + offset by omega, later]
        simp
  · intro index outside
    rw [List.length_cons] at outside
    have different : index ≠ start := by omega
    rw [filled.outside index (by omega), get?_of_write written, if_neg different]

/-- Nothing was written to the first places of a row. -/
def FreeFor (heap : DescriptorHeap) (start count : Nat) : Prop :=
  ∀ offset < count, heap.get? (start + offset) = none

theorem FreeFor.succ {next : DescriptorHeap} {count : Nat}
    (written : heap.write start buffer = .ok next) (free : next.FreeFor (start + 1) count) :
    heap.FreeFor start (count + 1) := by
  intro offset before
  cases offset with
  | zero => exact (write_eq_ok_iff.mp written).1.2
  | succ offset =>
      have different : start + 1 + offset ≠ start := by omega
      have unwritten := free offset (Nat.lt_of_succ_lt_succ before)
      rw [get?_of_write written, if_neg different] at unwritten
      rw [show start + (offset + 1) = start + 1 + offset by omega]
      exact unwritten

/-- The first place of a row to which something was written. -/
structure FirstTaken (heap : DescriptorHeap) (start count offset : Nat) : Prop where
  before : offset < count
  free : heap.FreeFor start offset
  taken : (heap.get? (start + offset)).isSome = true

theorem FirstTaken.succ {next : DescriptorHeap} {count offset : Nat}
    (written : heap.write start buffer = .ok next)
    (first : next.FirstTaken (start + 1) count offset) :
    heap.FirstTaken start (count + 1) (offset + 1) := by
  have different : start + 1 + offset ≠ start := by omega
  have taken := first.taken
  rw [get?_of_write written, if_neg different, Nat.add_right_comm] at taken
  exact ⟨Nat.succ_lt_succ first.before, first.free.succ written, taken⟩

/-- Inside the heap, buffers are written in a row up to the first place that is taken. -/
theorem writeFrom_cases (inside : start + buffers.length ≤ heap.capacity) :
    (heap.FreeFor start buffers.length ∧ (heap.writeFrom start buffers).2 = .ok () ∧
        heap.Filled start buffers (heap.writeFrom start buffers).1) ∨
      ∃ offset, heap.FirstTaken start buffers.length offset ∧
        (heap.writeFrom start buffers).2 = .error (.descriptorAlreadyWritten (start + offset)) ∧
          heap.Filled start (buffers.take offset) (heap.writeFrom start buffers).1 := by
  induction buffers generalizing heap start with
  | nil => exact Or.inl ⟨by simp [FreeFor], rfl, Filled.nil heap start⟩
  | cons buffer rest inductionHypothesis =>
      rw [List.length_cons] at inside ⊢
      have within : ¬ heap.capacity ≤ start := by omega
      unfold writeFrom
      cases written : heap.write start buffer with
      | error error =>
          unfold write at written
          rw [if_neg within] at written
          split at written
          · rename_i taken
            cases written
            exact Or.inr ⟨0, ⟨Nat.succ_pos _, by simp [FreeFor], taken⟩, rfl, Filled.nil heap start⟩
          · cases written
      | ok next =>
          have capacity : next.capacity = heap.capacity := by
            rw [(write_eq_ok_iff.mp written).2]
          rcases @inductionHypothesis next (start + 1) (by omega) with
            ⟨free, finished, filled⟩ | ⟨offset, first, refused, filled⟩
          · exact Or.inl ⟨free.succ written, finished, filled.cons written⟩
          · refine Or.inr ⟨offset + 1, first.succ written, ?_, ?_⟩
            · rw [show start + (offset + 1) = start + 1 + offset by omega]
              exact refused
            · rw [List.take_succ_cons]
              exact filled.cons written

theorem Filled.resolveFrom (filled : heap.Filled start buffers after)
    (within : start + buffers.length ≤ heap.capacity) :
    after.resolveFrom start buffers.length = .ok buffers := by
  have fits : start + buffers.length ≤ after.capacity := by
    rw [filled.capacity]
    exact within
  have inside := filled.inside
  clear filled within
  induction buffers generalizing start with
  | nil => rfl
  | cons buffer rest inductionHypothesis =>
      rw [List.length_cons] at fits inside ⊢
      have present : ¬ after.capacity ≤ start := by omega
      have first : after.get? start = some buffer := by simpa using inside 0 (Nat.succ_pos _)
      have others := @inductionHypothesis (start + 1) (by omega) fun offset before => by
        rw [show start + 1 + offset = start + (offset + 1) by omega,
          inside (offset + 1) (Nat.succ_lt_succ before)]
        simp
      rw [DescriptorHeap.resolveFrom]
      simp [resolveAt, present, first, others]

end Filled

end DescriptorHeap

/-! ## What a call can do -/

/-- A call on a descriptor heap. -/
inductive HeapCall where
  | allocate (count : Nat)
  | write (index : Nat) (buffer : Buffer)
  | publish (buffers : List Buffer)

abbrev HeapAnswer := Except Error (Option DescriptorRange)

/-- The number of places that a call asks for. -/
def HeapCall.requested : HeapCall → Option Nat
  | .allocate count => some count
  | .write _ _ => none
  | .publish buffers => some buffers.length

namespace DescriptorHeap

def call (heap : DescriptorHeap) : HeapCall → DescriptorHeap × HeapAnswer
  | .allocate count =>
      match heap.allocate count with
      | .ok (grown, range) => (grown, .ok (some range))
      | .error error => (heap, .error error)
  | .write index buffer =>
      match heap.write index buffer with
      | .ok next => (next, .ok none)
      | .error error => (heap, .error error)
  | .publish buffers =>
      let (after, result) := heap.publish buffers
      (after, result.map some)

def advanced (heap : DescriptorHeap) (count : Nat) : DescriptorHeap :=
  { heap with allocated := heap.allocated + count }

/-- Everything that a publication can do. -/
inductive Publishes (heap : DescriptorHeap) (buffers : List Buffer) :
    DescriptorHeap → Except Error DescriptorRange → Prop
  | exhausted (beyond : heap.capacity < heap.allocated + buffers.length) :
      Publishes heap buffers heap
        (.error (.heapExhausted buffers.length heap.allocated heap.capacity))
  | published {after : DescriptorHeap} (fits : heap.allocated + buffers.length ≤ heap.capacity)
      (free : heap.FreeFor heap.allocated buffers.length)
      (filled : (heap.advanced buffers.length).Filled heap.allocated buffers after) :
      Publishes heap buffers after (.ok ⟨heap.allocated, buffers.length⟩)
  | hindered {after : DescriptorHeap} {offset : Nat}
      (fits : heap.allocated + buffers.length ≤ heap.capacity)
      (first : heap.FirstTaken heap.allocated buffers.length offset)
      (filled : (heap.advanced buffers.length).Filled heap.allocated (buffers.take offset) after) :
      Publishes heap buffers after (.error (.descriptorAlreadyWritten (heap.allocated + offset)))

theorem publishes_publish (heap : DescriptorHeap) (buffers : List Buffer) :
    heap.Publishes buffers (heap.publish buffers).1 (heap.publish buffers).2 := by
  by_cases fits : heap.allocated + buffers.length ≤ heap.capacity
  · have shape : heap.publish buffers =
        (((heap.advanced buffers.length).writeFrom heap.allocated buffers).1,
          ((heap.advanced buffers.length).writeFrom heap.allocated buffers).2.map
            fun _ => ⟨heap.allocated, buffers.length⟩) := by
      rw [publish, allocate, if_pos fits]
      rfl
    rw [shape]
    rcases @writeFrom_cases (heap.advanced buffers.length) heap.allocated buffers fits with
      ⟨free, finished, filled⟩ | ⟨offset, first, refused, filled⟩
    · rw [finished]
      exact Publishes.published fits free filled
    · rw [refused]
      exact Publishes.hindered fits ⟨first.before, first.free, first.taken⟩ filled
  · have shape : heap.publish buffers =
        (heap, .error (.heapExhausted buffers.length heap.allocated heap.capacity)) := by
      rw [publish, allocate, if_neg fits]
    rw [shape]
    exact Publishes.exhausted (Nat.lt_of_not_le fits)

/-- Everything that a call can do. -/
inductive Reacts (heap : DescriptorHeap) : HeapCall → DescriptorHeap → HeapAnswer → Prop
  | allocated {count : Nat} (fits : heap.allocated + count ≤ heap.capacity) :
      Reacts heap (.allocate count) (heap.advanced count) (.ok (some ⟨heap.allocated, count⟩))
  | exhausted {each : HeapCall} {count : Nat} (asks : each.requested = some count)
      (beyond : heap.capacity < heap.allocated + count) :
      Reacts heap each heap (.error (.heapExhausted count heap.allocated heap.capacity))
  | written {index : Nat} {buffer : Buffer}
      (free : index < heap.capacity ∧ heap.get? index = none) :
      Reacts heap (.write index buffer)
        { heap with written := (index, buffer) :: heap.written } (.ok none)
  | refused {index : Nat} {buffer : Buffer} {error : Error}
      (taken : ¬ (index < heap.capacity ∧ heap.get? index = none)) :
      Reacts heap (.write index buffer) heap (.error error)
  | published {buffers : List Buffer} {after : DescriptorHeap}
      (fits : heap.allocated + buffers.length ≤ heap.capacity)
      (allocated : after.allocated = heap.allocated + buffers.length)
      (resolved : after.resolveFrom heap.allocated buffers.length = .ok buffers) :
      Reacts heap (.publish buffers) after (.ok (some ⟨heap.allocated, buffers.length⟩))
  | hindered {buffers : List Buffer} {after : DescriptorHeap} {index : Nat}
      (fits : heap.allocated + buffers.length ≤ heap.capacity)
      (allocated : after.allocated = heap.allocated + buffers.length)
      (nonempty : buffers ≠ []) :
      Reacts heap (.publish buffers) after (.error (.descriptorAlreadyWritten index))

theorem grows_call (heap : DescriptorHeap) (each : HeapCall) : heap.Grows (heap.call each).1 := by
  cases each with
  | allocate count =>
      rw [call]
      cases allocated : heap.allocate count with
      | ok grown => exact grows_allocate allocated
      | error error => exact Grows.refl heap
  | write index buffer =>
      rw [call]
      cases written : heap.write index buffer with
      | ok next => exact grows_write written
      | error error => exact Grows.refl heap
  | publish buffers => exact heap.grows_publish buffers

/-- Every call does one of the listed things. -/
theorem reacts_call (heap : DescriptorHeap) (each : HeapCall) :
    heap.Reacts each (heap.call each).1 (heap.call each).2 := by
  cases each with
  | allocate count =>
      rw [call, allocate]
      by_cases fits : heap.allocated + count ≤ heap.capacity
      · rw [if_pos fits]
        exact Reacts.allocated fits
      · rw [if_neg fits]
        exact Reacts.exhausted rfl (Nat.lt_of_not_le fits)
  | write index buffer =>
      rw [call]
      cases written : heap.write index buffer with
      | ok next =>
          obtain ⟨free, rfl⟩ := write_eq_ok_iff.mp written
          exact Reacts.written free
      | error error =>
          refine Reacts.refused fun free => ?_
          obtain ⟨next, accepted⟩ := (heap.write_isOk_iff index buffer).mpr free
          rw [accepted] at written
          cases written
  | publish buffers =>
      have publishes := heap.publishes_publish buffers
      rw [call]
      generalize heap.publish buffers = outcome at publishes
      obtain ⟨after, result⟩ := outcome
      dsimp only at publishes ⊢
      cases publishes with
      | exhausted beyond => exact Reacts.exhausted rfl beyond
      | published fits free filled =>
          exact Reacts.published fits filled.allocated (filled.resolveFrom fits)
      | hindered fits first filled =>
          have nonempty := List.ne_nil_of_length_pos (Nat.zero_lt_of_lt first.before)
          exact Reacts.hindered fits filled.allocated nonempty

/-! ## The account of a run -/

def after (heap : DescriptorHeap) (calls : List HeapCall) : DescriptorHeap :=
  calls.foldl (fun reached each => (reached.call each).1) heap

def transcript (heap : DescriptorHeap) : List HeapCall → List (HeapCall × HeapAnswer)
  | [] => []
  | each :: rest => (each, (heap.call each).2) :: (heap.call each).1.transcript rest

def handedOut (answered : List (HeapCall × HeapAnswer)) : List DescriptorRange :=
  answered.filterMap fun each => each.2.toOption.join

/-- Every place below the bound lies in one of the ranges. -/
def Covered (ranges : List DescriptorRange) (bound : Nat) : Prop :=
  ∀ index < bound, ∃ range ∈ ranges, range.start ≤ index ∧ index < range.start + range.count

/-- No publication came upon a place that was written before. -/
def Unhindered (answered : List (HeapCall × HeapAnswer)) : Prop :=
  ∀ buffers index,
    (HeapCall.publish buffers, .error (.descriptorAlreadyWritten index)) ∉ answered

/-- The ranges handed out lie one behind the other among the places handed out, and cover them
as long as no publication was hindered. -/
structure Accounted (heap : DescriptorHeap) (answered : List (HeapCall × HeapAnswer)) :
    Prop where
  bounded : heap.allocated ≤ heap.capacity
  ordered : (handedOut answered).Pairwise fun first second =>
    first.start + first.count ≤ second.start
  inside : ∀ range ∈ handedOut answered, range.start + range.count ≤ heap.allocated
  tiled : Covered (handedOut answered) heap.allocated ↔ Unhindered answered

variable {heap later : DescriptorHeap} {answered : List (HeapCall × HeapAnswer)} {each : HeapCall}
  {answer : HeapAnswer}

theorem after_append (heap : DescriptorHeap) (calls more : List HeapCall) :
    heap.after (calls ++ more) = (heap.after calls).after more :=
  List.foldl_append

theorem transcript_append (heap : DescriptorHeap) (calls more : List HeapCall) :
    heap.transcript (calls ++ more) =
      heap.transcript calls ++ (heap.after calls).transcript more := by
  induction calls generalizing heap with
  | nil => rfl
  | cons each rest inductionHypothesis =>
      exact congrArg (_ :: ·) (inductionHypothesis (heap.call each).1)

theorem grows_after (heap : DescriptorHeap) (calls : List HeapCall) :
    heap.Grows (heap.after calls) := by
  induction calls generalizing heap with
  | nil => exact Grows.refl heap
  | cons each rest inductionHypothesis =>
      exact (heap.grows_call each).trans (inductionHypothesis (heap.call each).1)

theorem unhindered_append_singleton (answered : List (HeapCall × HeapAnswer))
    (last : HeapCall × HeapAnswer) :
    Unhindered (answered ++ [last]) ↔ Unhindered answered ∧ Unhindered [last] := by
  simp only [Unhindered, List.mem_append, not_or, forall_and]

/-- A range behind covered places extends them. -/
theorem covered_append_singleton {ranges : List DescriptorRange} (bound count : Nat) :
    Covered (ranges ++ [⟨bound, count⟩]) (bound + count) ↔ Covered ranges bound := by
  constructor
  · intro covered index below
    obtain ⟨range, member, after, before⟩ := covered index (Nat.lt_add_right count below)
    rcases List.mem_append.mp member with earlier | new
    · exact ⟨range, earlier, after, before⟩
    · rw [List.mem_singleton.mp new] at after
      exact absurd after (Nat.not_le.mpr below)
  · intro covered index below
    by_cases earlier : index < bound
    · obtain ⟨range, member, inside⟩ := covered index earlier
      exact ⟨range, List.mem_append_left _ member, inside⟩
    · exact ⟨⟨bound, count⟩, List.mem_append_right _ (List.mem_singleton_self _),
        Nat.le_of_not_lt earlier, below⟩

/-- A call that hands out no range and keeps no place leaves the account as it is. -/
theorem Accounted.keep (accounted : heap.Accounted answered)
    (capacity : later.capacity = heap.capacity) (allocated : later.allocated = heap.allocated)
    (handsOutNone : answer.toOption.join = none) (unhindered : Unhindered [(each, answer)]) :
    later.Accounted (answered ++ [(each, answer)]) := by
  have ranges : handedOut (answered ++ [(each, answer)]) = handedOut answered := by
    simp [handedOut, handsOutNone]
  refine ⟨?_, ?_, ?_, ?_⟩
  · rw [allocated, capacity]
    exact accounted.bounded
  · rw [ranges]
    exact accounted.ordered
  · rw [ranges, allocated]
    exact accounted.inside
  · rw [ranges, allocated, unhindered_append_singleton]
    exact accounted.tiled.trans (and_iff_left unhindered).symm

/-- A call that hands out the next places adds them to the account. -/
theorem Accounted.extend (accounted : heap.Accounted answered) {count : Nat}
    (capacity : later.capacity = heap.capacity)
    (allocated : later.allocated = heap.allocated + count)
    (fits : heap.allocated + count ≤ heap.capacity) :
    later.Accounted (answered ++ [(each, .ok (some ⟨heap.allocated, count⟩))]) := by
  have ranges : handedOut (answered ++ [(each, .ok (some ⟨heap.allocated, count⟩))]) =
      handedOut answered ++ [⟨heap.allocated, count⟩] := by
    simp [handedOut, Except.toOption]
  refine ⟨?_, ?_, ?_, ?_⟩
  · rw [allocated, capacity]
    exact fits
  · rw [ranges, List.pairwise_append]
    refine ⟨accounted.ordered, List.pairwise_singleton _ _, ?_⟩
    intro range member new newMember
    rw [List.mem_singleton.mp newMember]
    exact accounted.inside range member
  · intro range member
    rw [ranges] at member
    rw [allocated]
    rcases List.mem_append.mp member with earlier | new
    · exact Nat.le_add_right_of_le (accounted.inside range earlier)
    · cases List.mem_singleton.mp new
      exact Nat.le_refl _
  · have unhindered : Unhindered [(each, .ok (some ⟨heap.allocated, count⟩))] := by
      simp [Unhindered]
    rw [ranges, allocated, covered_append_singleton, unhindered_append_singleton]
    exact accounted.tiled.trans (and_iff_left unhindered).symm

/-- A hindered publication leaves its first place uncovered. -/
theorem Accounted.hinder (accounted : heap.Accounted answered) {buffers : List Buffer}
    {index : Nat} (capacity : later.capacity = heap.capacity)
    (allocated : later.allocated = heap.allocated + buffers.length)
    (fits : heap.allocated + buffers.length ≤ heap.capacity) (nonempty : buffers ≠ []) :
    later.Accounted
      (answered ++ [(.publish buffers, .error (.descriptorAlreadyWritten index))]) := by
  have ranges : handedOut
      (answered ++ [(.publish buffers, .error (.descriptorAlreadyWritten index))]) =
        handedOut answered := by
    simp [handedOut, Except.toOption]
  refine ⟨?_, ?_, ?_, ?_⟩
  · rw [allocated, capacity]
    exact fits
  · rw [ranges]
    exact accounted.ordered
  · intro range member
    rw [ranges] at member
    rw [allocated]
    exact Nat.le_add_right_of_le (accounted.inside range member)
  · rw [ranges, allocated]
    constructor
    · intro covered
      have below : heap.allocated < heap.allocated + buffers.length :=
        Nat.lt_add_of_pos_right (List.length_pos_iff.mpr nonempty)
      obtain ⟨range, member, _, beyond⟩ := covered heap.allocated below
      exact absurd (accounted.inside range member) (Nat.not_le.mpr beyond)
    · intro unhindered
      exact absurd (List.mem_append_right _ (List.mem_singleton_self _))
        (unhindered buffers index)

theorem Accounted.react (accounted : heap.Accounted answered)
    (capacity : later.capacity = heap.capacity) (reacts : heap.Reacts each later answer) :
    later.Accounted (answered ++ [(each, answer)]) := by
  cases reacts with
  | allocated fits => exact accounted.extend rfl rfl fits
  | exhausted asks beyond => exact accounted.keep rfl rfl rfl (by simp [Unhindered])
  | written free => exact accounted.keep rfl rfl rfl (by simp [Unhindered])
  | refused taken => exact accounted.keep rfl rfl rfl (by simp [Unhindered])
  | published fits allocated resolved => exact accounted.extend capacity allocated fits
  | hindered fits allocated nonempty => exact accounted.hinder capacity allocated fits nonempty

theorem accounted_after (capacity : Nat) (calls : List HeapCall) :
    ((new capacity).after calls).Accounted ((new capacity).transcript calls) := by
  induction calls using List.reverseRecOn with
  | nil =>
      refine ⟨Nat.zero_le _, List.Pairwise.nil, by simp [transcript, handedOut], ?_⟩
      simp [Covered, Unhindered, transcript, after, new]
  | append_singleton calls each inductionHypothesis =>
      rw [after_append, transcript_append]
      let reached := (new capacity).after calls
      exact inductionHypothesis.react (reached.grows_call each).capacity (reached.reacts_call each)

/-- No call takes places back. -/
theorem Reacts.allocated_le (reacts : heap.Reacts each later answer) :
    heap.allocated ≤ later.allocated := by
  cases reacts with
  | allocated fits => exact Nat.le_add_right _ _
  | exhausted | written | refused => exact Nat.le_refl _
  | published _ allocated | hindered _ allocated =>
      rw [allocated]
      exact Nat.le_add_right _ _

theorem allocated_le_after (heap : DescriptorHeap) (calls : List HeapCall) :
    heap.allocated ≤ (heap.after calls).allocated := by
  induction calls generalizing heap with
  | nil => exact Nat.le_refl _
  | cons each rest inductionHypothesis =>
      exact Nat.le_trans (heap.reacts_call each).allocated_le
        (inductionHypothesis (heap.call each).1)

/-! ## The laws of the heap -/

/-- A request is refused exactly when it reaches beyond the heap, and then it changes nothing. -/
theorem Reacts.of_allocate {count : Nat} (reacts : heap.Reacts (.allocate count) later answer) :
    ((∃ error, answer = .error error) ↔ heap.capacity < heap.allocated + count) ∧
      ∀ error, answer = .error error → later = heap := by
  cases reacts with
  | allocated fits =>
      refine ⟨iff_of_false ?_ (Nat.not_lt.mpr fits), ?_⟩
      · rintro ⟨error, refused⟩
        cases refused
      · intro error refused
        cases refused
  | exhausted asks beyond =>
      cases asks
      exact ⟨iff_of_true ⟨_, rfl⟩ beyond, fun _ _ => rfl⟩

/-- A write succeeds exactly in a place of the heap that nothing was written to, and else it
changes nothing. -/
theorem Reacts.of_write {index : Nat} {buffer : Buffer}
    (reacts : heap.Reacts (.write index buffer) later answer) :
    (answer = .ok none ↔ index < heap.capacity ∧ heap.get? index = none) ∧
      (answer = .ok none → later.get? index = some buffer) ∧
        ∀ error, answer = .error error → later = heap := by
  cases reacts with
  | exhausted asks => cases asks
  | written free =>
      refine ⟨iff_of_true rfl free, fun _ => by simp [get?], ?_⟩
      intro error refused
      cases refused
  | refused taken =>
      refine ⟨iff_of_false ?_ taken, ?_, fun _ _ => rfl⟩
      · intro accepted
        cases accepted
      · intro accepted
        cases accepted

/-- The places of a publication resolve to what was published, at once. -/
theorem Reacts.of_publish (word : heap.capacity < wordBound) {buffers : List Buffer}
    {range : DescriptorRange}
    (reacts : heap.Reacts (.publish buffers) later (.ok (some range))) :
    later.resolve range = .ok buffers := by
  cases reacts with
  | published fits allocated resolved =>
      rw [resolve, DescriptorRange.end?, if_pos (Nat.lt_of_le_of_lt fits word)]
      exact resolved

/-- The laws of a heap that calls have led to. -/
structure Regular (size : Nat) (calls : List HeapCall) (heap : DescriptorHeap) : Prop where
  sized : heap.capacity = size
  /-- The number of places handed out never decreases and stays within the capacity. -/
  bounded : heap.allocated ≤ size
  monotone : ∀ more, heap.allocated ≤ (heap.after more).allocated
  /-- The ranges handed out lie one behind the other among the places handed out. -/
  ordered : (handedOut ((new size).transcript calls)).Pairwise fun first second =>
    first.start + first.count ≤ second.start
  inside : ∀ range ∈ handedOut ((new size).transcript calls),
    range.start + range.count ≤ heap.allocated
  /-- They leave out no place as long as no publication came upon a place that was written. -/
  tiled : Covered (handedOut ((new size).transcript calls)) heap.allocated ↔
    Unhindered ((new size).transcript calls)
  /-- Places are refused exactly when too few are left, and a refusal changes nothing. -/
  exhausted : ∀ count, (∃ error, (heap.call (.allocate count)).2 = .error error) ↔
    size < heap.allocated + count
  unallocated : ∀ count error, (heap.call (.allocate count)).2 = .error error →
    (heap.call (.allocate count)).1 = heap
  /-- Places are written once, within the capacity, and a refused write changes nothing. -/
  writable : ∀ index buffer, (heap.call (.write index buffer)).2 = .ok none ↔
    index < size ∧ heap.get? index = none
  present : ∀ index buffer, (heap.call (.write index buffer)).2 = .ok none →
    (heap.call (.write index buffer)).1.get? index = some buffer
  unwritten : ∀ index buffer error, (heap.call (.write index buffer)).2 = .error error →
    (heap.call (.write index buffer)).1 = heap
  /-- A place keeps its buffer, and a range that resolves keeps its buffers. -/
  lasting : ∀ index buffer, heap.get? index = some buffer →
    ∀ more, (heap.after more).get? index = some buffer
  resolved : ∀ range buffers, heap.resolve range = .ok buffers →
    ∀ more, (heap.after more).resolve range = .ok buffers
  /-- A range that a publication returns resolves to what was published, from then on. -/
  published : ∀ buffers range, (heap.call (.publish buffers)).2 = .ok (some range) →
    ∀ more, (heap.after (.publish buffers :: more)).resolve range = .ok buffers

/-- Whatever is called on a new heap, and whether it succeeds or not, the heap obeys its laws. -/
theorem regular_of_calls {size : Nat} (word : size < wordBound) (calls : List HeapCall) :
    Regular size calls ((new size).after calls) := by
  have accounted := accounted_after size calls
  have sized : ((new size).after calls).capacity = size :=
    ((new size).grows_after calls).capacity
  revert accounted sized
  generalize (new size).after calls = heap
  intro accounted sized
  subst sized
  refine
    { sized := rfl
      bounded := accounted.bounded
      monotone := heap.allocated_le_after
      ordered := accounted.ordered
      inside := accounted.inside
      tiled := accounted.tiled
      exhausted := fun count => (heap.reacts_call (.allocate count)).of_allocate.1
      unallocated := fun count => (heap.reacts_call (.allocate count)).of_allocate.2
      writable := fun index buffer => (heap.reacts_call (.write index buffer)).of_write.1
      present := fun index buffer => (heap.reacts_call (.write index buffer)).of_write.2.1
      unwritten := fun index buffer => (heap.reacts_call (.write index buffer)).of_write.2.2
      lasting := fun index buffer found more => (heap.grows_after more).written index buffer found
      resolved := fun range buffers found more => (heap.grows_after more).resolve found
      published := ?_ }
  intro buffers range published more
  have reacts := heap.reacts_call (.publish buffers)
  rw [published] at reacts
  exact (((heap.call (.publish buffers)).1).grows_after more).resolve (reacts.of_publish word)

/-- The second publication comes upon the place that was written by hand, and the places that it
was given are not handed out again. -/
theorem regular_of_calls_hindered :
    let buffer (storage : Nat) : Buffer := ⟨storage, 4⟩
    let calls : List HeapCall := [.write 3 (buffer 0), .publish [buffer 1, buffer 2],
      .publish [buffer 1, buffer 2], .allocate 2]
    8 < wordBound ∧
      handedOut ((new 8).transcript calls) = [⟨0, 2⟩, ⟨4, 2⟩] ∧
      Regular 8 calls ((new 8).after calls) :=
  ⟨by decide, by decide, regular_of_calls (by decide) _⟩

end DescriptorHeap

end CommandQueue
