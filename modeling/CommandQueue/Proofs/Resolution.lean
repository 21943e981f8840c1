import CommandQueue.Proofs.Descriptors
import CommandQueue.Proofs.Lifecycle

/-!
# Ranges that are bound and ranges that are resolved

A list that binds a range compares its end with the capacity of the heap, and no
place is looked up.  A queue that resolves the range looks up one place after
the other, and stops at the first one that has no buffer.  Once all places are
written the two checks agree, save for empty ranges: they are resolved wherever
they start.
-/

namespace CommandQueue

namespace DescriptorHeap

variable {heap : DescriptorHeap} {range : DescriptorRange} {index start count : Nat}

/-! ## Resolving place by place -/

/-- The place lies inside the heap, and something was written to it. -/
def Provides (heap : DescriptorHeap) (index : Nat) : Prop :=
  index < heap.capacity ∧ (heap.get? index).isSome = true

/-- The error of a place without a buffer. -/
def refusal (heap : DescriptorHeap) (index : Nat) : Error :=
  if heap.capacity ≤ index then .descriptorOutOfRange index heap.capacity
  else .descriptorUnwritten index

/-- The first of some places in a row that has no buffer. -/
structure FirstGap (heap : DescriptorHeap) (start count index : Nat) : Prop where
  after : start ≤ index
  before : index < start + count
  missing : ¬ heap.Provides index
  earlier : ∀ place, start ≤ place → place < index → heap.Provides place

/-- What a heap answers for a range. -/
structure Resolves (heap : DescriptorHeap) (range : DescriptorRange) : Prop where
  succeeds_iff : (∃ buffers, heap.resolve range = .ok buffers) ↔
    range.start + range.count < wordBound ∧
      ∀ index, range.start ≤ index → index < range.start + range.count → heap.Provides index
  inOrder : ∀ buffers, heap.resolve range = .ok buffers →
    buffers.map some = (List.range' range.start range.count).map heap.get?
  overflow : wordBound ≤ range.start + range.count →
    heap.resolve range = .error (.descriptorOutOfRange (wordBound - 1) heap.capacity)
  first : range.start + range.count < wordBound → ∀ error, heap.resolve range = .error error →
    ∃ index, heap.FirstGap range.start range.count index ∧ error = heap.refusal index

theorem resolveAt_of_provides (provides : heap.Provides index) :
    ∃ buffer, heap.get? index = some buffer ∧ heap.resolveAt index = .ok buffer := by
  obtain ⟨inside, present⟩ := provides
  obtain ⟨buffer, found⟩ := Option.isSome_iff_exists.mp present
  refine ⟨buffer, found, ?_⟩
  simp [resolveAt, Nat.not_le.mpr inside, found]

theorem resolveAt_of_not_provides (missing : ¬ heap.Provides index) :
    heap.resolveAt index = .error (heap.refusal index) := by
  by_cases beyond : heap.capacity ≤ index
  · simp [resolveAt, refusal, beyond]
  · have unwritten : heap.get? index = none := by
      by_contra written
      exact missing ⟨Nat.lt_of_not_le beyond, Option.isSome_iff_ne_none.mpr written⟩
    simp [resolveAt, refusal, beyond, unwritten]

theorem FirstGap.succ (provides : heap.Provides start)
    (gap : heap.FirstGap (start + 1) count index) : heap.FirstGap start (count + 1) index := by
  have after := gap.after
  have before := gap.before
  refine ⟨by omega, by omega, gap.missing, ?_⟩
  intro place starts below
  rcases Nat.eq_or_lt_of_le starts with rfl | later
  · exact provides
  · exact gap.earlier place later below

/-- Places in a row give their buffers in order, or the error of the first one without a buffer. -/
theorem resolveFrom_cases (heap : DescriptorHeap) (start count : Nat) :
    ((∀ index, start ≤ index → index < start + count → heap.Provides index) ∧
        ∃ buffers, heap.resolveFrom start count = .ok buffers ∧
          buffers.map some = (List.range' start count).map heap.get?) ∨
      ∃ index, heap.FirstGap start count index ∧
        heap.resolveFrom start count = .error (heap.refusal index) := by
  induction count generalizing start with
  | zero =>
      refine Or.inl ⟨?_, [], rfl, rfl⟩
      intro index after before
      omega
  | succ count inductionHypothesis =>
      by_cases provides : heap.Provides start
      · obtain ⟨buffer, found, resolved⟩ := resolveAt_of_provides provides
        rcases inductionHypothesis (start + 1) with
          ⟨others, buffers, rest, inOrder⟩ | ⟨index, gap, refused⟩
        · refine Or.inl ⟨?_, buffer :: buffers, ?_, ?_⟩
          · intro index after before
            rcases Nat.eq_or_lt_of_le after with rfl | later
            · exact provides
            · exact others index later (by omega)
          · simp [resolveFrom, resolved, rest]
          · simp [List.range'_succ, found, inOrder]
        · refine Or.inr ⟨index, gap.succ provides, ?_⟩
          simp [resolveFrom, resolved, refused]
      · refine Or.inr ⟨start, ⟨Nat.le_refl _, by omega, provides, by omega⟩, ?_⟩
        simp [resolveFrom, resolveAt_of_not_provides provides]

/-- A range is resolved place by place, unless it ends beyond the words. -/
theorem resolves (heap : DescriptorHeap) (range : DescriptorRange) : heap.Resolves range := by
  by_cases word : range.start + range.count < wordBound
  · have same : heap.resolve range = heap.resolveFrom range.start range.count := by
      simp [resolve, DescriptorRange.end?, word]
    rcases heap.resolveFrom_cases range.start range.count with
      ⟨provided, buffers, resolved, inOrder⟩ | ⟨index, gap, refused⟩
    · rw [← same] at resolved
      refine ⟨iff_of_true ⟨buffers, resolved⟩ ⟨word, provided⟩, ?_, by omega, ?_⟩
      · simpa [resolved] using inOrder
      · simp [resolved]
    · rw [← same] at refused
      refine ⟨iff_of_false ?_ ?_, ?_, by omega, ?_⟩
      · simp [refused]
      · exact fun both => gap.missing (both.2 index gap.after gap.before)
      · simp [refused]
      · intro _ error failed
        cases refused.symm.trans failed
        exact ⟨index, gap, rfl⟩
  · have refused : heap.resolve range =
        .error (.descriptorOutOfRange (wordBound - 1) heap.capacity) := by
      simp [resolve, DescriptorRange.end?, word]
    refine ⟨iff_of_false ?_ fun both => word both.1, ?_, fun _ => refused, ?_⟩
    · simp [refused]
    · simp [refused]
    · exact fun inside => absurd inside word

/-! ## Heaps with all places written -/

/-- Something was written to every place of the heap. -/
def Full (heap : DescriptorHeap) : Prop := ∀ index < heap.capacity, heap.Provides index

/-- Write a buffer to every place; places that are taken refuse it. -/
def filling (heap : DescriptorHeap) (buffer : Buffer) : List HeapCall :=
  (List.range heap.capacity).map fun index => .write index buffer

theorem provides_write (inside : index < heap.capacity) (buffer : Buffer) :
    (heap.call (.write index buffer)).1.Provides index := by
  rw [call]
  cases written : heap.write index buffer with
  | ok next =>
      refine ⟨?_, ?_⟩
      · rw [(write_eq_ok_iff.mp written).2]
        exact inside
      · simp [get?_of_write written]
  | error error =>
      refine ⟨inside, ?_⟩
      by_contra unwritten
      have free : heap.get? index = none := by simpa using unwritten
      obtain ⟨next, accepted⟩ := (heap.write_isOk_iff index buffer).mpr ⟨inside, free⟩
      rw [written] at accepted
      cases accepted

theorem Grows.provides {before after : DescriptorHeap} (grows : before.Grows after)
    (provides : before.Provides index) : after.Provides index := by
  obtain ⟨inside, present⟩ := provides
  obtain ⟨buffer, found⟩ := Option.isSome_iff_exists.mp present
  refine ⟨?_, ?_⟩
  · rw [grows.capacity]
    exact inside
  · rw [grows.written index buffer found]
    rfl

theorem provides_after_writes (heap : DescriptorHeap) (buffer : Buffer) (places : List Nat) :
    ∀ index ∈ places, index < heap.capacity →
      (heap.after (places.map fun index => .write index buffer)).Provides index := by
  induction places generalizing heap with
  | nil => simp
  | cons place rest inductionHypothesis =>
      intro index member inside
      let next := (heap.call (.write place buffer)).1
      rcases List.mem_cons.mp member with rfl | later
      · exact (next.grows_after _).provides (provides_write inside buffer)
      · refine inductionHypothesis next index later ?_
        rw [(heap.grows_call _).capacity]
        exact inside

theorem full_after_filling (heap : DescriptorHeap) (buffer : Buffer) :
    (heap.after (heap.filling buffer)).Full := by
  intro index inside
  rw [(heap.grows_after _).capacity] at inside
  exact heap.provides_after_writes buffer _ index (List.mem_range.mpr inside) inside

/-- In a full heap a range is resolved whose end passes the check of the lists. -/
theorem Full.resolves_iff (full : heap.Full) (nonempty : 0 < range.count) :
    (∃ buffers, heap.resolve range = .ok buffers) ↔
      range.start + range.count < wordBound ∧ range.start + range.count ≤ heap.capacity := by
  rw [(heap.resolves range).succeeds_iff]
  refine and_congr_right fun _ => ?_
  constructor
  · intro provided
    have last := (provided (range.start + range.count - 1) (by omega) (by omega)).1
    omega
  · intro inside index _ before
    exact full index (by omega)

end DescriptorHeap

/-! ## Binding and resolving -/

namespace World

variable {σ : Type} [Queue σ] {moves : Clocked σ → Clocked σ → Prop} {start world : World σ}

/-- Open lists bind the ranges that are resolved once all places of the heap are written, and
all places can be written. -/
structure BindsResolvable (world : World σ) : Prop where
  fillable : ∀ buffer, (world.device.heap.after (world.device.heap.filling buffer)).Full
  agrees : ∀ list ∈ world.lists, list.state = .opened → list.category = .compute →
    ∀ slot < tableSlots, ∀ range : DescriptorRange, 0 < range.count →
      ∀ calls, (world.device.heap.after calls).Full →
        ((∃ next, list.record (.bindTable slot range) = .ok next) ↔
          ∃ buffers, (world.device.heap.after calls).resolve range = .ok buffers)

/-- Heaps resolve ranges place by place, and in every world of a run the lists bind what their
heap can come to resolve. -/
theorem resolution_of_leads (begun : start.Begins) (leads : Leads moves start world) :
    (∀ (heap : DescriptorHeap) (range : DescriptorRange), heap.Resolves range) ∧
      world.BindsResolvable := by
  have admitted := Leads.forall_lists (CommandList.lasting_admitted _ _) begun leads
  have replayed := Leads.forall_lists (CommandList.lasting_replay _ _) begun leads
  have capacity := (Leads.fixed begun leads).2
  refine ⟨DescriptorHeap.resolves, world.device.heap.full_after_filling, ?_⟩
  intro list member opened compute slot present range nonempty calls full
  have slots : list.bindings.tables.length = tableSlots := by
    rw [replayed list member, Bindings.length_tables_replay]
  have accepts := ((admitted list member).answers slots (.bindTable slot range)).accepts_iff
  have sameCapacity : (world.device.heap.after calls).capacity = start.device.heap.capacity :=
    (world.device.heap.grows_after calls).capacity.trans capacity
  rw [accepts, full.resolves_iff nonempty, sameCapacity]
  constructor
  · rintro ⟨_, _, _, word, inside⟩
    exact ⟨word, inside⟩
  · rintro ⟨word, inside⟩
    exact ⟨opened, compute, present, word, inside⟩

/-- The first compute list of a small device. -/
theorem resolution_of_leads_firstCompute :
    let start := small (SoftQueue.new SoftQueue.defaultLabel)
    let world := start.openList .compute
    start.Begins ∧ Leads SoftQueue.Runs start world ∧ world.lists = [firstCompute] ∧
      (∀ (heap : DescriptorHeap) (range : DescriptorRange), heap.Resolves range) ∧
        world.BindsResolvable := by
  intro start world
  have leads : Leads SoftQueue.Runs start world :=
    Relation.ReflTransGen.single (Step.opens start .compute)
  exact ⟨begins_soft, leads, rfl, resolution_of_leads begins_soft leads⟩

end World

end CommandQueue
