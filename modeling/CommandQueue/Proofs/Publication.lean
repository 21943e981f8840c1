import CommandQueue.Proofs.Descriptors

/-!
# What a publication leaves behind

A publication takes the next places and then writes its buffers to them one by
one.  Places ahead of those handed out can be written directly, and such a place
stops a publication that comes upon it: its places stay taken, and the buffers
that it wrote before stay written.  Of all ends that a publication can come to
(`DescriptorHeap.Publishes`) this is the only failure that leaves a trace
(`DescriptorHeap.traceless_iff`).
-/

namespace CommandQueue

namespace DescriptorHeap

variable {heap after : DescriptorHeap} {buffers : List Buffer}

/-- Something was written to one of the places that a publication would take. -/
structure Hinders (heap : DescriptorHeap) (buffers : List Buffer) : Prop where
  fits : heap.allocated + buffers.length ≤ heap.capacity
  taken : ∃ offset < buffers.length, (heap.get? (heap.allocated + offset)).isSome = true

/-- If the publication fails, the heap is as before. -/
def Traceless (heap : DescriptorHeap) (buffers : List Buffer) : Prop :=
  ∀ error, (heap.publish buffers).2 = .error error →
    (heap.publish buffers).1.allocated = heap.allocated ∧
      ∀ index, (heap.publish buffers).1.get? index = heap.get? index

theorem traceless_iff (heap : DescriptorHeap) (buffers : List Buffer) :
    heap.Traceless buffers ↔ ¬ heap.Hinders buffers := by
  have publishes := heap.publishes_publish buffers
  unfold Traceless
  generalize heap.publish buffers = outcome at publishes
  obtain ⟨after, result⟩ := outcome
  dsimp only at publishes ⊢
  cases publishes with
  | exhausted beyond =>
      refine iff_of_true (fun _ _ => ⟨rfl, fun _ => rfl⟩) fun hinders => ?_
      exact Nat.not_lt.mpr hinders.fits beyond
  | published fits free filled =>
      refine iff_of_true nofun fun hinders => ?_
      obtain ⟨offset, before, taken⟩ := hinders.taken
      rw [free offset before] at taken
      cases taken
  | hindered fits first filled =>
      refine iff_of_false (fun traceless => ?_) fun unhindered => ?_
      · have same := (traceless _ rfl).1
        have grown : after.allocated = heap.allocated + buffers.length := filled.allocated
        have before := first.before
        omega
      · exact unhindered ⟨fits, _, first.before, first.taken⟩

/-- What is known of a publication on a heap that has handed out some ranges. -/
structure Publication (heap : DescriptorHeap) (ranges : List DescriptorRange)
    (buffers : List Buffer) : Prop where
  publishes : heap.Publishes buffers (heap.publish buffers).1 (heap.publish buffers).2
  fresh : ∀ range, (heap.publish buffers).2 = .ok range →
    ∀ earlier ∈ ranges, earlier.start + earlier.count ≤ range.start
  traceless_iff : heap.Traceless buffers ↔ ¬ heap.Hinders buffers

theorem Publishes.start_of_ok {range : DescriptorRange}
    (publishes : heap.Publishes buffers after (.ok range)) : range.start = heap.allocated := by
  cases publishes with
  | published fits free filled => rfl

/-- After any calls a publication returns a new range with its buffers, or it fails and leaves no
trace, unless a place of its range was written before.  Then its range stays taken, and the
buffers before that place stay written. -/
theorem publication_of_calls (size : Nat) (calls : List HeapCall) (buffers : List Buffer) :
    ((new size).after calls).Publication (handedOut ((new size).transcript calls)) buffers := by
  have accounted := accounted_after size calls
  generalize (new size).after calls = heap at accounted
  have publishes := heap.publishes_publish buffers
  refine ⟨publishes, ?_, heap.traceless_iff buffers⟩
  intro range published earlier member
  rw [published] at publishes
  rw [publishes.start_of_ok]
  exact accounted.inside earlier member

/-- The second of four places was written directly.  A publication of two buffers comes upon it:
it fails, but both places stay taken, and the first buffer stays written. -/
theorem publish_halfway :
    let buffer (storage : Nat) : Buffer := ⟨storage, 4⟩
    let heap := (new 4).after [.write 1 (buffer 1)]
    (heap.allocated, heap.get? 0) = (0, none) ∧
      (heap.publish [buffer 0, buffer 2]).2 = .error (.descriptorAlreadyWritten 1) ∧
      (heap.publish [buffer 0, buffer 2]).1.allocated = 2 ∧
      (heap.publish [buffer 0, buffer 2]).1.get? 0 = some (buffer 0) ∧
      ¬ heap.Traceless [buffer 0, buffer 2] := by
  intro buffer heap
  have refused : (heap.publish [buffer 0, buffer 2]).2 = .error (.descriptorAlreadyWritten 1) :=
    rfl
  refine ⟨rfl, refused, rfl, rfl, ?_⟩
  intro traceless
  exact absurd (traceless _ refused).1 (by decide)

end DescriptorHeap

end CommandQueue
