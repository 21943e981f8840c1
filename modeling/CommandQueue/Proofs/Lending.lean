import CommandQueue.Pool
import Mathlib.Data.List.Nodup

/-!
# Lending and taking back allocators

`Pool.Lends` and `Pool.Creates` list everything that a request for an allocator
can do to a pool.  All later arguments about opening lists go by these cases.
-/

namespace CommandQueue

/-- What comes back to a pool when an allocator is released under a stamp. -/
def Allocator.givenBack (allocator : Allocator) (stamp : FenceValue) (held : ListId → Bool) :
    Allocator :=
  if allocator.inFlight held then { allocator with stamp := stamp }
  else { allocator with stamp := stamp }.cleared

namespace Allocator

variable (allocator : Allocator) (stamp : FenceValue) (held : ListId → Bool)

@[simp]
theorem id_givenBack : (allocator.givenBack stamp held).id = allocator.id := by
  unfold givenBack
  split <;> rfl

@[simp]
theorem stamp_givenBack : (allocator.givenBack stamp held).stamp = stamp := by
  unfold givenBack
  split <;> rfl

theorem givenBack_of_frozenBy {allocator : Allocator} {stamp : FenceValue}
    {held : ListId → Bool} {list : ListId}
    (frozen : (allocator.givenBack stamp held).frozenBy = some list) :
    allocator.frozenBy = some list ∧
      allocator.givenBack stamp held = { allocator with stamp := stamp } := by
  unfold givenBack at frozen ⊢
  split at frozen
  · rename_i busy
    exact ⟨frozen, if_pos busy⟩
  · cases frozen

/-- A recording that the queue still refers to is given back as it is. -/
theorem givenBack_of_held {allocator : Allocator} {held : ListId → Bool} {list : ListId}
    (stamp : FenceValue) (frozen : allocator.frozenBy = some list) (busy : held list = true) :
    allocator.givenBack stamp held = { allocator with stamp := stamp } := by
  have inFlight : allocator.inFlight held = true := by
    rw [inFlight, frozen]
    exact busy
  exact if_pos inFlight

end Allocator

namespace Pool

/-- What a request to create an allocator does. -/
inductive Creates (pool : Pool) : Pool → Except Error Allocator → Prop
  | created (room : pool.full = false) (stored : pool.storageProblem? = none) :
      Creates pool
        { pool with live := pool.live + 1, nextSerial := pool.nextSerial + 1 }
        (.ok (Allocator.new ⟨pool.category, pool.nextSerial⟩))
  | full (full : pool.full = true) :
      Creates pool pool (.error (.resourceExhausted pool.category pool.live limitReason))
  | unstored {reason : String} (room : pool.full = false)
      (problem : pool.storageProblem? = some reason) :
      Creates pool { pool with nextSerial := pool.nextSerial + 1 }
        (.error (.resourceExhausted pool.category pool.live reason))

/-- What a request for an allocator does: the first idle one whose stamp is completed is lent, or
goes to the back if the queue still refers to its recording; without one, a new one is created. -/
inductive Lends (pool : Pool) (completed : FenceValue) (held : ListId → Bool) :
    Pool → Except Error Allocator → Prop
  | reused {front back : List Allocator} {allocator : Allocator}
      (shape : pool.free = front ++ allocator :: back)
      (skipped : ∀ each ∈ front, completed < each.stamp)
      (reached : allocator.stamp ≤ completed)
      (idle : allocator.inFlight held = false) :
      Lends pool completed held { pool with free := front ++ back } (.ok allocator.cleared)
  | stuck {front back : List Allocator} {allocator : Allocator}
      (shape : pool.free = front ++ allocator :: back)
      (skipped : ∀ each ∈ front, completed < each.stamp)
      (reached : allocator.stamp ≤ completed)
      (busy : allocator.inFlight held = true) :
      Lends pool completed held { pool with free := front ++ back ++ [allocator] }
        (.error (.allocatorInFlight allocator.id allocator.stamp))
  | missed {next : Pool} {result : Except Error Allocator}
      (skipped : ∀ each ∈ pool.free, completed < each.stamp)
      (creates : Creates pool next result) :
      Lends pool completed held next result

theorem creates_create (pool : Pool) : Creates pool pool.create.state pool.create.result := by
  unfold create
  by_cases full : pool.full = true
  · simpa [full, Outcome.refused] using Creates.full full
  · have room : pool.full = false := by simpa using full
    rw [if_neg full]
    cases problem : pool.storageProblem? with
    | none => exact Creates.created room problem
    | some reason => exact Creates.unstored room problem

theorem not_eligible_iff {completed : FenceValue} {allocator : Allocator} :
    ¬ eligible completed allocator = true ↔ completed < allocator.stamp := by
  simp [eligible]

/-- The allocator is the first one whose stamp is completed. -/
structure First (completed : FenceValue) (front : List Allocator) (allocator : Allocator) :
    Prop where
  skipped : ∀ each ∈ front, completed < each.stamp
  reached : allocator.stamp ≤ completed

section First

variable {pool : Pool} {completed : FenceValue} {held : ListId → Bool}
  {front back : List Allocator} {allocator : Allocator}

theorem First.find? (first : First completed front allocator) :
    (front ++ allocator :: back).find? (eligible completed) = some allocator := by
  rw [List.find?_eq_some_iff_append]
  refine ⟨by simpa [eligible] using first.reached, front, back, rfl, ?_⟩
  intro each member
  simpa [eligible] using first.skipped each member

theorem First.eraseP (first : First completed front allocator) :
    (front ++ allocator :: back).eraseP (eligible completed) = front ++ back := by
  have suits : eligible completed allocator = true := by simpa [eligible] using first.reached
  rw [List.eraseP_append_right _ ?_, List.eraseP_cons_of_pos suits]
  exact fun each member => not_eligible_iff.mpr (first.skipped each member)

theorem acquire_of_idle (shape : pool.free = front ++ allocator :: back)
    (first : First completed front allocator) (idle : allocator.inFlight held = false) :
    (pool.acquire completed held).result = .ok allocator.cleared ∧
      (pool.acquire completed held).state = { pool with free := front ++ back } := by
  rw [acquire, shape, first.find?, first.eraseP]
  simp [Allocator.reset, idle, Outcome.done]

theorem acquire_of_busy (shape : pool.free = front ++ allocator :: back)
    (first : First completed front allocator) (busy : allocator.inFlight held = true) :
    (pool.acquire completed held).result =
        .error (.allocatorInFlight allocator.id allocator.stamp) ∧
      (pool.acquire completed held).state =
        { pool with free := front ++ back ++ [allocator] } := by
  rw [acquire, shape, first.find?, first.eraseP]
  simp [Allocator.reset, busy, Outcome.refused, putBack]

theorem acquire_of_none (skipped : ∀ each ∈ pool.free, completed < each.stamp) :
    pool.acquire completed held = pool.create := by
  have none : pool.free.find? (eligible completed) = none := by
    rw [List.find?_eq_none]
    exact fun each member => not_eligible_iff.mpr (skipped each member)
  rw [acquire, none]

end First

theorem lends_acquire (pool : Pool) (completed : FenceValue) (held : ListId → Bool) :
    Lends pool completed held (pool.acquire completed held).state
      (pool.acquire completed held).result := by
  cases found : pool.free.find? (eligible completed) with
  | none =>
      have skipped : ∀ each ∈ pool.free, completed < each.stamp := fun each member =>
        not_eligible_iff.mp (List.find?_eq_none.mp found each member)
      rw [acquire_of_none skipped]
      exact Lends.missed skipped pool.creates_create
  | some allocator =>
      obtain ⟨suits, front, back, shape, others⟩ := List.find?_eq_some_iff_append.mp found
      have first : First completed front allocator := by
        refine ⟨?_, by simpa [eligible] using suits⟩
        intro each member
        simpa [eligible] using others each member
      cases flight : allocator.inFlight held with
      | true =>
          obtain ⟨refused, left⟩ := acquire_of_busy shape first flight
          rw [refused, left]
          exact Lends.stuck shape first.skipped first.reached flight
      | false =>
          obtain ⟨granted, left⟩ := acquire_of_idle shape first flight
          rw [granted, left]
          exact Lends.reused shape first.skipped first.reached flight

theorem release_fst (pool : Pool) (allocator : Allocator) (stamp : FenceValue)
    (held : ListId → Bool) :
    (pool.release allocator stamp held).1 = pool.putBack (allocator.givenBack stamp held) := by
  have flight :
      ({ allocator with stamp := stamp } : Allocator).inFlight held =
        allocator.inFlight held := rfl
  unfold release Allocator.reset Allocator.givenBack
  by_cases busy : allocator.inFlight held = true
  · simp [flight, busy]
  · simp [flight, busy]

/-- The same allocators in some order, and the same counts; serials may have been used up. -/
structure Rearranged (pool next : Pool) : Prop where
  free : next.free.Perm pool.free
  live : next.live = pool.live
  category : next.category = pool.category
  limit : next.limit = pool.limit
  serial : pool.nextSerial ≤ next.nextSerial

/-- A refused request leaves all allocators where they are. -/
theorem Lends.rearranged {pool next : Pool} {completed : FenceValue} {held : ListId → Bool}
    {error : Error} (lends : Lends pool completed held next (.error error)) :
    Rearranged pool next := by
  cases lends with
  | @stuck front back allocator shape skipped reached busy =>
      refine ⟨?_, rfl, rfl, rfl, Nat.le_refl _⟩
      rw [shape, List.append_assoc]
      exact List.Perm.append_left front (List.perm_append_singleton allocator back)
  | missed skipped creates =>
      cases creates with
      | full full => exact ⟨List.Perm.refl _, rfl, rfl, rfl, Nat.le_refl _⟩
      | unstored room problem => exact ⟨List.Perm.refl _, rfl, rfl, rfl, Nat.le_succ _⟩

/-- Lending takes at most the lent allocator away from the idle ones, and the allocators in use
become one more. -/
structure Lent (pool next : Pool) : Prop where
  category : next.category = pool.category
  limit : next.limit = pool.limit
  kept : next.free.Sublist pool.free
  balance : next.live + pool.free.length = pool.live + next.free.length + 1
  serial : pool.nextSerial ≤ next.nextSerial

theorem Lends.lent {pool next : Pool} {completed : FenceValue} {held : ListId → Bool}
    {allocator : Allocator} (lends : Lends pool completed held next (.ok allocator)) :
    Lent pool next := by
  cases lends with
  | @reused front back idle shape skipped reached free =>
      refine ⟨rfl, rfl, ?_, ?_, Nat.le_refl _⟩
      · rw [shape]
        exact (List.sublist_cons_self idle back).append_left front
      · simp only [shape, List.length_append, List.length_cons]
        omega
  | missed skipped creates =>
      cases creates with
      | created room stored =>
          refine ⟨rfl, rfl, List.Sublist.refl _, ?_, Nat.le_succ _⟩
          dsimp only
          omega

/-- A request does not fail for an allocator in use, if no idle one that suits is in use. -/
theorem Lends.not_stuck {pool next : Pool} {completed : FenceValue} {held : ListId → Bool}
    {id : AllocatorId} {stamp : FenceValue}
    (free : ∀ allocator ∈ pool.free, allocator.stamp ≤ completed →
      allocator.inFlight held = false)
    (lends : Lends pool completed held next (.error (.allocatorInFlight id stamp))) :
    False := by
  cases lends with
  | @stuck front back allocator shape skipped reached busy =>
      have member : allocator ∈ pool.free := by
        rw [shape]
        exact List.mem_append_right front List.mem_cons_self
      rw [free allocator member reached] at busy
      cases busy
  | missed skipped creates => cases creates

/-- Nothing is recorded or frozen in an allocator that is lent. -/
theorem Lends.cleared {pool next : Pool} {completed : FenceValue} {held : ListId → Bool}
    {allocator : Allocator} (lends : Lends pool completed held next (.ok allocator)) :
    allocator.cleared = allocator := by
  cases lends with
  | reused shape skipped reached free => rfl
  | missed skipped creates =>
      cases creates with
      | created room stored => rfl

theorem Rearranged.refl (pool : Pool) : Rearranged pool pool :=
  ⟨List.Perm.refl _, rfl, rfl, rfl, Nat.le_refl _⟩

theorem full_eq_false_iff (pool : Pool) :
    pool.full = false ↔ ∀ most, pool.limit = some most → pool.live < most := by
  cases limited : pool.limit with
  | none => simp [full, limited]
  | some most => simp [full, limited]

/-- A pool from which nothing was lent yet. -/
structure Untouched (pool : Pool) : Prop where
  fresh : ∀ allocator ∈ pool.free, allocator = Allocator.new allocator.id
  sorted : ∀ allocator ∈ pool.free, allocator.category = pool.category
  serials : ∀ allocator ∈ pool.free, allocator.id.serial < pool.nextSerial
  distinct : (pool.free.map Allocator.id).Nodup
  counted : pool.live = pool.free.length
  bounded : ∀ most, pool.limit = some most → pool.live ≤ most

theorem Untouched.new (category : Category) (limit : Option Nat)
    (initialCapacity commandWidth : Nat) :
    (Pool.new category limit initialCapacity commandWidth).Untouched := by
  refine ⟨?_, ?_, ?_, List.nodup_nil, rfl, ?_⟩
  · simp [Pool.new]
  · simp [Pool.new]
  · simp [Pool.new]
  · intro most _
    exact Nat.zero_le most

theorem Untouched.putBack_created {pool : Pool} (untouched : pool.Untouched)
    (room : pool.full = false) :
    ({ pool with live := pool.live + 1, nextSerial := pool.nextSerial + 1 }.putBack
      (Allocator.new ⟨pool.category, pool.nextSerial⟩)).Untouched := by
  refine ⟨?_, ?_, ?_, ?_, ?_, ?_⟩
  · intro allocator member
    rcases List.mem_append.mp member with earlier | new
    · exact untouched.fresh allocator earlier
    · rw [List.mem_singleton.mp new]
      rfl
  · intro allocator member
    rcases List.mem_append.mp member with earlier | new
    · exact untouched.sorted allocator earlier
    · rw [List.mem_singleton.mp new]
      rfl
  · intro allocator member
    rcases List.mem_append.mp member with earlier | new
    · exact Nat.lt_succ_of_lt (untouched.serials allocator earlier)
    · rw [List.mem_singleton.mp new]
      exact Nat.lt_succ_self _
  · rw [free_putBack, List.map_append, List.nodup_append]
    refine ⟨untouched.distinct, List.nodup_singleton _, ?_⟩
    intro id earlier new newMember equal
    obtain ⟨allocator, member, rfl⟩ := List.mem_map.mp earlier
    have serial := untouched.serials allocator member
    rw [equal, List.mem_singleton.mp newMember] at serial
    exact Nat.lt_irrefl _ serial
  · simpa [putBack] using untouched.counted
  · intro most limited
    exact pool.full_eq_false_iff.mp room most limited

theorem Untouched.prewarm {pool : Pool} (untouched : pool.Untouched) (count : Nat) :
    (pool.prewarm count).state.Untouched ∧
      (pool.prewarm count).state.category = pool.category ∧
      (pool.prewarm count).state.limit = pool.limit := by
  induction count generalizing pool with
  | zero => exact ⟨untouched, rfl, rfl⟩
  | succ count inductionHypothesis =>
      have creates := pool.creates_create
      rw [Pool.prewarm, Outcome.andThen]
      generalize pool.create = created at creates ⊢
      obtain ⟨next, result, events⟩ := created
      dsimp only at creates ⊢
      cases creates with
      | created room stored => exact inductionHypothesis (untouched.putBack_created room)
      | full full => exact ⟨untouched, rfl, rfl⟩
      | unstored room problem =>
          refine ⟨⟨untouched.fresh, untouched.sorted, ?_, untouched.distinct,
            untouched.counted, untouched.bounded⟩, rfl, rfl⟩
          intro allocator member
          exact Nat.lt_succ_of_lt (untouched.serials allocator member)

end Pool

end CommandQueue
