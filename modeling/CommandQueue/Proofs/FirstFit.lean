import CommandQueue.Proofs.Lending

/-!
# First fit

A request goes to the first idle allocator whose stamp is completed, whatever
stands before it in the pool.  If the queue still refers to the recording of that
allocator, the request fails and the allocator goes to the back.  So the next
request meets the next one, and a caller who keeps asking gets the first
allocator that can be reused after as many failures as there are allocators
before it that cannot (`Pool.retries`).
-/

namespace CommandQueue

namespace Pool

variable {pool : Pool} {completed : FenceValue} {held : ListId → Bool}
  {front back ahead behind : List Allocator} {allocator : Allocator}

/-! ## One request -/

/-- Without a completed allocator, one is created if the limit and the memory admit it. -/
structure CreatesInBounds (pool : Pool) (outcome : Outcome Pool Allocator) : Prop where
  created : (∀ most, pool.limit = some most → pool.live < most) → pool.storageProblem? = none →
    outcome.result = .ok (Allocator.new ⟨pool.category, pool.nextSerial⟩) ∧
      outcome.state = { pool with live := pool.live + 1, nextSerial := pool.nextSerial + 1 }
  refused : ¬ ((∀ most, pool.limit = some most → pool.live < most) ∧
      pool.storageProblem? = none) →
    (∃ reason, outcome.result = .error (.resourceExhausted pool.category pool.live reason)) ∧
      outcome.state.live = pool.live ∧ outcome.state.free = pool.free

theorem createsInBounds_create (pool : Pool) : pool.CreatesInBounds pool.create := by
  have creates := pool.creates_create
  generalize pool.create = outcome at creates
  obtain ⟨next, result, events⟩ := outcome
  dsimp only at creates
  refine ⟨?_, ?_⟩
  · intro below stored
    have room := pool.full_eq_false_iff.mpr below
    cases creates with
    | created => exact ⟨rfl, rfl⟩
    | full full =>
        rw [room] at full
        cases full
    | unstored _ problem =>
        rw [stored] at problem
        cases problem
  · intro misfit
    cases creates with
    | created room stored => exact absurd ⟨pool.full_eq_false_iff.mp room, stored⟩ misfit
    | full full => exact ⟨⟨_, rfl⟩, rfl, rfl⟩
    | unstored room problem => exact ⟨⟨_, rfl⟩, rfl, rfl⟩

/-- As long as a stamp is completed, a request creates nothing. -/
theorem Lends.not_created {next : Pool} {result : Except Error Allocator}
    (lends : Lends pool completed held next result)
    (suits : ∃ each ∈ pool.free, each.stamp ≤ completed) :
    next.nextSerial = pool.nextSerial ∧ next.live = pool.live ∧
      ∀ given, result = .ok given → ∃ each ∈ pool.free, each.stamp ≤ completed ∧
        (given.id, given.stamp) = (each.id, each.stamp) := by
  cases lends with
  | @reused front back allocator shape skipped reached idle =>
      refine ⟨rfl, rfl, ?_⟩
      intro given same
      cases same
      exact ⟨allocator, by simp [shape], reached, rfl⟩
  | stuck => exact ⟨rfl, rfl, nofun⟩
  | missed skipped creates =>
      obtain ⟨each, member, reached⟩ := suits
      exact absurd reached (Nat.not_le_of_lt (skipped each member))

/-! ## Requests in a row -/

/-- The pool after requests for which nothing changes in between. -/
def asked (pool : Pool) (completed : FenceValue) (held : ListId → Bool) : Nat → Pool
  | 0 => pool
  | count + 1 => ((pool.acquire completed held).state).asked completed held count

/-- The allocators before the first one that can be reused, as far as their stamps are
completed, are in use. -/
structure Waits (completed : FenceValue) (held : ListId → Bool) (ahead : List Allocator)
    (allocator : Allocator) : Prop where
  busy : ∀ each ∈ ahead, each.stamp ≤ completed → each.inFlight held = true
  reached : allocator.stamp ≤ completed
  idle : allocator.inFlight held = false

/-- The requests fail for the allocators in use, one after the other, and the next one is granted.
No allocator is lost, and those passed over keep their order. -/
structure Retries (pool : Pool) (completed : FenceValue) (held : ListId → Bool)
    (ahead : List Allocator) (allocator : Allocator) (behind : List Allocator)
    (busy : List Allocator) : Prop where
  fails : ∀ count (inside : count < busy.length),
    ((pool.asked completed held count).acquire completed held).result =
      .error (.allocatorInFlight busy[count].id busy[count].stamp)
  succeeds : ((pool.asked completed held busy.length).acquire completed held).result =
    .ok ⟨allocator.id, allocator.stamp, [], none⟩
  leaves : ((pool.asked completed held busy.length).acquire completed held).state =
    { pool with
      free := ahead.filter (fun each => !eligible completed each) ++ behind ++ busy }

theorem retries (shape : pool.free = ahead ++ allocator :: behind)
    (waits : Waits completed held ahead allocator) :
    pool.Retries completed held ahead allocator behind (ahead.filter (eligible completed)) := by
  -- By induction on the allocators in use before the one that can be reused: a request moves the
  -- first of them behind it.
  generalize among : ahead.filter (eligible completed) = busy
  induction busy generalizing pool ahead behind with
  | nil =>
      have skipped : ∀ each ∈ ahead, completed < each.stamp := fun each member =>
        not_eligible_iff.mp (List.filter_eq_nil_iff.mp among each member)
      have others : ahead.filter (fun each => !eligible completed each) = ahead := by
        rw [List.filter_eq_self]
        intro each member
        simpa [eligible] using skipped each member
      obtain ⟨granted, left⟩ := acquire_of_idle shape ⟨skipped, waits.reached⟩ waits.idle
      refine ⟨fun count inside => absurd inside (Nat.not_lt_zero count), granted, ?_⟩
      rw [others, List.append_nil]
      exact left
  | cons first rest inductionHypothesis =>
      obtain ⟨front, back, rfl, skipped, suits, among⟩ := List.filter_eq_cons_iff.mp among
      have unsuited : ∀ each ∈ front, completed < each.stamp := fun each member =>
        not_eligible_iff.mp (skipped each member)
      have reached : first.stamp ≤ completed := by simpa [eligible] using suits
      have busy : first.inFlight held = true := waits.busy first (by simp) reached
      have split : pool.free = front ++ first :: (back ++ allocator :: behind) := by
        simpa using shape
      obtain ⟨refused, left⟩ := acquire_of_busy split ⟨unsuited, reached⟩ busy
      have nextShape : (pool.acquire completed held).state.free =
          (front ++ back) ++ allocator :: (behind ++ [first]) := by
        rw [left]
        simp
      have nextWaits : Waits completed held (front ++ back) allocator := by
        refine ⟨?_, waits.reached, waits.idle⟩
        intro each member
        apply waits.busy each
        rcases List.mem_append.mp member with before | after
        · exact List.mem_append_left _ before
        · exact List.mem_append_right _ (List.mem_cons_of_mem first after)
      have nextAmong : (front ++ back).filter (eligible completed) = rest := by
        rw [List.filter_append, List.filter_eq_nil_iff.mpr skipped, List.nil_append, among]
      obtain ⟨fails, succeeds, leaves⟩ := inductionHypothesis nextShape nextWaits nextAmong
      refine ⟨?_, succeeds, ?_⟩
      · intro count inside
        cases count with
        | zero => exact refused
        | succ count => exact fails count (Nat.lt_of_succ_lt_succ inside)
      · refine leaves.trans ?_
        rw [left]
        simp [suits]

/-! ## The law of requests -/

/-- What a request does to a pool, and what requests in a row do. -/
structure FirstFit (pool : Pool) (completed : FenceValue) (held : ListId → Bool) : Prop where
  reuses : ∀ front allocator back, pool.free = front ++ allocator :: back →
    First completed front allocator → allocator.inFlight held = false →
      (pool.acquire completed held).result = .ok ⟨allocator.id, allocator.stamp, [], none⟩ ∧
        (pool.acquire completed held).state = { pool with free := front ++ back }
  refuses : ∀ front allocator back, pool.free = front ++ allocator :: back →
    First completed front allocator → allocator.inFlight held = true →
      (pool.acquire completed held).result =
          .error (.allocatorInFlight allocator.id allocator.stamp) ∧
        (pool.acquire completed held).state =
          { pool with free := front ++ back ++ [allocator] }
  creates : (∀ each ∈ pool.free, completed < each.stamp) →
    pool.CreatesInBounds (pool.acquire completed held)
  bypassesNone : (∃ each ∈ pool.free, each.stamp ≤ completed) →
    (pool.acquire completed held).state.nextSerial = pool.nextSerial ∧
      (pool.acquire completed held).state.live = pool.live ∧
      ∀ given, (pool.acquire completed held).result = .ok given →
        ∃ each ∈ pool.free, each.stamp ≤ completed ∧
          (given.id, given.stamp) = (each.id, each.stamp)
  retries : ∀ ahead allocator behind, pool.free = ahead ++ allocator :: behind →
    Waits completed held ahead allocator →
      pool.Retries completed held ahead allocator behind (ahead.filter (eligible completed))

/-- Every request of every pool goes by first fit. -/
theorem firstFit_acquire (pool : Pool) (completed : FenceValue) (held : ListId → Bool) :
    pool.FirstFit completed held where
  reuses _ _ _ shape first idle := acquire_of_idle shape first idle
  refuses _ _ _ shape first busy := acquire_of_busy shape first busy
  creates skipped := by
    rw [acquire_of_none skipped]
    exact pool.createsInBounds_create
  bypassesNone suits := (pool.lends_acquire completed held).not_created suits
  retries _ _ _ shape waits := Pool.retries shape waits

/-- Three allocators, of which the queue holds the second, and the stamp of the first one is not
completed yet: a request fails for the second one, and the next is granted the third. -/
example :
    let lent (serial stamp list : Nat) : Allocator := ⟨⟨.copy, serial⟩, stamp, [], some ⟨list⟩⟩
    let pool : Pool :=
      { Pool.new .copy none 16 96 with free := [lent 0 9 1, lent 1 2 2, lent 2 3 3] }
    let next := pool.asked 5 (· == ⟨2⟩) 1
    next.free.map Allocator.id = [⟨.copy, 0⟩, ⟨.copy, 2⟩, ⟨.copy, 1⟩] ∧
      (next.acquire 5 (· == ⟨2⟩)).state.free.map Allocator.id = [⟨.copy, 0⟩, ⟨.copy, 1⟩] := by
  decide

end Pool

end CommandQueue
