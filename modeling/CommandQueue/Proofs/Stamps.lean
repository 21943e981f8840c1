import CommandQueue.Proofs.Openings
import CommandQueue.Proofs.Timeline
import Mathlib.Data.List.Find

/-!
# Stamps

An idle allocator is stamped with the last value under which something recorded
on it was accepted.  While a list holds the allocator, the list knows the value:
it is the list's own, if the list was submitted, and the allocator's otherwise.

With a queue that lets streams go before it completes them, in order, an
allocator whose stamp is completed is out of use.
-/

namespace CommandQueue

namespace World

variable {σ : Type}

/-- Some stream of a submission was recorded on an allocator. -/
def uses (world : World σ) (allocator : AllocatorId) (submission : Submission) : Bool :=
  submission.streams.any fun stream =>
    Journal.openedOn world.journal stream.list == some allocator

/-- The signal of the last accepted submission that uses an allocator, and 0 if none does. -/
def lastUse (world : World σ) (allocator : AllocatorId) : FenceValue :=
  (world.entries.reverse.find? (world.uses allocator)).elim 0 Submission.signal

theorem uses_iff {world : World σ} {allocator : AllocatorId} {submission : Submission} :
    world.uses allocator submission = true ↔
      ∃ stream ∈ submission.streams,
        Journal.openedOn world.journal stream.list = some allocator := by
  rw [uses, List.any_eq_true]
  constructor
  · rintro ⟨stream, member, same⟩
    exact ⟨stream, member, eq_of_beq same⟩
  · rintro ⟨stream, member, same⟩
    exact ⟨stream, member, beq_iff_eq.mpr same⟩

/-- What the accepted submissions use does not depend on what is opened later. -/
theorem uses_of_known {world after : World σ} (booked : world.Booked)
    (known : ∀ {list allocator}, Journal.openedOn world.journal list = some allocator →
      Journal.openedOn after.journal list = some allocator)
    {entry : Submission} (accepted : entry ∈ world.entries) (allocator : AllocatorId) :
    after.uses allocator entry = world.uses allocator entry := by
  rw [Bool.eq_iff_iff, uses_iff, uses_iff]
  have same : ∀ stream ∈ entry.streams, Journal.openedOn after.journal stream.list =
      Journal.openedOn world.journal stream.list := by
    intro stream member
    obtain ⟨first, opened, _⟩ := booked.streams entry accepted stream member
    rw [opened, known opened]
  constructor
  · rintro ⟨stream, member, opened⟩
    exact ⟨stream, member, (same stream member) ▸ opened⟩
  · rintro ⟨stream, member, opened⟩
    exact ⟨stream, member, (same stream member).trans opened⟩

theorem lastUse_of_known {world after : World σ} (booked : world.Booked)
    (known : ∀ {list allocator}, Journal.openedOn world.journal list = some allocator →
      Journal.openedOn after.journal list = some allocator)
    (entries : after.entries = world.entries) (allocator : AllocatorId) :
    after.lastUse allocator = world.lastUse allocator := by
  have same : world.entries.reverse.find? (after.uses allocator) =
      world.entries.reverse.find? (world.uses allocator) := by
    apply List.find?_congr
    intro entry member
    exact uses_of_known booked known (List.mem_reverse.mp member) allocator
  rw [lastUse, lastUse, entries, same]

/-- An allocator on which no list was opened was never used. -/
theorem lastUse_of_unopened {world : World σ} {allocator : AllocatorId}
    (unopened : ∀ list, Journal.openedOn world.journal list ≠ some allocator) :
    world.lastUse allocator = 0 := by
  have missed : world.entries.reverse.find? (world.uses allocator) = none := by
    rw [List.find?_eq_none]
    intro entry _ used
    obtain ⟨stream, _, opened⟩ := uses_iff.mp used
    exact unopened stream.list opened
  rw [lastUse, missed]
  rfl

theorem lastUse_le {world : World σ} {bound : FenceValue}
    (bounded : ∀ entry ∈ world.entries, entry.signal ≤ bound) (allocator : AllocatorId) :
    world.lastUse allocator ≤ bound := by
  rw [lastUse]
  cases found : world.entries.reverse.find? (world.uses allocator) with
  | none => exact Nat.zero_le _
  | some entry => exact bounded entry (List.mem_reverse.mp (List.mem_of_find?_eq_some found))

theorem OnTime.lastUse_le_issued {world : World σ} (onTime : world.OnTime)
    (allocator : AllocatorId) : world.lastUse allocator ≤ world.device.fence.issued := by
  apply lastUse_le
  intro entry member
  exact onTime.le_issued (List.mem_map_of_mem member)

/-- No submission that uses an allocator was accepted after its last use. -/
theorem OnTime.signal_le_lastUse {world : World σ} (onTime : world.OnTime)
    {allocator : AllocatorId} {entry : Submission} (accepted : entry ∈ world.entries)
    (used : world.uses allocator entry = true) : entry.signal ≤ world.lastUse allocator := by
  have member : entry ∈ world.entries.reverse := List.mem_reverse.mpr accepted
  have rising : (world.entries.map Submission.signal).Pairwise (· < ·) := by
    rw [onTime.signals]
    exact List.pairwise_lt_range'
  have falling : world.entries.reverse.Pairwise fun later earlier =>
      earlier.signal < later.signal :=
    List.pairwise_reverse.mpr (List.pairwise_map.mp rising)
  rw [lastUse]
  cases found : world.entries.reverse.find? (world.uses allocator) with
  | none => exact absurd used (List.find?_eq_none.mp found entry member)
  | some last =>
      obtain ⟨_, front, back, shape, skipped⟩ := List.find?_eq_some_iff_append.mp found
      rw [shape] at member falling
      rcases List.mem_append.mp member with inFront | rest
      · have unused := skipped entry inFront
        rw [used] at unused
        cases unused
      · rcases List.mem_cons.mp rest with same | inBack
        · rw [same]
          exact Nat.le_refl _
        · have ordered := List.rel_of_pairwise_cons (List.pairwise_append.mp falling).2.1 inBack
          exact Nat.le_of_lt ordered

end World

/-- What a list knows of the last use of its allocator. -/
structure CommandList.Timed (list : CommandList) (lastUse completed : FenceValue) : Prop where
  prior : list.priorStamp = list.allocator.stamp
  risen : list.priorStamp ≤ lastUse
  reached : list.priorStamp ≤ completed
  due : list.retirementStamp = lastUse
  unsubmitted : list.state ≠ .submitted → list.submitted = none

theorem CommandList.Timed.later {list : CommandList} {lastUse completed later : FenceValue}
    (timed : list.Timed lastUse completed) (grown : completed ≤ later) :
    list.Timed lastUse later :=
  ⟨timed.prior, timed.risen, Nat.le_trans timed.reached grown, timed.due, timed.unsubmitted⟩

namespace World

variable {σ : Type}

/-- Every stamp fits the last use of its allocator. -/
structure Stamped (world : World σ) : Prop where
  pooled : ∀ allocator ∈ world.device.pooled, allocator.stamp = world.lastUse allocator.id
  lists : ∀ list ∈ world.lists,
    list.Timed (world.lastUse list.allocator.id) world.device.fence.completed

theorem Stamped.frame {world after : World σ} (stamped : world.Stamped)
    (lastUse : ∀ allocator, after.lastUse allocator = world.lastUse allocator)
    (completed : world.device.fence.completed ≤ after.device.fence.completed)
    (pooled : ∀ allocator ∈ after.device.pooled, allocator ∈ world.device.pooled ∨
      allocator.stamp = world.lastUse allocator.id)
    (lists : ∀ list ∈ after.lists,
      list.Timed (world.lastUse list.allocator.id) world.device.fence.completed) :
    after.Stamped := by
  refine ⟨?_, ?_⟩
  · intro allocator member
    rw [lastUse]
    rcases pooled allocator member with same | new
    · exact stamped.pooled allocator same
    · exact new
  · intro list member
    rw [lastUse]
    exact (lists list member).later completed

theorem Stamped.stamp_le_lastUse {world : World σ} (stamped : world.Stamped)
    {allocator : Allocator} (member : allocator ∈ world.allocators) :
    allocator.stamp ≤ world.lastUse allocator.id := by
  rcases List.mem_append.mp member with pooled | lent
  · exact Nat.le_of_eq (stamped.pooled allocator pooled)
  · obtain ⟨list, present, rfl⟩ := List.mem_map.mp lent
    have timed := stamped.lists list present
    exact timed.prior ▸ timed.risen

section Queued

variable [Queue σ] {moves : Clocked σ → Clocked σ → Prop} {world after : World σ}

/-- An allocator that is lent has been idle since its last use, which is completed. -/
theorem Stamped.stamp_of_lends (stamped : world.Stamped) (conserved : world.Conserved)
    (present : world.Present) {category : Category} {pool : Pool} {allocator : Allocator}
    (lends : (world.device.pool category).Lends world.device.fence.completed
      world.device.held pool (.ok allocator)) :
    allocator.stamp = world.lastUse allocator.id ∧
      allocator.stamp ≤ world.device.fence.completed := by
  cases origin_of_lends lends with
  | @idle idle member reached _ _ =>
      exact ⟨stamped.pooled idle (Device.mem_pooled_iff.mpr ⟨category, member⟩), reached⟩
  | new _ _ =>
      refine ⟨?_, Nat.zero_le _⟩
      refine (lastUse_of_unopened ?_).symm
      intro list opened
      exact conserved.unused_of_nextSerial category (present list _ opened)

theorem Stamped.lend (stamped : world.Stamped) (conserved : world.Conserved)
    (booked : world.Booked) (present : world.Present) {category : Category} {pool : Pool}
    {allocator : Allocator}
    (lends : (world.device.pool category).Lends world.device.fence.completed
      world.device.held pool (.ok allocator)) :
    (world.lend category pool allocator).Stamped := by
  obtain ⟨_, _, fence, _⟩ := world.device.withPool_frame category pool
  obtain ⟨last, reached⟩ := stamped.stamp_of_lends conserved present lends
  refine stamped.frame ?_ ?_ ?_ ?_
  · exact lastUse_of_known booked (Journal.openedOn_append_of_some _) rfl
  · change _ ≤ (world.device.withPool category pool).fence.completed
    rw [fence]
  · exact fun idle member => Or.inl (mem_pooled_lend lends member)
  · intro list member
    rcases List.mem_append.mp member with earlier | new
    · exact stamped.lists list earlier
    · rw [List.mem_singleton.mp new]
      exact ⟨rfl, Nat.le_of_eq last, reached, last, fun _ => rfl⟩

/-! ## Acceptance -/

theorem uses_accept_iff (booked : world.Booked) {slice : List CommandList}
    (own : ∀ list ∈ slice, list ∈ world.lists ∧ list.state ≠ .submitted)
    (allocator : AllocatorId) :
    (world.accept slice).uses allocator
        (world.device.submission (slice.map CommandList.freeze)) = true ↔
      ∃ list ∈ slice, list.allocator.id = allocator := by
  have opened : ∀ list ∈ slice,
      Journal.openedOn (world.accept slice).journal list.freeze.stream.list =
        some list.allocator.id := by
    intro list chosen
    have member := (own list chosen).1
    rw [booked.stream_freeze member]
    exact Journal.openedOn_append_of_some _ (booked.lists list member)
  rw [uses_iff]
  constructor
  · rintro ⟨stream, member, used⟩
    obtain ⟨frozen, frozenMember, rfl⟩ := List.mem_map.mp member
    obtain ⟨list, chosen, rfl⟩ := List.mem_map.mp frozenMember
    rw [opened list chosen] at used
    exact ⟨list, chosen, Option.some.inj used⟩
  · rintro ⟨list, chosen, rfl⟩
    exact ⟨_, List.mem_map_of_mem (List.mem_map_of_mem chosen), opened list chosen⟩

/-- Acceptance is a new last use of the allocators of the accepted lists, and of no others. -/
theorem lastUse_accept (booked : world.Booked) {slice : List CommandList}
    (own : ∀ list ∈ slice, list ∈ world.lists ∧ list.state ≠ .submitted)
    (allocator : AllocatorId) :
    ((∃ list ∈ slice, list.allocator.id = allocator) ∧
        (world.accept slice).lastUse allocator = world.device.fence.signalNext.2) ∨
      (¬∃ list ∈ slice, list.allocator.id = allocator) ∧
        (world.accept slice).lastUse allocator = world.lastUse allocator := by
  have entries : (world.accept slice).entries.reverse =
      world.device.submission (slice.map CommandList.freeze) :: world.entries.reverse := by
    exact List.reverse_concat
  by_cases used : ∃ list ∈ slice, list.allocator.id = allocator
  · refine Or.inl ⟨used, ?_⟩
    rw [lastUse, entries, List.find?_cons_of_pos ((uses_accept_iff booked own allocator).mpr used)]
    rfl
  · refine Or.inr ⟨used, ?_⟩
    have unused := (uses_accept_iff booked own allocator).not.mpr used
    have same : world.entries.reverse.find? ((world.accept slice).uses allocator) =
        world.entries.reverse.find? (world.uses allocator) := by
      apply List.find?_congr
      intro entry member
      exact uses_of_known booked (Journal.openedOn_append_of_some _) (List.mem_reverse.mp member)
        allocator
    rw [lastUse, entries, List.find?_cons_of_neg unused, same]
    rfl

theorem Stamped.accept (stamped : world.Stamped) (lawful : Queue.Lawful moves)
    (registered : world.Registered) (conserved : world.Conserved) (booked : world.Booked)
    (onTime : world.OnTime) {slice : List CommandList}
    (own : ∀ list ∈ slice, list ∈ world.lists ∧ list.state ≠ .submitted) :
    (world.accept slice).Stamped := by
  have completed := completed_le_offered lawful world.device slice
  refine ⟨?_, ?_⟩
  · intro allocator member
    rcases lastUse_accept booked own allocator.id with ⟨⟨list, chosen, sameId⟩, _⟩ | ⟨_, last⟩
    · exact absurd sameId (conserved.ne_of_pooled member (own list chosen).1)
    · rw [last]
      exact stamped.pooled allocator member
  · intro list member
    rcases mem_amend_iff.mp member with ⟨earlier, present, chosen, rfl⟩ | ⟨present, spared⟩
    · have timed := stamped.lists earlier present
      have offered := registered.mem_of_id (fun each member => (own each member).1) present chosen
      have last : (world.accept slice).lastUse earlier.allocator.id =
          world.device.fence.signalNext.2 := by
        rcases lastUse_accept booked own earlier.allocator.id with ⟨_, last⟩ | ⟨unused, _⟩
        · exact last
        · exact absurd ⟨earlier, offered, rfl⟩ unused
      have before := Nat.le_trans timed.risen (onTime.lastUse_le_issued earlier.allocator.id)
      change (earlier.freeze.markSubmitted _).Timed
        ((world.accept slice).lastUse earlier.allocator.id) _
      rw [last]
      exact ⟨timed.prior, Nat.le_succ_of_le before, Nat.le_trans timed.reached completed, rfl,
        fun unsubmitted => absurd rfl unsubmitted⟩
    · have timed := stamped.lists list present
      rcases lastUse_accept booked own list.allocator.id with
        ⟨⟨other, otherChosen, sameAllocator⟩, _⟩ | ⟨_, last⟩
      · have same := conserved.eq_of_loan (own other otherChosen).1 present sameAllocator
        exact absurd (same ▸ List.mem_map_of_mem otherChosen) spared
      · rw [last]
        exact timed.later completed

theorem Stamped.effect (stamped : world.Stamped) (lawful : Queue.Lawful moves)
    (registered : world.Registered) (conserved : world.Conserved) (booked : world.Booked)
    (present : world.Present) (onTime : world.OnTime) (effect : Effect moves world after) :
    after.Stamped := by
  have completed := (effect.turn.monotone lawful).2
  have known : ∀ {list allocator}, Journal.openedOn world.journal list = some allocator →
      Journal.openedOn after.journal list = some allocator :=
    effect.openedOn_of_some
  cases effect with
  | idle => exact stamped
  | @rearranged category pool rearranged =>
      refine stamped.frame (lastUse_of_known booked known rfl) completed ?_ stamped.lists
      intro allocator member
      exact Or.inl ((world.device.pooled_perm_of_rearranged rearranged).subset member)
  | lent lends => exact stamped.lend conserved booked present lends
  | recorded member accepted =>
      refine stamped.frame (lastUse_of_known booked known rfl) completed (fun _ => Or.inl) ?_
      refine forall_amend stamped.lists ?_
      intro list member _
      have timed := stamped.lists list member
      exact ⟨timed.prior, timed.risen, timed.reached, timed.due, timed.unsubmitted⟩
  | @closed named member opened =>
      refine stamped.frame (lastUse_of_known booked known rfl) completed (fun _ => Or.inl) ?_
      refine forall_amend stamped.lists ?_
      intro list present chosen
      have same := registered.eq_of_id present member (List.mem_singleton.mp chosen)
      have timed := stamped.lists list present
      have unsubmitted : list.submitted = none := timed.unsubmitted (by simp [same, opened])
      exact ⟨timed.prior, timed.risen, timed.reached, timed.due, fun _ => unsubmitted⟩
  | @rejected slice error offers own refused =>
      refine stamped.frame (lastUse_of_known booked known rfl) completed (fun _ => Or.inl) ?_
      refine forall_amend stamped.lists ?_
      intro list present chosen
      have offered := registered.mem_of_id (fun each member => (own each member).1) present chosen
      have timed := stamped.lists list present
      have unsubmitted : list.submitted = none := timed.unsubmitted (own list offered).2
      exact ⟨timed.prior, timed.risen, timed.reached, timed.due, fun _ => unsubmitted⟩
  | accepted offers own taken =>
      exact stamped.accept lawful registered conserved booked onTime own
  | @dropped list member =>
      refine stamped.frame (lastUse_of_known booked known rfl) completed ?_ ?_
      · intro allocator pooled
        rcases mem_pooled_drop_iff.mp pooled with back | earlier
        · refine Or.inr ?_
          rw [back, Allocator.stamp_givenBack, Allocator.id_givenBack]
          exact (stamped.lists list member).due
        · exact Or.inl earlier
      · intro other left
        exact stamped.lists other (registered.of_mem_drop member left).1
  | prepared library capacity =>
      exact stamped.frame (lastUse_of_known booked known rfl) completed (fun _ => Or.inl)
        stamped.lists
  | moved moved =>
      exact stamped.frame (lastUse_of_known booked known rfl) completed (fun _ => Or.inl)
        stamped.lists

theorem Leads.stamped {start : World σ} (lawful : Queue.Lawful moves) (begun : start.Begins)
    (leads : Leads moves start world) : world.Stamped := by
  have fresh := begun.fresh
  have first : start.Stamped := by
    refine ⟨?_, by simp [fresh.lists]⟩
    intro allocator member
    have unopened : ∀ list, Journal.openedOn start.journal list ≠ some allocator.id := by
      intro list opened
      rw [fresh.journal] at opened
      cases opened
    rw [lastUse_of_unopened unopened, fresh.pooled_new member]
    rfl
  exact leads.invariant begun first fun earlier stamped effect =>
    stamped.effect lawful (Leads.registered begun earlier) (Leads.conserved begun earlier)
      (Leads.booked begun earlier) (Leads.present begun earlier)
      (Leads.onTime lawful begun earlier) effect

/-! ## Rising stamps -/

/-- No stamp becomes smaller when allocators change hands. -/
theorem Custody.stamp_le (stamped : world.Stamped) (registered : world.Registered)
    (conserved : world.Conserved) (custody : Custody world after) {before next : Allocator}
    (beforeMember : before ∈ world.allocators) (nextMember : next ∈ after.allocators)
    (sameId : next.id = before.id) : before.stamp ≤ next.stamp := by
  have unmoved : next ∈ world.allocators → before.stamp ≤ next.stamp := by
    intro member
    rw [conserved.eq_of_id member beforeMember sameId]
  cases custody with
  | kept config living pools loans =>
      have tag : next.tag ∈ after.allocators.map Allocator.tag := List.mem_map_of_mem nextMember
      obtain ⟨same, sameMember, sameTag⟩ :=
        List.mem_map.mp ((map_tag_perm_of_rearranged pools loans).subset tag)
      obtain ⟨id, stamp⟩ := Prod.mk.inj sameTag
      rw [← stamp, conserved.eq_of_id sameMember beforeMember (id.trans sameId)]
  | @lent category pool allocator lends =>
      rcases List.mem_append.mp nextMember with pooled | lent
      · exact unmoved (List.mem_append_left _ (mem_pooled_lend lends pooled))
      · obtain ⟨list, present, rfl⟩ := List.mem_map.mp lent
        rcases List.mem_append.mp present with earlier | new
        · exact unmoved (List.mem_append_right _ (List.mem_map_of_mem earlier))
        · rw [List.mem_singleton.mp new] at sameId ⊢
          change before.stamp ≤ allocator.stamp
          change allocator.id = before.id at sameId
          cases origin_of_lends lends with
          | @idle idle member _ _ _ =>
              have pooled := Device.mem_pooled_iff.mpr ⟨category, member⟩
              rw [conserved.eq_of_id beforeMember (List.mem_append_left _ pooled) sameId.symm]
              exact Nat.le_refl _
          | new _ _ =>
              have used : before.id ∈ world.allocators.map Allocator.id :=
                List.mem_map_of_mem beforeMember
              rw [← sameId] at used
              exact absurd used (conserved.unused_of_nextSerial category)
  | @returned list member =>
      rcases List.mem_append.mp nextMember with pooled | lent
      · rcases mem_pooled_drop_iff.mp pooled with back | earlier
        · rw [back, Allocator.id_givenBack] at sameId
          have holder : list.allocator ∈ world.allocators :=
            List.mem_append_right _ (List.mem_map_of_mem member)
          have timed := stamped.lists list member
          rw [back, Allocator.stamp_givenBack, timed.due,
            ← conserved.eq_of_id holder beforeMember sameId]
          exact stamped.stamp_le_lastUse holder
        · exact unmoved (List.mem_append_left _ earlier)
      · obtain ⟨other, left, rfl⟩ := List.mem_map.mp lent
        have present := (registered.of_mem_drop member left).1
        exact unmoved (List.mem_append_right _ (List.mem_map_of_mem present))

theorem Leads.stamp_le {start later : World σ} (lawful : Queue.Lawful moves)
    (begun : start.Begins) (leads : Leads moves start world) (onward : Leads moves world later)
    {before next : Allocator} (beforeMember : before ∈ world.allocators)
    (nextMember : next ∈ later.allocators) (sameId : next.id = before.id) :
    before.stamp ≤ next.stamp := by
  induction onward generalizing next with
  | refl =>
      rw [(Leads.conserved begun leads).eq_of_id nextMember beforeMember sameId]
  | @tail middle _ earlier step inductionHypothesis =>
      have reach := leads.trans earlier
      have registered := Leads.registered begun reach
      -- The allocator is still there in between, so its stamp can be followed step by step.
      have kept := Leads.map_id_subset begun leads earlier (List.mem_map_of_mem beforeMember)
      obtain ⟨between, betweenMember, betweenId⟩ := List.mem_map.mp kept
      have first := inductionHypothesis betweenMember betweenId
      have second := (step.effect registered).custody.stamp_le
        (Leads.stamped lawful begun reach) registered (Leads.conserved begun reach)
        betweenMember nextMember (sameId.trans betweenId.symm)
      exact Nat.le_trans first second

/-! ## Allocators out of use -/

theorem reached_of_stamp {start : World σ} (lawful : Queue.Lawful moves) (begun : start.Begins)
    (leads : Leads moves start world) {list : CommandList} (member : list ∈ world.lists) :
    world.device.fence.reached list.priorStamp = .ok true := by
  have timed := (Leads.stamped lawful begun leads).lists list member
  have onTime := Leads.onTime lawful begun leads
  exact Fence.reached_eq_true_iff.mpr
    ⟨Nat.le_trans timed.risen (onTime.lastUse_le_issued _), timed.reached⟩

/-- With an orderly queue, an idle allocator is out of use once its stamp is completed. -/
theorem inFlight_of_completed {waiting : σ → List Submission} {start : World σ}
    (lawful : Queue.Lawful moves) (orderly : Queue.Orderly moves waiting)
    (begun : start.Begins) (empty : waiting start.device.queue = [])
    (leads : Leads moves start world) {allocator : Allocator}
    (pooled : allocator ∈ world.device.pooled)
    (completed : allocator.stamp ≤ world.device.fence.completed) :
    allocator.inFlight world.device.held = false := by
  have booked := Leads.booked begun leads
  have stamped := Leads.stamped lawful begun leads
  have onTime := Leads.onTime lawful begun leads
  have recognized := Leads.recognized orderly.toFifo begun empty leads
  obtain ⟨count, _, signals⟩ := Leads.inTurn lawful orderly.toFifo begun empty leads
  rw [Allocator.inFlight]
  cases frozen : allocator.frozenBy with
  | none => rfl
  | some name =>
      rw [Option.any_some]
      by_contra notFree
      have held : world.device.held name = true := by simpa using notFree
      obtain ⟨submission, waits, mentioned⟩ := orderly.holds_waiting held
      -- The submission that waits is not completed, but it was a use of this allocator.
      have pending : world.device.fence.completed < submission.signal := by
        have signal := List.mem_map_of_mem (f := Submission.signal) waits
        rw [signals, List.mem_range'_1] at signal
        exact signal.1
      obtain ⟨entry, accepted, sameSignal, same⟩ := recognized submission waits
      obtain ⟨stream, member, listed⟩ := List.any_eq_true.mp (same name mentioned)
      have used : world.uses allocator.id entry = true := by
        refine uses_iff.mpr ⟨stream, member, ?_⟩
        rw [eq_of_beq listed]
        exact booked.frozen allocator pooled name frozen
      have last := onTime.signal_le_lastUse accepted used
      rw [← stamped.pooled allocator pooled, sameSignal] at last
      exact Nat.lt_irrefl _ (Nat.lt_of_lt_of_le pending (Nat.le_trans last completed))

/-- The protocol of stamps. -/
structure Stamping (moves : Clocked σ → Clocked σ → Prop) (world start : World σ) : Prop where
  pooled : ∀ allocator ∈ world.device.pooled, allocator.stamp = world.lastUse allocator.id
  issued : ∀ allocator ∈ world.allocators, allocator.stamp ≤ world.device.fence.issued
  rising : ∀ later, Leads moves world later → ∀ before ∈ world.allocators,
    ∀ next ∈ later.allocators, next.id = before.id → before.stamp ≤ next.stamp
  lent : ∀ category list, (world.device.openList category).result = .ok list →
    list.allocator.stamp ≤ world.device.fence.completed
  discarded : ∀ list ∈ world.lists, list.state ≠ .submitted →
    ∃ back ∈ (world.drop list).device.pooled, back.id = list.allocator.id ∧
      (world.drop list).device.fence.reached back.stamp = .ok true
  free : ∀ waiting, Queue.Orderly moves waiting → waiting start.device.queue = [] →
    (∀ allocator ∈ world.device.pooled,
      Pool.eligible world.device.fence.completed allocator = true →
        allocator.inFlight world.device.held = false) ∧
      ∀ category id stamp,
        (world.device.openList category).result ≠ .error (.allocatorInFlight id stamp)

/-- Whatever the queue completes, allocators are stamped with their last use. -/
theorem stamping_of_leads {start : World σ} (lawful : Queue.Lawful moves)
    (begun : start.Begins) (leads : Leads moves start world) : world.Stamping moves start := by
  have conserved := Leads.conserved begun leads
  have present := Leads.present begun leads
  have onTime := Leads.onTime lawful begun leads
  have stamped := Leads.stamped lawful begun leads
  refine ⟨stamped.pooled, ?_, ?_, ?_, ?_, ?_⟩
  · intro allocator member
    exact Nat.le_trans (stamped.stamp_le_lastUse member) (onTime.lastUse_le_issued _)
  · intro later onward before beforeMember next nextMember sameId
    exact Leads.stamp_le lawful begun leads onward beforeMember nextMember sameId
  · intro category list opened
    exact (stamped.stamp_of_lends conserved present (Device.lends_of_opened opened)).2
  · intro list member state
    obtain ⟨_, _, fence, _⟩ := world.drop_frame list
    have unsubmitted := (stamped.lists list member).unsubmitted state
    have stamp : list.retirementStamp = list.priorStamp := by
      rw [CommandList.retirementStamp, unsubmitted]
      rfl
    refine ⟨_, mem_pooled_drop_iff.mpr (Or.inl rfl), Allocator.id_givenBack _ _ _, ?_⟩
    rw [fence, Allocator.stamp_givenBack, stamp]
    exact reached_of_stamp lawful begun leads member
  · intro waiting orderly empty
    have free : ∀ allocator ∈ world.device.pooled,
        Pool.eligible world.device.fence.completed allocator = true →
          allocator.inFlight world.device.held = false := by
      intro allocator pooled eligible
      have completed := of_decide_eq_true eligible
      exact inFlight_of_completed lawful orderly begun empty leads pooled completed
    refine ⟨free, ?_⟩
    intro category id stamp refused
    have lends := world.device.lends_requested category
    rw [Device.requested_of_refused refused] at lends
    refine Pool.Lends.not_stuck ?_ lends
    intro allocator member reached
    have pooled := Device.mem_pooled_iff.mpr ⟨category, member⟩
    exact free allocator pooled (decide_eq_true reached)

end Queued

/-- A copy has been run and its list dropped: the allocator is stamped with it and can be lent. -/
theorem stamping_of_leads_served :
    Queue.Lawful SoftQueue.Runs ∧ (small (SoftQueue.new SoftQueue.defaultLabel)).Begins ∧
      Leads SoftQueue.Runs (small (SoftQueue.new SoftQueue.defaultLabel)) served ∧
      served.lastUse ⟨.copy, 0⟩ = 1 ∧
      served.Stamping SoftQueue.Runs (small (SoftQueue.new SoftQueue.defaultLabel)) ∧
      ∀ category id stamp,
        (served.device.openList category).result ≠ .error (.allocatorInFlight id stamp) := by
  have lawful := SoftQueue.forgetful.toLawful
  have stamping := stamping_of_leads lawful begins_soft leads_served
  have free := stamping.free SoftQueue.pending SoftQueue.orderly rfl
  exact ⟨lawful, begins_soft, leads_served, rfl, stamping, free.2⟩

end World

end CommandQueue
