import CommandQueue.Proofs.Effect
import CommandQueue.Script.DeviceSteps

/-!
# The timeline of a device

The values that a device hands out are numbered without gaps by the submissions
that its queue accepts.  A value reserved for a submission that is refused is
taken back before the call ends, so no trace of it is left between calls.

`World.Turn` tells the effects that concern the queue from all others.  Along
turns the queue is followed with the submissions that it was handed and took
(`World.Leads.serves`), and so are the counters: `World.OnTime` for the values
handed out, and `World.InTurn` for a queue that completes its submissions in
order.
-/

namespace CommandQueue

theorem Fence.cancel_of_issued {fence : Fence} {value : FenceValue}
    (issued : fence.issued = value + 1) :
    fence.cancel (value + 1) = { fence with issued := value } := by
  rw [cancel, if_pos issued]
  rfl

theorem Fence.reached_of_le {fence : Fence} {value : FenceValue}
    (handedOut : value ≤ fence.issued) :
    fence.reached value = .ok (decide (value ≤ fence.completed)) := by
  simp [reached, checkIssued, Nat.not_lt.mpr handedOut, bind, Except.bind, pure,
    Except.pure]

theorem Fence.reached_eq_true_iff {fence : Fence} {value : FenceValue} :
    fence.reached value = .ok true ↔ value ≤ fence.issued ∧ value ≤ fence.completed := by
  by_cases handedOut : value ≤ fence.issued
  · simp [reached_of_le handedOut, handedOut]
  · simp [reached, checkIssued, Nat.not_le.mp handedOut, handedOut, bind,
      Except.bind]

/-- What is left waiting carries the signals after those just completed, up to the same last one. -/
theorem Queue.Finishes.signals {waiting left : List Submission} {fence after : Fence}
    {count : Nat} (finishes : Queue.Finishes waiting fence left after)
    (signals : waiting.map Submission.signal = List.range' (fence.completed + 1) count) :
    ∃ remaining, fence.completed + count = after.completed + remaining ∧
      left.map Submission.signal = List.range' (after.completed + 1) remaining := by
  obtain ⟨finished, shape, completed⟩ := finishes
  have lengths : finished.length + left.length = count := by
    have total := congrArg List.length signals
    simpa [shape] using total
  have parts : finished.map Submission.signal ++ left.map Submission.signal =
      List.range' (fence.completed + 1) finished.length ++
        List.range' (fence.completed + 1 + finished.length) left.length := by
    rw [List.range'_append_1, lengths, ← signals, shape, List.map_append]
  obtain ⟨first, rest⟩ := List.append_inj parts (by simp)
  rw [first] at completed
  have moved := Fence.completed_of_completeAll?_range' completed
  refine ⟨left.length, ?_, ?_⟩
  · rw [moved, ← lengths, Nat.add_assoc]
  · rw [rest, moved, Nat.add_right_comm]

namespace World

variable {σ : Type}

/-- The queue has no part in what happened. -/
structure Quiet (world after : World σ) : Prop where
  fence : after.device.fence = world.device.fence
  queue : after.device.queue = world.device.queue
  submissions : after.device.submissions = world.device.submissions
  entries : after.entries = world.entries
  acceptances : Journal.acceptances after.journal = Journal.acceptances world.journal

/-- Between calls, the values handed out are those of the accepted submissions. -/
structure OnTime (world : World σ) : Prop where
  issued : world.device.fence.issued = world.entries.length
  submissions : world.device.submissions = world.entries.length
  signals : world.entries.map Submission.signal = List.range' 1 world.entries.length
  returned : (Journal.acceptances world.journal).map Prod.fst =
    world.entries.map Submission.signal

theorem OnTime.le_issued {world : World σ} (onTime : world.OnTime) {value : FenceValue}
    (member : value ∈ world.entries.map Submission.signal) :
    value ≤ world.device.fence.issued := by
  rw [onTime.signals, List.mem_range'_1, Nat.add_comm 1] at member
  rw [onTime.issued]
  exact Nat.le_of_lt_succ member.2

section Queued

variable [Queue σ]

/-- What happened, as far as the queue has a part in it. -/
inductive Turn (moves : Clocked σ → Clocked σ → Prop) (world : World σ) : World σ → Prop
  | quiet {after : World σ} (quiet : Quiet world after) : Turn moves world after
  | rejected {slice : List CommandList} {error : Error}
      (refused : (world.device.offered slice).result = .error error) :
      Turn moves world (world.reject slice)
  | accepted {slice : List CommandList}
      (taken : (world.device.offered slice).result = .ok ()) :
      Turn moves world (world.accept slice)
  | moved {after : Clocked σ} (moved : moves world.clocked after) :
      Turn moves world (world.moved after)

variable {moves : Clocked σ → Clocked σ → Prop} {world after : World σ}

theorem Effect.turn (effect : Effect moves world after) : Turn moves world after := by
  cases effect with
  | idle => exact Turn.quiet ⟨rfl, rfl, rfl, rfl, rfl⟩
  | @rearranged category pool rearranged =>
      obtain ⟨_, _, fence, _, _, _, submissions, queue⟩ :=
        world.device.withPool_frame category pool
      exact Turn.quiet ⟨fence, queue, submissions, rfl, rfl⟩
  | @lent category pool allocator lends =>
      obtain ⟨_, _, fence, _, _, _, submissions, queue⟩ :=
        world.device.withPool_frame category pool
      exact Turn.quiet ⟨fence, queue, submissions, rfl, Journal.acceptances_opened _ _ _⟩
  | recorded member accepted =>
      exact Turn.quiet ⟨rfl, rfl, rfl, rfl, Journal.acceptances_recorded _ _ _⟩
  | closed member opened => exact Turn.quiet ⟨rfl, rfl, rfl, rfl, rfl⟩
  | rejected offers own refused => exact Turn.rejected refused
  | accepted offers own taken => exact Turn.accepted taken
  | @dropped list member =>
      obtain ⟨_, _, fence, _, _, submissions, queue⟩ := world.drop_frame list
      exact Turn.quiet ⟨fence, queue, submissions, rfl, rfl⟩
  | prepared library capacity => exact Turn.quiet ⟨rfl, rfl, rfl, rfl, rfl⟩
  | moved moved => exact Turn.moved moved

/-- The submissions on record are those that the queue was handed and took. -/
theorem Turn.serves {before : Clocked σ}
    (serves : Queue.Serves moves before world.entries world.clocked)
    (turn : Turn moves world after) : Queue.Serves moves before after.entries after.clocked := by
  cases turn with
  | quiet quiet =>
      have same : after.clocked = world.clocked := by
        rw [clocked, clocked, quiet.queue, quiet.fence]
      rw [same, quiet.entries]
      exact serves
  | rejected refused => exact serves.refused rfl refused
  | accepted taken => exact serves.took rfl taken
  | moved move => exact serves.moved move

theorem Leads.serves {start : World σ} (begun : start.Begins) (leads : Leads moves start world) :
    Queue.Serves moves start.clocked world.entries world.clocked := by
  have first : Queue.Serves moves start.clocked start.entries start.clocked := by
    rw [begun.fresh.entries]
    exact Queue.Serves.start
  exact leads.invariant begun first fun _ serves effect => effect.turn.serves serves

/-! ## Values handed out -/

theorem issued_offered (lawful : Queue.Lawful moves) (device : Device σ)
    (slice : List CommandList) :
    (device.offered slice).state.fence.issued = device.fence.issued + 1 := by
  obtain ⟨values, completed⟩ := lawful.submit_completes device.queue device.fence.signalNext.1
    device.heap (device.submission (slice.map CommandList.freeze))
  exact Fence.issued_of_completeAll? completed

theorem completed_le_offered (lawful : Queue.Lawful moves) (device : Device σ)
    (slice : List CommandList) :
    device.fence.completed ≤ (device.offered slice).state.fence.completed := by
  obtain ⟨values, completed⟩ := lawful.submit_completes device.queue device.fence.signalNext.1
    device.heap (device.submission (slice.map CommandList.freeze))
  have grown := Fence.completed_le_of_completeAll? completed
  exact grown

/-- A refused batch leaves no trace of the value that was reserved for it. -/
theorem fence_reject (lawful : Queue.Lawful moves) (world : World σ)
    (slice : List CommandList) :
    (world.reject slice).device.fence =
      { (world.device.offered slice).state.fence with
        issued := world.device.fence.issued } :=
  Fence.cancel_of_issued (issued_offered lawful world.device slice)

theorem OnTime.accept (onTime : world.OnTime) (lawful : Queue.Lawful moves)
    (slice : List CommandList) : (world.accept slice).OnTime := by
  have signal : (world.device.submission (slice.map CommandList.freeze)).signal =
      1 + world.entries.length := by
    change world.device.fence.issued + 1 = _
    rw [onTime.issued, Nat.add_comm]
  have entries : (world.accept slice).entries.length = world.entries.length + 1 :=
    List.length_append
  refine ⟨?_, ?_, ?_, ?_⟩
  · rw [entries, ← onTime.issued]
    exact issued_offered lawful world.device slice
  · rw [entries, ← onTime.submissions]
    rfl
  · rw [entries, List.range'_concat, ← onTime.signals, Nat.one_mul, ← signal]
    exact List.map_append
  · change (Journal.acceptances (world.journal ++
        [.accepted (world.device.fence.issued + 1) (slice.map CommandList.id)])).map Prod.fst = _
    rw [Journal.acceptances_accepted, List.map_append, onTime.returned, World.accept,
      List.map_append]
    rfl

theorem OnTime.turn (onTime : world.OnTime) (lawful : Queue.Lawful moves)
    (turn : Turn moves world after) : after.OnTime := by
  cases turn with
  | quiet quiet =>
      refine ⟨?_, ?_, ?_, ?_⟩
      · rw [quiet.fence, quiet.entries, onTime.issued]
      · rw [quiet.submissions, quiet.entries, onTime.submissions]
      · rw [quiet.entries, onTime.signals]
      · rw [quiet.acceptances, quiet.entries, onTime.returned]
  | @rejected slice error refused =>
      -- The value reserved for the batch is the last one handed out, so it can be taken back.
      refine ⟨?_, onTime.submissions, onTime.signals, onTime.returned⟩
      rw [fence_reject lawful]
      exact onTime.issued
  | @accepted slice taken => exact onTime.accept lawful slice
  | moved moved =>
      obtain ⟨values, completed⟩ := lawful.moves_complete moved
      refine ⟨?_, onTime.submissions, onTime.signals, onTime.returned⟩
      exact (Fence.issued_of_completeAll? completed).trans onTime.issued

theorem Leads.onTime {start : World σ} (lawful : Queue.Lawful moves) (begun : start.Begins)
    (leads : Leads moves start world) : world.OnTime := by
  have fresh := begun.fresh
  have first : start.OnTime := by
    refine ⟨?_, ?_, ?_, ?_⟩
    · rw [fresh.fence, fresh.entries]
      rfl
    · rw [fresh.submissions, fresh.entries]
      rfl
    · rw [fresh.entries]
      rfl
    · rw [fresh.journal, fresh.entries]
      rfl
  exact leads.invariant begun first fun _ onTime effect => onTime.turn lawful effect.turn

/-! ## Values completed -/

theorem Turn.monotone (lawful : Queue.Lawful moves) (turn : Turn moves world after) :
    world.device.fence.issued ≤ after.device.fence.issued ∧
      world.device.fence.completed ≤ after.device.fence.completed := by
  cases turn with
  | quiet quiet =>
      rw [quiet.fence]
      exact ⟨Nat.le_refl _, Nat.le_refl _⟩
  | @rejected slice error refused =>
      rw [fence_reject lawful]
      exact ⟨Nat.le_refl _, completed_le_offered lawful world.device slice⟩
  | @accepted slice taken =>
      have issued := issued_offered lawful world.device slice
      exact ⟨Nat.le_of_lt (Nat.lt_of_succ_le (Nat.le_of_eq issued.symm)),
        completed_le_offered lawful world.device slice⟩
  | moved moved =>
      obtain ⟨values, completed⟩ := lawful.moves_complete moved
      exact ⟨Nat.le_of_eq (Fence.issued_of_completeAll? completed).symm,
        Fence.completed_le_of_completeAll? completed⟩

theorem Leads.monotone {start later : World σ} (lawful : Queue.Lawful moves)
    (begun : start.Begins) (leads : Leads moves start world)
    (onward : Leads moves world later) :
    world.device.fence.issued ≤ later.device.fence.issued ∧
      world.device.fence.completed ≤ later.device.fence.completed := by
  induction onward with
  | refl => exact ⟨Nat.le_refl _, Nat.le_refl _⟩
  | tail earlier step inductionHypothesis =>
      have registered := Leads.registered begun (leads.trans earlier)
      obtain ⟨issued, completed⟩ := (step.effect registered).turn.monotone lawful
      exact ⟨Nat.le_trans inductionHypothesis.1 issued,
        Nat.le_trans inductionHypothesis.2 completed⟩

/-- No value is completed that was not handed out, if nothing is completed for a refused batch. -/
theorem Turn.completed_le (forgetful : Queue.Forgetful moves) (turn : Turn moves world after)
    (before : world.device.fence.completed ≤ world.device.fence.issued) :
    after.device.fence.completed ≤ after.device.fence.issued := by
  cases turn with
  | quiet quiet => rwa [quiet.fence]
  | @rejected slice error refused =>
      obtain ⟨values, earlier, completed⟩ := forgetful.refused_completes refused
      have reached := Fence.completed_of_completeAll?_le completed before
        fun value member => Nat.le_of_lt_succ (earlier value member)
      rw [fence_reject forgetful.toLawful]
      exact reached
  | @accepted slice taken =>
      obtain ⟨values, completed⟩ := forgetful.submit_completes world.device.queue
        world.device.fence.signalNext.1 world.device.heap
        (world.device.submission (slice.map CommandList.freeze))
      have bounded := Fence.le_issued_of_completeAll? completed
      have reached := Fence.completed_of_completeAll?_le completed
        (Nat.le_succ_of_le before) bounded
      exact Nat.le_trans reached
        (Nat.le_of_eq (issued_offered forgetful.toLawful world.device slice).symm)
  | moved moved =>
      obtain ⟨values, completed⟩ := forgetful.moves_complete moved
      have reached := Fence.completed_of_completeAll?_le completed before
        (Fence.le_issued_of_completeAll? completed)
      exact Nat.le_trans reached
        (Nat.le_of_eq (Fence.issued_of_completeAll? completed).symm)

theorem Leads.completed_le {start : World σ} (forgetful : Queue.Forgetful moves)
    (begun : start.Begins) (leads : Leads moves start world) :
    world.device.fence.completed ≤ world.device.fence.issued := by
  refine leads.invariant begun ?_
    fun _ before effect => effect.turn.completed_le forgetful before
  rw [begun.fresh.fence]
  exact Nat.le_refl _

/-- The submissions that wait carry the values from the last one completed to the last one handed
out, in order. -/
def InTurn (waiting : σ → List Submission) (world : World σ) : Prop :=
  ∃ count, world.device.fence.issued = world.device.fence.completed + count ∧
    (waiting world.device.queue).map Submission.signal =
      List.range' (world.device.fence.completed + 1) count

variable {waiting : σ → List Submission}

theorem InTurn.turn (inTurn : world.InTurn waiting) (lawful : Queue.Lawful moves)
    (fifo : Queue.Fifo moves waiting) (turn : Turn moves world after) :
    after.InTurn waiting := by
  obtain ⟨count, counted, signals⟩ := inTurn
  cases turn with
  | quiet quiet =>
      refine ⟨count, ?_, ?_⟩
      · rw [quiet.fence, counted]
      · rw [quiet.fence, quiet.queue, signals]
  | @rejected slice error refused =>
      obtain ⟨remaining, total, left⟩ := (fifo.refused refused).signals signals
      have issued : world.device.fence.issued =
          (world.device.offered slice).state.fence.completed + remaining :=
        counted.trans total
      refine ⟨remaining, ?_, ?_⟩
      · rw [fence_reject lawful]
        exact issued
      · rw [fence_reject lawful]
        exact left
  | @accepted slice taken =>
      obtain ⟨kept, keptSignal, _, finishes⟩ := fifo.accepted taken
      have signal : kept.signal = world.device.fence.completed + 1 + 1 * count := by
        rw [keptSignal, Nat.one_mul, Nat.add_right_comm, ← counted]
        rfl
      have longer : (waiting world.device.queue ++ [kept]).map Submission.signal =
          List.range' (world.device.fence.completed + 1) (count + 1) := by
        rw [List.map_append, signals, List.range'_concat, ← signal]
        rfl
      obtain ⟨remaining, total, left⟩ := finishes.signals longer
      refine ⟨remaining, ?_, left⟩
      have issued := issued_offered lawful world.device slice
      rw [counted, Nat.add_assoc] at issued
      exact issued.trans total
  | moved moved =>
      have finishes := fifo.moved moved
      obtain ⟨remaining, total, left⟩ := finishes.signals signals
      obtain ⟨finished, _, completed⟩ := finishes
      refine ⟨remaining, ?_, left⟩
      exact (Fence.issued_of_completeAll? completed).trans (counted.trans total)

theorem Leads.inTurn {start : World σ} (lawful : Queue.Lawful moves)
    (fifo : Queue.Fifo moves waiting) (begun : start.Begins)
    (idle : waiting start.device.queue = []) (leads : Leads moves start world) :
    world.InTurn waiting := by
  refine leads.invariant begun ⟨0, ?_, ?_⟩
    fun _ inTurn effect => inTurn.turn lawful fifo effect.turn
  · rw [begun.fresh.fence]
    rfl
  · rw [idle]
    rfl

/-- Every submission that waits was accepted, and mentions no other lists than it did then. -/
def Recognized (waiting : σ → List Submission) (world : World σ) : Prop :=
  ∀ submission ∈ waiting world.device.queue, ∃ entry ∈ world.entries,
    entry.signal = submission.signal ∧
      ∀ list, submission.mentions list = true → entry.mentions list = true

theorem Recognized.turn (recognized : world.Recognized waiting)
    (fifo : Queue.Fifo moves waiting) (turn : Turn moves world after) :
    after.Recognized waiting := by
  cases turn with
  | quiet quiet =>
      intro submission member
      rw [quiet.queue] at member
      rw [quiet.entries]
      exact recognized submission member
  | @rejected slice error refused =>
      obtain ⟨finished, shape, _⟩ := fifo.refused refused
      intro submission member
      exact recognized submission (shape ▸ List.mem_append_right finished member)
  | @accepted slice taken =>
      obtain ⟨kept, keptSignal, mentioned, finished, shape, _⟩ := fifo.accepted taken
      intro submission member
      have present : submission ∈ waiting world.device.queue ++ [kept] := by
        rw [shape]
        exact List.mem_append_right finished member
      rcases List.mem_append.mp present with earlier | new
      · obtain ⟨entry, entryMember, same⟩ := recognized submission earlier
        exact ⟨entry, List.mem_append_left _ entryMember, same⟩
      · rw [List.mem_singleton.mp new]
        exact ⟨_, List.mem_append_right _ (List.mem_singleton_self _), keptSignal.symm, mentioned⟩
  | moved moved =>
      obtain ⟨finished, shape, _⟩ := fifo.moved moved
      intro submission member
      exact recognized submission (shape ▸ List.mem_append_right finished member)

theorem Leads.recognized {start : World σ} (fifo : Queue.Fifo moves waiting)
    (begun : start.Begins) (idle : waiting start.device.queue = [])
    (leads : Leads moves start world) : world.Recognized waiting := by
  have first : start.Recognized waiting := by
    intro submission member
    rw [idle] at member
    cases member
  exact leads.invariant begun first fun _ recognized effect => recognized.turn fifo effect.turn

/-- Leaving the queue to run until nothing is left to do is part of a run. -/
theorem Leads.settle {start : World σ} (lawful : Queue.Lawful moves)
    (fifo : Queue.Fifo moves waiting) (settles : Queue.Settles moves waiting)
    (begun : start.Begins) (idle : waiting start.device.queue = [])
    (leads : Leads moves start world) (scene : Scene) :
    Leads moves start { world with device := (world.device.settle scene).1 } := by
  obtain ⟨count, counted, signals⟩ := Leads.inTurn lawful fifo begun idle leads
  have handedOut : ∀ submission ∈ waiting world.device.queue,
      submission.signal ≤ world.device.fence.issued := by
    intro submission member
    have signal := List.mem_map_of_mem (f := Submission.signal) member
    rw [signals, List.mem_range'_1, Nat.add_right_comm, ← counted] at signal
    exact Nat.le_of_lt_succ signal.2
  have run := settles world.device.queue world.device.fence world.device.heap scene handedOut
  have lifted : ∀ after, Relation.ReflTransGen moves world.clocked after →
      Leads moves world (world.moved after) := by
    intro after moved
    induction moved with
    | refl => exact Relation.ReflTransGen.refl
    | tail _ next inductionHypothesis => exact inductionHypothesis.tail (Step.moves next)
  exact leads.trans (lifted _ run)

/-! ## The timeline without gaps -/

/-- The counters of a device between calls, and what its fence answers from then on about the
values that were returned for accepted batches. -/
structure GapFree (moves : Clocked σ → Clocked σ → Prop) (world start : World σ) : Prop where
  completed : world.device.fence.completed ≤ world.device.fence.issued
  issued : world.device.fence.issued = world.entries.length
  submissions : world.device.stats.submissions = world.entries.length
  signals : world.entries.map Submission.signal = List.range' 1 world.entries.length
  returned : (Journal.acceptances world.journal).map Prod.fst =
    world.entries.map Submission.signal
  monotone : ∀ later, Leads moves world later →
    world.device.fence.issued ≤ later.device.fence.issued ∧
      world.device.fence.completed ≤ later.device.fence.completed
  answered : ∀ signal lists, .accepted signal lists ∈ world.journal →
    ∀ later, Leads moves world later →
      (∃ answer, later.device.fence.reached signal = .ok answer) ∧
        ∀ error, Script.DeviceSteps.waitOn later.device.fence signal ≠ .failed error
  stays : ∀ value, world.device.fence.reached value = .ok true →
    ∀ later, Leads moves world later → later.device.fence.reached value = .ok true
  completable : ∀ entry ∈ world.entries, (world.device.fence.complete? entry.signal).isSome
  pending : ∀ waiting, Queue.Fifo moves waiting → waiting start.device.queue = [] →
    (waiting world.device.queue).map Submission.signal =
      List.range' (world.device.fence.completed + 1)
        (world.device.fence.issued - world.device.fence.completed)

/-- With a queue that keeps nothing of what it refuses, the timeline has no gaps. -/
theorem gapFree_of_leads {start : World σ} (forgetful : Queue.Forgetful moves)
    (begun : start.Begins) (leads : Leads moves start world) : world.GapFree moves start := by
  have lawful := forgetful.toLawful
  have onTime := Leads.onTime lawful begun leads
  have later_le : ∀ later, Leads moves world later →
      world.device.fence.issued ≤ later.device.fence.issued ∧
        world.device.fence.completed ≤ later.device.fence.completed :=
    fun later onward => Leads.monotone lawful begun leads onward
  refine ⟨Leads.completed_le forgetful begun leads, onTime.issued, onTime.submissions,
    onTime.signals, onTime.returned, later_le, ?_, ?_, ?_, ?_⟩
  · intro signal lists accepted later onward
    have returned : signal ∈ world.entries.map Submission.signal := by
      rw [← onTime.returned]
      exact List.mem_map_of_mem (Journal.mem_acceptances_iff.mpr accepted)
    have handedOut : signal ≤ later.device.fence.issued :=
      Nat.le_trans (onTime.le_issued returned) (later_le later onward).1
    refine ⟨⟨_, Fence.reached_of_le handedOut⟩, ?_⟩
    intro error failed
    rw [Script.DeviceSteps.waitOn, Fence.reached_of_le handedOut] at failed
    by_cases done : signal ≤ later.device.fence.completed
    · rw [decide_eq_true done] at failed
      cases failed
    · rw [decide_eq_false done] at failed
      cases failed
  · intro value reached later onward
    obtain ⟨handedOut, done⟩ := Fence.reached_eq_true_iff.mp reached
    obtain ⟨issued, completed⟩ := later_le later onward
    exact Fence.reached_eq_true_iff.mpr
      ⟨Nat.le_trans handedOut issued, Nat.le_trans done completed⟩
  · intro entry member
    exact (Fence.complete?_isSome_iff _ _).mpr
      (onTime.le_issued (List.mem_map_of_mem member))
  · intro waiting fifo idle
    obtain ⟨count, counted, signals⟩ := Leads.inTurn lawful fifo begun idle leads
    have remaining : world.device.fence.issued - world.device.fence.completed = count := by
      rw [counted]
      exact Nat.add_sub_cancel_left _ _
    rw [remaining, signals]

end Queued

/-- A copy that the soft queue has not run yet. -/
theorem gapFree_of_leads_busy :
    Queue.Forgetful SoftQueue.Runs ∧ (small (SoftQueue.new SoftQueue.defaultLabel)).Begins ∧
      Leads SoftQueue.Runs (small (SoftQueue.new SoftQueue.defaultLabel))
        (busy (SoftQueue.new SoftQueue.defaultLabel)) ∧
      (busy (SoftQueue.new SoftQueue.defaultLabel)).GapFree SoftQueue.Runs
        (small (SoftQueue.new SoftQueue.defaultLabel)) ∧
      (busy (SoftQueue.new SoftQueue.defaultLabel)).device.queue.pending.map Submission.signal =
        List.range' 1 1 := by
  have gapFree := gapFree_of_leads SoftQueue.forgetful begins_soft (leads_busy rfl)
  have pending := gapFree.pending SoftQueue.pending SoftQueue.orderly.toFifo rfl
  exact ⟨SoftQueue.forgetful, begins_soft, leads_busy rfl, gapFree, pending⟩

end World

end CommandQueue
