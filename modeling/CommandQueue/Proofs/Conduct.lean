import CommandQueue.Queue.Gpu
import CommandQueue.Queue.Manual
import CommandQueue.Queue.Soft
import Mathlib.Logic.Relation

/-!
# The conduct of queues

A queue answers when it is handed a submission, and between calls it moves by
itself: it completes values and lets streams go.  Its conduct is its `submit`
together with the relation `moves` of the steps that it may take by itself.

* `Queue.Lawful`: the queue completes only values that were handed out, in any
  order, and refers only to streams that were handed to it, for any time.
* `Queue.Forgetful`: moreover, the queue completes nothing on behalf of a
  submission that it refuses.
* `Queue.Fifo`: the queue completes its submissions in the order in which it
  took them.
* `Queue.Orderly`: moreover, it lets the streams of a submission go before it
  completes its signal, and at once if it refuses the submission.
* `Queue.Settles`: left to run, the queue only makes such moves.

`Queue.Serves` follows a queue from call to call, with the submissions that it
was handed and took.
-/

namespace CommandQueue

namespace Fence

/-- Complete values one after the other, as long as each was handed out. -/
def completeAll? (fence : Fence) : List FenceValue → Option Fence
  | [] => some fence
  | value :: rest =>
      (fence.complete? value).bind fun after => after.completeAll? rest

theorem complete?_eq_some_iff {fence after : Fence} {value : FenceValue} :
    fence.complete? value = some after ↔
      value ≤ fence.issued ∧
        after = { fence with completed := max fence.completed value } := by
  unfold complete?
  by_cases handedOut : value ≤ fence.issued
  · simp [handedOut, eq_comm]
  · simp [handedOut]

theorem completeAll?_cons_eq_some_iff {fence after : Fence} {value : FenceValue}
    {rest : List FenceValue} :
    fence.completeAll? (value :: rest) = some after ↔
      ∃ middle, fence.complete? value = some middle ∧
        middle.completeAll? rest = some after := by
  rw [completeAll?, Option.bind_eq_some_iff]

theorem issued_of_completeAll? {values : List FenceValue} {fence after : Fence}
    (completed : fence.completeAll? values = some after) :
    after.issued = fence.issued := by
  induction values generalizing fence with
  | nil =>
      cases completed
      rfl
  | cons value rest inductionHypothesis =>
      obtain ⟨middle, first, others⟩ := completeAll?_cons_eq_some_iff.mp completed
      rw [inductionHypothesis others, (complete?_eq_some_iff.mp first).2]

theorem completed_le_of_completeAll? {values : List FenceValue} {fence after : Fence}
    (completed : fence.completeAll? values = some after) :
    fence.completed ≤ after.completed := by
  induction values generalizing fence with
  | nil =>
      cases completed
      exact Nat.le_refl _
  | cons value rest inductionHypothesis =>
      obtain ⟨middle, first, others⟩ := completeAll?_cons_eq_some_iff.mp completed
      have grown : fence.completed ≤ middle.completed := by
        rw [(complete?_eq_some_iff.mp first).2]
        exact Nat.le_max_left _ _
      exact Nat.le_trans grown (inductionHypothesis others)

/-- Completing values moves the completed count to none above them. -/
theorem completed_of_completeAll?_le {values : List FenceValue} {fence after : Fence}
    {bound : FenceValue} (completed : fence.completeAll? values = some after)
    (before : fence.completed ≤ bound) (bounded : ∀ value ∈ values, value ≤ bound) :
    after.completed ≤ bound := by
  induction values generalizing fence with
  | nil =>
      cases completed
      exact before
  | cons value rest inductionHypothesis =>
      obtain ⟨middle, first, others⟩ := completeAll?_cons_eq_some_iff.mp completed
      have middleBounded : middle.completed ≤ bound := by
        rw [(complete?_eq_some_iff.mp first).2]
        exact Nat.max_le.mpr ⟨before, bounded value List.mem_cons_self⟩
      exact inductionHypothesis others middleBounded
        fun later member => bounded later (List.mem_cons_of_mem value member)

theorem le_issued_of_completeAll? {values : List FenceValue} {fence after : Fence}
    (completed : fence.completeAll? values = some after) :
    ∀ value ∈ values, value ≤ fence.issued := by
  induction values generalizing fence with
  | nil => simp
  | cons value rest inductionHypothesis =>
      obtain ⟨middle, first, others⟩ := completeAll?_cons_eq_some_iff.mp completed
      obtain ⟨handedOut, shape⟩ := complete?_eq_some_iff.mp first
      intro later member
      rcases List.mem_cons.mp member with equal | inRest
      · rw [equal]
        exact handedOut
      · simpa [shape] using inductionHypothesis others later inRest

/-- Completing the next values in turn moves the completed count to the last of them. -/
theorem completed_of_completeAll?_range' {count : Nat} {fence after : Fence}
    (completed :
      fence.completeAll? (List.range' (fence.completed + 1) count) = some after) :
    after.completed = fence.completed + count := by
  induction count generalizing fence with
  | zero =>
      cases completed
      rfl
  | succ count inductionHypothesis =>
      rw [List.range'_succ] at completed
      obtain ⟨middle, first, others⟩ := completeAll?_cons_eq_some_iff.mp completed
      have moved : middle.completed = fence.completed + 1 := by
        rw [(complete?_eq_some_iff.mp first).2]
        exact Nat.max_eq_right (Nat.le_succ _)
      rw [← moved] at others
      rw [inductionHypothesis others, moved]
      exact Nat.add_right_comm fence.completed 1 count

end Fence

namespace Queue

section Conduct

variable {σ : Type} [Queue σ]

/-- The queue completes only values that were handed out, and refers only to streams that were
handed to it. -/
structure Lawful (moves : Clocked σ → Clocked σ → Prop) : Prop where
  submit_completes (queue : σ) (fence : Fence) (heap : DescriptorHeap)
    (submission : Submission) :
    ∃ values,
      fence.completeAll? values = some (submit queue fence heap submission).state.fence
  submit_holds {queue : σ} {fence : Fence} {heap : DescriptorHeap} {submission : Submission}
    {list : ListId} :
    holds (submit queue fence heap submission).state.queue list = true →
      holds queue list = true ∨ submission.mentions list = true
  moves_complete {before after : Clocked σ} :
    moves before after → ∃ values, before.fence.completeAll? values = some after.fence
  moves_hold {before after : Clocked σ} {list : ListId} :
    moves before after → holds after.queue list = true → holds before.queue list = true

/-- Together with a submission that it refuses, the queue completes only earlier values. -/
structure Forgetful (moves : Clocked σ → Clocked σ → Prop) : Prop extends Lawful moves where
  refused_completes {queue : σ} {fence : Fence} {heap : DescriptorHeap}
    {submission : Submission} {error : Error} :
    (submit queue fence heap submission).result = .error error →
      ∃ values, (∀ value ∈ values, value < submission.signal) ∧
        fence.completeAll? values = some (submit queue fence heap submission).state.fence

/-- The first submissions that wait are finished in turn, and the others go on waiting. -/
def Finishes (waiting : List Submission) (fence : Fence) (left : List Submission)
    (after : Fence) : Prop :=
  ∃ finished, waiting = finished ++ left ∧
    fence.completeAll? (finished.map Submission.signal) = some after

/-- The queue completes its submissions in the order in which it took them.  Of a submission that
waits the queue may refer to some streams only. -/
structure Fifo (moves : Clocked σ → Clocked σ → Prop) (waiting : σ → List Submission) :
    Prop where
  accepted {queue : σ} {fence : Fence} {heap : DescriptorHeap} {submission : Submission} :
    (submit queue fence heap submission).result = .ok () →
      ∃ kept : Submission, kept.signal = submission.signal ∧
        (∀ list, kept.mentions list = true → submission.mentions list = true) ∧
        Finishes (waiting queue ++ [kept]) fence
          (waiting (submit queue fence heap submission).state.queue)
          (submit queue fence heap submission).state.fence
  refused {queue : σ} {fence : Fence} {heap : DescriptorHeap} {submission : Submission}
    {error : Error} :
    (submit queue fence heap submission).result = .error error →
      Finishes (waiting queue) fence
        (waiting (submit queue fence heap submission).state.queue)
        (submit queue fence heap submission).state.fence
  moved {before after : Clocked σ} :
    moves before after →
      Finishes (waiting before.queue) before.fence (waiting after.queue) after.fence

/-- The queue refers to the streams of a submission only as long as the submission waits. -/
structure Orderly (moves : Clocked σ → Clocked σ → Prop) (waiting : σ → List Submission) :
    Prop extends Fifo moves waiting where
  holds_waiting {queue : σ} {list : ListId} :
    holds queue list = true → ∃ submission ∈ waiting queue, submission.mentions list = true

/-- A queue that is left to run makes nothing but moves, if what it took was handed out. -/
def Settles (moves : Clocked σ → Clocked σ → Prop) (waiting : σ → List Submission) : Prop :=
  ∀ (queue : σ) (fence : Fence) (heap : DescriptorHeap) (scene : Scene),
    (∀ submission ∈ waiting queue, submission.signal ≤ fence.issued) →
      Relation.ReflTransGen moves ⟨queue, fence⟩
        ⟨(settle queue fence heap scene).queue, (settle queue fence heap scene).fence⟩

/-- Any move that completes only values handed out and takes up no stream. -/
def AnyMove (before after : Clocked σ) : Prop :=
  (∃ values, before.fence.completeAll? values = some after.fence) ∧
    ∀ list, holds after.queue list = true → holds before.queue list = true

/-- The queue came from one state to another: it was handed submissions, each under the next value
of the timeline, and moved in between.  Those that it took are listed in order. -/
inductive Serves (moves : Clocked σ → Clocked σ → Prop) (start : Clocked σ) :
    List Submission → Clocked σ → Prop
  | start : Serves moves start [] start
  | took {served : List Submission} {now : Clocked σ} (earlier : Serves moves start served now)
      {heap : DescriptorHeap} {submission : Submission}
      (signal : submission.signal = now.fence.signalNext.2)
      (taken : (submit now.queue now.fence.signalNext.1 heap submission).result = .ok ()) :
      Serves moves start (served ++ [submission])
        (submit now.queue now.fence.signalNext.1 heap submission).state
  | refused {served : List Submission} {now : Clocked σ} (earlier : Serves moves start served now)
      {heap : DescriptorHeap} {submission : Submission} {error : Error}
      (signal : submission.signal = now.fence.signalNext.2)
      (rejected : (submit now.queue now.fence.signalNext.1 heap submission).result = .error error) :
      Serves moves start served
        { (submit now.queue now.fence.signalNext.1 heap submission).state with
          fence := (submit now.queue now.fence.signalNext.1 heap submission).state.fence.cancel
            submission.signal }
  | moved {served : List Submission} {now after : Clocked σ}
      (earlier : Serves moves start served now) (step : moves now after) :
      Serves moves start served after

end Conduct

end Queue

/-! ## The manual queue -/

namespace ManualQueue

theorem completeAll?_finishAll (submissions : List Submission) (queue : ManualQueue)
    (fence : Fence) :
    ∃ values, fence.completeAll? values = some (finishAll submissions queue fence).fence := by
  induction submissions generalizing queue fence with
  | nil => exact ⟨[], rfl⟩
  | cons submission rest inductionHypothesis =>
      rw [finishAll]
      cases completed : fence.complete? submission.signal with
      | none => exact inductionHypothesis (queue.letGo submission) fence
      | some after =>
          obtain ⟨values, others⟩ := inductionHypothesis (queue.letGo submission) after
          exact ⟨submission.signal :: values,
            Fence.completeAll?_cons_eq_some_iff.mpr ⟨after, completed, others⟩⟩

theorem holds_letGo {queue : ManualQueue} {submission : Submission} {list : ListId}
    (held : (queue.letGo submission).holds list = true) :
    queue.holds list = true ∨ submission.mentions list = true := by
  unfold letGo at held
  split at held
  · simp only [holds, List.any_append, List.any_cons, List.any_nil, Bool.or_false,
      Bool.or_eq_true] at held ⊢
    rcases held with pending | kept | own
    · exact Or.inl (Or.inl pending)
    · exact Or.inl (Or.inr kept)
    · exact Or.inr own
  · exact Or.inl held

/-- Finishing submissions takes up no stream but theirs. -/
theorem holds_finishAll {submissions : List Submission} {queue : ManualQueue} {fence : Fence}
    {list : ListId} (held : (finishAll submissions queue fence).queue.holds list = true) :
    queue.holds list = true ∨ ∃ submission ∈ submissions, submission.mentions list = true := by
  induction submissions generalizing queue fence with
  | nil => exact Or.inl held
  | cons submission rest inductionHypothesis =>
      rw [finishAll] at held
      rcases inductionHypothesis held with before | ⟨later, member, mentioned⟩
      · rcases holds_letGo before with earlier | own
        · exact Or.inl earlier
        · exact Or.inr ⟨submission, List.mem_cons_self, own⟩
      · exact Or.inr ⟨later, List.mem_cons_of_mem submission member, mentioned⟩

theorem submit_of_rejections {queue : ManualQueue} (fence : Fence) (submission : Submission)
    (refusing : queue.rejections ≠ 0) :
    queue.submit fence submission =
      .refused
        ⟨{ queue with
            fenceSeen := true
            rejections := queue.rejections - 1
            rejected := queue.rejected + 1 }, fence⟩
        queue.refusal [] := by
  simp [submit, refusing]

theorem submit_of_no_rejections {queue : ManualQueue} (fence : Fence)
    (submission : Submission) (taking : queue.rejections = 0) :
    queue.submit fence submission =
      .done
        (if queue.auto then
          finishAll (queue.pending ++ [submission])
            { queue with fenceSeen := true, pending := [], accepted := queue.accepted + 1 } fence
        else
          ⟨{ queue with
              fenceSeen := true
              pending := queue.pending ++ [submission]
              accepted := queue.accepted + 1 }, fence⟩)
        () [] := by
  simp [submit, taking]

theorem holds_of_pending {queue : ManualQueue} {submission : Submission} {list : ListId}
    (member : submission ∈ queue.pending) (mentioned : submission.mentions list = true) :
    queue.holds list = true := by
  rw [holds, Bool.or_eq_true]
  exact Or.inl (List.any_eq_true.mpr ⟨submission, member, mentioned⟩)

/-- Finishing a submission whenever it is told to is a move of the manual queue. -/
theorem anyMove_finish {queue : ManualQueue} {fence after : Fence} {signal : FenceValue}
    (completed : fence.complete? signal = some after) :
    Queue.AnyMove ⟨queue, fence⟩ (⟨queue.finish signal, after⟩ : Clocked ManualQueue) := by
  refine ⟨⟨[signal], Fence.completeAll?_cons_eq_some_iff.mpr ⟨after, completed, rfl⟩⟩, ?_⟩
  intro list held
  change (queue.finish signal).holds list = true at held
  change queue.holds list = true
  unfold finish at held
  cases found : queue.pending.find? fun submission => submission.signal == signal with
  | none =>
      rw [found] at held
      exact held
  | some submission =>
      rw [found] at held
      rcases holds_letGo held with before | mentioned
      · rw [holds, Bool.or_eq_true] at before ⊢
        rcases before with pending | kept
        · obtain ⟨waiting, member, mentioned⟩ := List.any_eq_true.mp pending
          exact Or.inl (List.any_eq_true.mpr
            ⟨waiting, List.mem_of_mem_eraseP member, mentioned⟩)
        · exact Or.inr kept
      · exact holds_of_pending (List.mem_of_find?_eq_some found) mentioned

/-- Whatever a manual queue is told to do between calls, its conduct is lawful, and it keeps
nothing of what it refuses. -/
theorem forgetful : @Queue.Forgetful ManualQueue _ Queue.AnyMove where
  submit_completes queue fence heap submission := by
    change ∃ values, _ = some (queue.submit fence submission).state.fence
    by_cases taking : queue.rejections = 0
    · rw [submit_of_no_rejections fence submission taking]
      by_cases auto : queue.auto = true
      · simpa [Outcome.done, auto] using completeAll?_finishAll _ _ fence
      · exact ⟨[], by simp [Outcome.done, auto, Fence.completeAll?]⟩
    · rw [submit_of_rejections fence submission taking]
      exact ⟨[], rfl⟩
  submit_holds := by
    intro queue fence heap submission list held
    change (queue.submit fence submission).state.queue.holds list = true at held
    change queue.holds list = true ∨ submission.mentions list = true
    by_cases taking : queue.rejections = 0
    · rw [submit_of_no_rejections fence submission taking] at held
      by_cases auto : queue.auto = true
      · simp only [Outcome.done, if_pos auto] at held
        rcases holds_finishAll held with kept | ⟨finished, member, mentioned⟩
        · exact Or.inl (by simp_all [holds])
        · rcases List.mem_append.mp member with waiting | new
          · exact Or.inl (holds_of_pending waiting mentioned)
          · rw [List.mem_singleton.mp new] at mentioned
            exact Or.inr mentioned
      · simp only [Outcome.done, if_neg auto, holds, List.any_append, List.any_cons,
          List.any_nil, Bool.or_false, Bool.or_eq_true] at held ⊢
        rcases held with (waiting | new) | kept
        · exact Or.inl (Or.inl waiting)
        · exact Or.inr new
        · exact Or.inl (Or.inr kept)
    · rw [submit_of_rejections fence submission taking] at held
      exact Or.inl held
  moves_complete moved := moved.1
  moves_hold {_ _ list} moved := moved.2 list
  refused_completes := by
    intro queue fence heap submission error refused
    change (queue.submit fence submission).result = .error error at refused
    change ∃ values, _ ∧ _ = some (queue.submit fence submission).state.fence
    by_cases taking : queue.rejections = 0
    · rw [submit_of_no_rejections fence submission taking] at refused
      cases refused
    · rw [submit_of_rejections fence submission taking]
      exact ⟨[], by simp, rfl⟩

end ManualQueue

/-! ## The soft queue -/

namespace SoftQueue

/-- The soft queue runs its oldest submission, whose signal was handed out. -/
inductive Runs : Clocked SoftQueue → Clocked SoftQueue → Prop
  | next {queue : SoftQueue} {fence : Fence} {submission : Submission}
      {rest : List Submission} (heap : DescriptorHeap) (scene : Scene)
      (pending : queue.pending = submission :: rest)
      (handedOut : submission.signal ≤ fence.issued) :
      Runs ⟨queue, fence⟩
        ⟨(queue.runNext fence heap scene).queue, (queue.runNext fence heap scene).fence⟩

theorem runNext_of_pending {queue : SoftQueue} {fence : Fence} {submission : Submission}
    {rest : List Submission} (heap : DescriptorHeap) (scene : Scene)
    (pending : queue.pending = submission :: rest)
    (handedOut : submission.signal ≤ fence.issued) :
    (queue.runNext fence heap scene).queue.pending = rest ∧
      fence.complete? submission.signal = some (queue.runNext fence heap scene).fence := by
  simp [runNext, pending, Fence.complete?, handedOut]

theorem runNext_of_idle {queue : SoftQueue} (idle : queue.pending = []) (fence : Fence)
    (heap : DescriptorHeap) (scene : Scene) :
    queue.runNext fence heap scene = ⟨queue, fence, scene, []⟩ := by
  simp [runNext, idle]

theorem pending_runNext (queue : SoftQueue) (fence : Fence) (heap : DescriptorHeap)
    (scene : Scene) : (queue.runNext fence heap scene).queue.pending = queue.pending.tail := by
  cases pending : queue.pending with
  | nil => simp [runNext, pending]
  | cons submission rest => simp [runNext, pending]

theorem finishes_of_runs {before after : Clocked SoftQueue} (ran : Runs before after) :
    Queue.Finishes before.queue.pending before.fence after.queue.pending after.fence := by
  cases ran with
  | @next queue fence submission rest heap scene pending handedOut =>
      obtain ⟨left, completed⟩ := runNext_of_pending heap scene pending handedOut
      refine ⟨[submission], ?_, ?_⟩
      · simp [left, pending]
      · exact Fence.completeAll?_cons_eq_some_iff.mpr ⟨_, completed, rfl⟩

theorem holds_iff {queue : SoftQueue} {list : ListId} :
    Queue.holds queue list = true ↔
      ∃ submission ∈ queue.pending, submission.mentions list = true :=
  List.any_eq_true

/-- The soft queue keeps nothing of a submission that it refuses: it refuses none. -/
theorem forgetful : Queue.Forgetful Runs where
  submit_completes _ _ _ _ := ⟨[], rfl⟩
  submit_holds := by
    intro queue fence heap submission list held
    rw [holds_iff] at held ⊢
    obtain ⟨later, member, mentioned⟩ := held
    rcases List.mem_append.mp member with waiting | new
    · exact Or.inl ⟨later, waiting, mentioned⟩
    · rw [List.mem_singleton.mp new] at mentioned
      exact Or.inr mentioned
  moves_complete ran := by
    obtain ⟨finished, _, completed⟩ := finishes_of_runs ran
    exact ⟨finished.map Submission.signal, completed⟩
  moves_hold := by
    intro before after list ran held
    obtain ⟨finished, shape, _⟩ := finishes_of_runs ran
    rw [holds_iff] at held ⊢
    obtain ⟨later, member, mentioned⟩ := held
    exact ⟨later, shape ▸ List.mem_append_right finished member, mentioned⟩
  refused_completes refused := by cases refused

/-- The soft queue runs its submissions in turn, and lets the streams of a submission go before it
completes its signal. -/
theorem orderly : Queue.Orderly Runs SoftQueue.pending where
  accepted {_ _ _ submission} _ := ⟨submission, rfl, fun _ mentioned => mentioned, [], rfl, rfl⟩
  refused refused := by cases refused
  moved := finishes_of_runs
  holds_waiting := holds_iff.mp

theorem runs_runMany (heap : DescriptorHeap) (scene : Scene) (count : Nat) {queue : SoftQueue}
    {fence : Fence} (handedOut : ∀ submission ∈ queue.pending, submission.signal ≤ fence.issued) :
    Relation.ReflTransGen Runs ⟨queue, fence⟩
      ⟨(queue.runMany fence heap scene count).queue,
        (queue.runMany fence heap scene count).fence⟩ := by
  induction count generalizing queue fence scene with
  | zero => exact Relation.ReflTransGen.refl
  | succ count inductionHypothesis =>
      rw [runMany]
      cases pending : queue.pending with
      | nil =>
          rw [runNext_of_idle pending]
          exact inductionHypothesis scene handedOut
      | cons submission rest =>
          rw [pending] at handedOut
          have first := handedOut submission List.mem_cons_self
          obtain ⟨left, completed⟩ := runNext_of_pending heap scene pending first
          refine Relation.ReflTransGen.head (Runs.next heap scene pending first) ?_
          refine inductionHypothesis (queue.runNext fence heap scene).scene ?_
          intro later member
          rw [left] at member
          rw [(Fence.complete?_eq_some_iff.mp completed).2]
          exact handedOut later (List.mem_cons_of_mem submission member)

theorem settles : Queue.Settles Runs SoftQueue.pending := by
  intro queue fence heap scene handedOut
  exact runs_runMany heap scene queue.pending.length handedOut

end SoftQueue

/-! ## The GPU queue -/

namespace GpuQueue

/-- What waits in the GPU queue: signals only, since encoded commands refer to no stream. -/
def waiting (queue : GpuQueue) : List Submission :=
  queue.pending.map fun submission => ⟨submission.signal, []⟩

/-- The GPU queue carries out its oldest submission, whose signal was handed out. -/
inductive Runs : Clocked GpuQueue → Clocked GpuQueue → Prop
  | next {queue : GpuQueue} {fence after : Fence} {submission : EncodedSubmission}
      {rest : List EncodedSubmission} (pending : queue.pending = submission :: rest)
      (completed : fence.complete? submission.signal = some after) :
      Runs ⟨queue, fence⟩ ⟨{ queue with pending := rest }, after⟩

theorem finishes_of_runs {before after : Clocked GpuQueue} (ran : Runs before after) :
    Queue.Finishes before.queue.waiting before.fence after.queue.waiting after.fence := by
  cases ran with
  | @next queue fence next submission rest pending completed =>
      refine ⟨[⟨submission.signal, []⟩], ?_, ?_⟩
      · simp [waiting, pending]
      · exact Fence.completeAll?_cons_eq_some_iff.mpr ⟨_, completed, rfl⟩

theorem fence_submit (queue : GpuQueue) (fence : Fence) (heap : DescriptorHeap)
    (submission : Submission) : (queue.submit fence heap submission).state.fence = fence := by
  unfold submit
  dsimp only
  split <;> rfl

theorem forgetful : Queue.Forgetful Runs where
  submit_completes queue fence heap submission :=
    ⟨[], congrArg some (fence_submit queue fence heap submission).symm⟩
  submit_holds held := by cases held
  moves_complete ran := by
    obtain ⟨finished, _, completed⟩ := finishes_of_runs ran
    exact ⟨finished.map Submission.signal, completed⟩
  moves_hold _ held := by cases held
  refused_completes {queue fence heap submission _} _ :=
    ⟨[], by simp, congrArg some (fence_submit queue fence heap submission).symm⟩

/-- The GPU queue carries out its submissions in turn, and refers to no stream. -/
theorem orderly : Queue.Orderly Runs waiting where
  accepted := by
    intro queue fence heap submission accepted
    change (queue.submit fence heap submission).result = .ok () at accepted
    refine ⟨⟨submission.signal, []⟩, rfl, nofun, [], ?_, ?_⟩
    · change _ = waiting (queue.submit fence heap submission).state.queue
      unfold submit at accepted ⊢
      dsimp only at accepted ⊢
      split at accepted
      · cases accepted
      · simp [Outcome.done, waiting]
    · exact congrArg some (fence_submit queue fence heap submission).symm
  refused := by
    intro queue fence heap submission error refused
    change (queue.submit fence heap submission).result = .error error at refused
    refine ⟨[], ?_, congrArg some (fence_submit queue fence heap submission).symm⟩
    change _ = waiting (queue.submit fence heap submission).state.queue
    unfold submit at refused ⊢
    dsimp only at refused ⊢
    split at refused
    · simp [Outcome.refused, waiting]
    · cases refused
  moved := finishes_of_runs
  holds_waiting held := by cases held

theorem runs_carryOutAll (carry : Carrier) (pending : List EncodedSubmission) (queue : GpuQueue)
    (fence : Fence) (scene : Scene) (taken : queue.pending = pending)
    (handedOut : ∀ submission ∈ pending, submission.signal ≤ fence.issued) :
    Relation.ReflTransGen Runs ⟨queue, fence⟩
      ⟨{ queue with pending := [] }, (carryOutAll carry pending fence scene).1⟩ := by
  induction pending generalizing queue fence scene with
  | nil =>
      have same : { queue with pending := [] } = queue := by rw [← taken]
      rw [same]
      exact Relation.ReflTransGen.refl
  | cons submission rest inductionHypothesis =>
      have first := handedOut submission List.mem_cons_self
      have completed : fence.complete? submission.signal =
          some { fence with completed := max fence.completed submission.signal } :=
        Fence.complete?_eq_some_iff.mpr ⟨first, rfl⟩
      refine Relation.ReflTransGen.head (Runs.next taken completed) ?_
      rw [carryOutAll, completed]
      exact inductionHypothesis { queue with pending := rest } _ _ rfl
        fun later member => handedOut later (List.mem_cons_of_mem submission member)

theorem settles : Queue.Settles Runs waiting := by
  intro queue fence heap scene handedOut
  refine runs_carryOutAll _ queue.pending queue fence scene rfl ?_
  intro submission member
  exact handedOut ⟨submission.signal, []⟩ (List.mem_map.mpr ⟨submission, member, rfl⟩)

end GpuQueue

end CommandQueue
