import CommandQueue.Proofs.Recordings

/-!
# Batches

A batch of lists is handed to the queue as a whole.

* A list that the device cannot hand over refuses the batch before the queue is
  asked, and then nothing has happened.
* If the queue refuses the batch, the lists stay closed with what was recorded in
  them, and of the device only the queue's own book-keeping may differ.
* If the queue accepts the batch, all its lists are submitted under one value.

A batch that the queue has refused can be handed over again as it came back.
However often that happens, once it is accepted the device, its lists and the
submissions are those of a batch that was accepted at once.  The states of a
queue are compared by a relation that satisfies `Queue.Steady`.
-/

namespace CommandQueue

namespace Queue

/-- States of a queue that have taken the same work and refer to the same streams.  Of a
submission that it refuses the queue keeps nothing, and what it makes of an accepted one depends
on nothing but the work it has taken. -/
structure Steady {σ : Type} [Queue σ] (alike : σ → σ → Prop) : Prop where
  equivalence : Equivalence alike
  same_held {left right : σ} (list : ListId) :
    alike left right → Queue.holds left list = Queue.holds right list
  refused {queue : σ} {fence : Fence} {heap : DescriptorHeap} {submission : Submission}
    {error : Error} :
    (submit queue fence heap submission).result = .error error →
      alike (submit queue fence heap submission).state.queue queue ∧
        (submit queue fence heap submission).state.fence = fence
  accepted {left right : σ} {fence : Fence} {heap : DescriptorHeap} {submission : Submission} :
    alike left right → (submit left fence heap submission).result = .ok () →
      (submit right fence heap submission).result = .ok () →
        alike (submit left fence heap submission).state.queue
            (submit right fence heap submission).state.queue ∧
          (submit left fence heap submission).state.fence =
            (submit right fence heap submission).state.fence

end Queue

/-! ## Steady queues -/

namespace ManualQueue

/-- A manual queue without what concerns refusals. -/
def work (queue : ManualQueue) : ManualQueue :=
  { queue with rejections := 0, closed := false, rejected := 0, fenceSeen := false }

theorem work_eq_iff {left right : ManualQueue} :
    left.work = right.work ↔
      left.label = right.label ∧ left.pending = right.pending ∧ left.held = right.held ∧
        left.auto = right.auto ∧ left.hold = right.hold ∧ left.accepted = right.accepted := by
  simp [work]

theorem letGo_of_work {left right : ManualQueue} (same : left.work = right.work)
    (submission : Submission) :
    (left.letGo submission).work = (right.letGo submission).work := by
  obtain ⟨label, pending, held, auto, hold, accepted⟩ := work_eq_iff.mp same
  unfold letGo
  by_cases keeping : right.hold = true
  · rw [if_pos (hold.trans keeping), if_pos keeping]
    exact work_eq_iff.mpr
      ⟨label, pending, congrArg (· ++ [submission]) held, auto, hold, accepted⟩
  · rw [if_neg (hold ▸ keeping), if_neg keeping]
    exact same

theorem finishAll_of_work (submissions : List Submission) (fence : Fence)
    {left right : ManualQueue} (same : left.work = right.work) :
    (finishAll submissions left fence).queue.work =
        (finishAll submissions right fence).queue.work ∧
      (finishAll submissions left fence).fence = (finishAll submissions right fence).fence := by
  induction submissions generalizing left right fence with
  | nil => exact ⟨same, rfl⟩
  | cons submission rest inductionHypothesis =>
      exact inductionHypothesis _ (letGo_of_work same submission)

theorem holds_of_work {left right : ManualQueue} (same : left.work = right.work)
    (list : ListId) : left.holds list = right.holds list := by
  obtain ⟨_, pending, held, _⟩ := work_eq_iff.mp same
  rw [holds, holds, pending, held]

/-- The manual queue only counts the submissions that it refuses. -/
theorem steady : @Queue.Steady ManualQueue _ fun left right => left.work = right.work where
  equivalence := ⟨fun _ => rfl, Eq.symm, Eq.trans⟩
  same_held list same := holds_of_work same list
  refused := by
    intro queue fence heap submission error refused
    change (queue.submit fence submission).result = .error error at refused
    change (queue.submit fence submission).state.queue.work = queue.work ∧
      (queue.submit fence submission).state.fence = fence
    by_cases taking : queue.rejections = 0
    · rw [submit_of_no_rejections fence submission taking] at refused
      cases refused
    · rw [submit_of_rejections fence submission taking]
      exact ⟨rfl, rfl⟩
  accepted := by
    intro left right fence heap submission same leftTaken rightTaken
    change (left.submit fence submission).result = .ok () at leftTaken
    change (right.submit fence submission).result = .ok () at rightTaken
    change (left.submit fence submission).state.queue.work =
        (right.submit fence submission).state.queue.work ∧
      (left.submit fence submission).state.fence = (right.submit fence submission).state.fence
    have taking : ∀ {queue : ManualQueue},
        (queue.submit fence submission).result = .ok () → queue.rejections = 0 := by
      intro queue taken
      by_contra refusing
      rw [submit_of_rejections fence submission refusing] at taken
      cases taken
    -- Both queues took the submission, so what is left of refusals is zero in both.
    rw [submit_of_no_rejections fence submission (taking leftTaken),
      submit_of_no_rejections fence submission (taking rightTaken)]
    obtain ⟨label, pending, held, auto, hold, accepted⟩ := work_eq_iff.mp same
    have enlarged : ∀ waiting : List Submission,
        { left with
          fenceSeen := true, pending := waiting, accepted := left.accepted + 1 }.work =
        { right with
          fenceSeen := true, pending := waiting, accepted := right.accepted + 1 }.work :=
      fun waiting => work_eq_iff.mpr ⟨label, rfl, held, auto, hold, congrArg (· + 1) accepted⟩
    rw [pending]
    dsimp only [Outcome.done]
    by_cases finishing : right.auto = true
    · rw [if_pos (auto.trans finishing), if_pos finishing]
      exact finishAll_of_work _ fence (enlarged [])
    · rw [if_neg (auto ▸ finishing), if_neg finishing]
      exact ⟨enlarged _, rfl⟩

end ManualQueue

namespace SoftQueue

/-- The soft queue refuses nothing. -/
theorem steady : @Queue.Steady SoftQueue _ Eq where
  equivalence := ⟨fun _ => rfl, Eq.symm, Eq.trans⟩
  same_held _ same := by rw [same]
  refused refused := by cases refused
  accepted same _ _ := by
    rw [same]
    exact ⟨rfl, rfl⟩

end SoftQueue

namespace Encoded

/-- The command without its bind groups. -/
def bare : Encoded → Encoded
  | .copy region => .copy region
  | .pass bundle _ grid => .pass bundle [] grid

/-- The commands that become of recorded ones, without their bind groups. -/
def bareOf (bindings : Bindings) : List Command → List Encoded
  | [] => []
  | .copyRegion region :: rest => .copy region :: bareOf bindings rest
  | .dispatch grid :: rest =>
      match bindings.pipeline with
      | none => bareOf bindings rest
      | some bundle => .pass bundle.key [] grid :: bareOf bindings rest
  | command :: rest => bareOf (bindings.apply command) rest

end Encoded

namespace BindGroupCache

/-- Kept groups have no influence on the rest of an encoding. -/
theorem bare_of_encode {cache : BindGroupCache} {heap : DescriptorHeap} {bindings : Bindings}
    {commands : List Command} {encoded : List Encoded}
    (taken : (cache.encode heap bindings commands).result = .ok encoded) :
    encoded.map Encoded.bare = Encoded.bareOf bindings commands := by
  induction commands generalizing cache bindings encoded with
  | nil =>
      cases taken
      rfl
  | cons command rest inductionHypothesis =>
      cases command with
      | setPipeline | setTable => exact inductionHypothesis taken
      | copyRegion region =>
          obtain ⟨others, first, same⟩ := Outcome.ok_of_andThen taken
          cases same
          exact congrArg (_ :: ·) (inductionHypothesis first)
      | dispatch grid =>
          rw [encode] at taken
          cases piped : bindings.pipeline with
          | none =>
              rw [piped] at taken
              cases taken
          | some bundle =>
              rw [piped] at taken
              obtain ⟨groups, _, encodedRest⟩ := Outcome.ok_of_andThen taken
              obtain ⟨others, later, same⟩ := Outcome.ok_of_andThen encodedRest
              cases same
              rw [Encoded.bareOf, piped]
              exact congrArg (_ :: ·) (inductionHypothesis later)

theorem bare_of_encodeAll {cache : BindGroupCache} {heap : DescriptorHeap}
    {streams : List Stream} {encoded : List Encoded}
    (taken : (cache.encodeAll heap streams).result = .ok encoded) :
    encoded.map Encoded.bare =
      streams.flatMap fun stream => Encoded.bareOf Bindings.none stream.commands := by
  induction streams generalizing cache encoded with
  | nil =>
      cases taken
      rfl
  | cons stream rest inductionHypothesis =>
      obtain ⟨first, firstTaken, encodedRest⟩ := Outcome.ok_of_andThen taken
      obtain ⟨others, othersTaken, same⟩ := Outcome.ok_of_andThen encodedRest
      cases same
      rw [List.map_append, List.flatMap_cons, bare_of_encode firstTaken,
        inductionHypothesis othersTaken]

end BindGroupCache

namespace GpuQueue

/-- What a GPU queue has taken, without bind groups. -/
def taken (queue : GpuQueue) : String × List EncodedSubmission :=
  (queue.label, queue.pending.map fun each => ⟨each.signal, each.commands.map Encoded.bare⟩)

theorem submit_of_unencoded {queue : GpuQueue} {heap : DescriptorHeap} {submission : Submission}
    {error : Error}
    (failed : (queue.cache.encodeAll heap submission.streams).result = .error error)
    (fence : Fence) :
    queue.submit fence heap submission =
      .refused
        ⟨{ queue with cache := (queue.cache.encodeAll heap submission.streams).state }, fence⟩
        error (queue.cache.encodeAll heap submission.streams).events := by
  simp only [submit, failed]

theorem submit_of_encoded {queue : GpuQueue} {heap : DescriptorHeap} {submission : Submission}
    {encoded : List Encoded}
    (answer : (queue.cache.encodeAll heap submission.streams).result = .ok encoded)
    (fence : Fence) :
    queue.submit fence heap submission =
      .done
        ⟨{ queue with
            cache := (queue.cache.encodeAll heap submission.streams).state
            pending := queue.pending ++ [⟨submission.signal, encoded⟩] }, fence⟩
        () (queue.cache.encodeAll heap submission.streams).events := by
  simp only [submit, answer]

/-- A taken submission is encoded from its streams, apart from its bind groups. -/
theorem taken_of_submit {queue : GpuQueue} {fence : Fence} {heap : DescriptorHeap}
    {submission : Submission} (taking : (queue.submit fence heap submission).result = .ok ()) :
    (queue.submit fence heap submission).state.queue.taken =
        (queue.label, queue.taken.2 ++
          [⟨submission.signal, submission.streams.flatMap
            fun stream => Encoded.bareOf Bindings.none stream.commands⟩]) ∧
      (queue.submit fence heap submission).state.fence = fence := by
  cases answer : (queue.cache.encodeAll heap submission.streams).result with
  | error error =>
      rw [submit_of_unencoded answer] at taking
      cases taking
  | ok encoded =>
      rw [submit_of_encoded answer, ← BindGroupCache.bare_of_encodeAll answer]
      simp [Outcome.done, taken]

/-- The GPU queue keeps bind groups of a submission that it refuses, and nothing else. -/
theorem steady : @Queue.Steady GpuQueue _ fun left right => left.taken = right.taken where
  equivalence := ⟨fun _ => rfl, Eq.symm, Eq.trans⟩
  same_held _ _ := rfl
  refused := by
    intro queue fence heap submission error refused
    change (queue.submit fence heap submission).result = .error error at refused
    change (queue.submit fence heap submission).state.queue.taken = queue.taken ∧
      (queue.submit fence heap submission).state.fence = fence
    cases answer : (queue.cache.encodeAll heap submission.streams).result with
    | error problem =>
        rw [submit_of_unencoded answer]
        exact ⟨rfl, rfl⟩
    | ok encoded =>
        rw [submit_of_encoded answer] at refused
        cases refused
  accepted := by
    intro left right fence heap submission same leftTaken rightTaken
    obtain ⟨leftQueue, leftFence⟩ := taken_of_submit leftTaken
    obtain ⟨rightQueue, rightFence⟩ := taken_of_submit rightTaken
    have labels : left.label = right.label := congrArg Prod.fst same
    refine ⟨?_, leftFence.trans rightFence.symm⟩
    change (left.submit fence heap submission).state.queue.taken =
      (right.submit fence heap submission).state.queue.taken
    rw [leftQueue, rightQueue, labels, same]

end GpuQueue

/-! ## Lists and devices -/

namespace CommandList

@[simp]
theorem freeze_freeze (list : CommandList) : list.freeze.freeze = list.freeze := by
  simp [freeze]

theorem map_freeze_freeze (slice : List CommandList) :
    (slice.map freeze).map freeze = slice.map freeze := by
  simp

end CommandList

namespace Device

variable {σ : Type}

/-- Whether the device cannot hand a list to its queue. -/
def objects (device : Device σ) (list : CommandList) : Bool :=
  list.device != device.key || list.state == .submitted

/-- Why the device cannot hand a list to its queue: that the list is foreign comes first. -/
def objection (device : Device σ) (list : CommandList) : Error :=
  if list.device = device.key then list.invalidState "submit" else .foreignCommandList list.id

theorem ensureOwn_eq (device : Device σ) (list : CommandList) :
    device.ensureOwn list =
      if device.objects list then .error (device.objection list) else .ok () := by
  unfold ensureOwn objects objection CommandList.ensureSubmittable
  by_cases own : list.device = device.key
  · cases state : list.state <;> simp [own]
  · simp [own]

/-- The first list that the device cannot hand over decides. -/
theorem ensureAllOwn_eq (device : Device σ) (slice : List CommandList) :
    device.ensureAllOwn slice =
      match slice.find? device.objects with
      | some bad => .error (device.objection bad)
      | none => .ok () := by
  induction slice with
  | nil => rfl
  | cons list rest inductionHypothesis =>
      rw [ensureAllOwn, ensureOwn_eq, List.find?_cons]
      cases device.objects list with
      | true => rfl
      | false => exact inductionHypothesis

section Queued

variable [Queue σ]

theorem taken_of_execute {device : Device σ} {slice : List CommandList} {signal : FenceValue}
    (accepted : (device.execute slice).result = .ok signal) :
    device.ensureAllOwn slice = .ok () ∧ (device.offered slice).result = .ok () := by
  cases check : device.ensureAllOwn slice with
  | error error =>
      rw [execute_of_refused check] at accepted
      cases accepted
  | ok _ =>
      cases answer : (device.offered slice).result with
      | error error =>
          rw [(execute_of_rejected check answer).2.2] at accepted
          cases accepted
      | ok _ => exact ⟨rfl, rfl⟩

/-- A batch that came back frozen is handed over like the batch that it was. -/
theorem execute_map_freeze {device : Device σ} {slice : List CommandList}
    (own : device.ensureAllOwn slice = .ok ()) :
    device.execute (slice.map CommandList.freeze) = device.execute slice := by
  have frozenOwn : device.ensureAllOwn (slice.map CommandList.freeze) = .ok () := by
    rw [ensureAllOwn_eq_ok_iff] at own ⊢
    intro list chosen
    obtain ⟨before, beforeMember, rfl⟩ := List.mem_map.mp chosen
    exact ⟨(own before beforeMember).1, nofun⟩
  rw [execute, frozenOwn, execute, own]
  exact congrArg device.submitFrozen (CommandList.map_freeze_freeze slice)

end Queued

end Device

namespace World

variable {σ : Type}

theorem amend_amend (lists : List CommandList) (named : List ListId)
    (first second : CommandList → CommandList)
    (kept : ∀ list, (first list).id = list.id) :
    amend (amend lists named first) named second =
      amend lists named (fun list => second (first list)) := by
  rw [amend, amend, amend, List.map_map]
  apply List.map_congr_left
  intro list _
  by_cases chosen : list.id ∈ named
  · simp [chosen, kept]
  · simp [chosen]

/-- The world with another state of its queue. -/
def withQueue (world : World σ) (queue : σ) : World σ :=
  { world with device := { world.device with queue := queue } }

def frozen (world : World σ) (slice : List CommandList) : World σ :=
  { world with lists := amend world.lists (slice.map CommandList.id) CommandList.freeze }

@[simp]
theorem withQueue_withQueue (world : World σ) (first second : σ) :
    (world.withQueue first).withQueue second = world.withQueue second := rfl

theorem Registered.withQueue {world : World σ} (registered : world.Registered) (queue : σ) :
    (world.withQueue queue).Registered :=
  ⟨registered.own, registered.numbered, registered.distinct⟩

theorem Registered.frozen {world : World σ} (registered : world.Registered)
    (slice : List CommandList) : (world.frozen slice).Registered := by
  have tags : ((world.frozen slice).lists.map fun list => (list.id, list.device)) =
      world.lists.map fun list => (list.id, list.device) :=
    map_amend world.lists _ fun _ => rfl
  refine registered.of_sublist rfl (Nat.le_refl _) ?_
  rw [tags]

theorem mem_frozen {world : World σ} {slice : List CommandList} {list : CommandList}
    (member : list ∈ world.lists) (chosen : list ∈ slice) :
    list.freeze ∈ (world.frozen slice).lists :=
  mem_amend_iff.mpr (Or.inl ⟨list, member, List.mem_map_of_mem chosen, rfl⟩)

theorem own_map_freeze {world : World σ} {slice : List CommandList}
    (own : ∀ list ∈ slice, list ∈ world.lists ∧ list.state ≠ .submitted) :
    ∀ list ∈ slice.map CommandList.freeze,
      list ∈ (world.frozen slice).lists ∧ list.state ≠ .submitted := by
  intro list chosen
  obtain ⟨before, beforeMember, rfl⟩ := List.mem_map.mp chosen
  exact ⟨mem_frozen (own before beforeMember).1 beforeMember, nofun⟩

section Queued

variable [Queue σ] {moves : Clocked σ → Clocked σ → Prop} {alike : σ → σ → Prop}
  {world : World σ} {slice : List CommandList}

/-- A batch that the queue refuses only freezes its lists. -/
theorem reject_of_steady (steady : Queue.Steady alike) {error : Error}
    (rejected : (world.device.offered slice).result = .error error) :
    world.reject slice =
      (world.frozen slice).withQueue (world.device.offered slice).state.queue := by
  have fence : (world.device.offered slice).state.fence = world.device.fence.signalNext.1 :=
    (steady.refused rejected).2
  rw [reject, fence, Fence.cancel_signalNext]
  rfl

theorem accept_map_freeze (world : World σ) (slice : List CommandList) :
    (world.frozen slice).accept (slice.map CommandList.freeze) = world.accept slice := by
  have ids : (slice.map CommandList.freeze).map CommandList.id =
      slice.map CommandList.id := by
    rw [List.map_map]
    rfl
  simp only [accept, frozen, Device.offered, ids, CommandList.map_freeze_freeze]
  rw [amend_amend world.lists _ CommandList.freeze _ fun _ => rfl]
  simp only [CommandList.freeze_freeze]

/-- A batch that came back frozen does to the world what the batch that it was would have done. -/
theorem Registered.execute_map_freeze (registered : world.Registered)
    (own : ∀ list ∈ slice, list ∈ world.lists ∧ list.state ≠ .submitted)
    (taken : (world.device.offered slice).result = .ok ()) :
    (world.frozen slice).execute (slice.map CommandList.freeze) = world.execute slice := by
  have frozenTaken : ((world.frozen slice).device.offered
      (slice.map CommandList.freeze)).result = .ok () := by
    rw [← taken, Device.offered, CommandList.map_freeze_freeze]
    rfl
  rw [(registered.frozen slice).execute_of_taken (own_map_freeze own) frozenTaken,
    registered.execute_of_taken own taken]
  exact accept_map_freeze world slice

/-- A batch is handed to the queue and refused a number of times, each time as it came back. -/
inductive Refuses : Nat → World σ → List CommandList → World σ → List CommandList → Prop
  | never (world : World σ) (slice : List CommandList) : Refuses 0 world slice world slice
  | again {count : Nat} {world after : World σ} {slice returned : List CommandList}
      {error : Error} (refused : (world.device.execute slice).result = .error error)
      (others : Refuses count (world.execute slice) (world.device.execute slice).lists
        after returned) :
      Refuses (count + 1) world slice after returned

theorem accept_of_alike (steady : Queue.Steady alike) {queue : σ}
    (same : alike world.device.queue queue)
    (taken : (world.device.offered slice).result = .ok ())
    (alsoTaken : ((world.withQueue queue).device.offered slice).result = .ok ()) :
    alike (world.accept slice).device.queue ((world.withQueue queue).accept slice).device.queue ∧
      world.accept slice =
        ((world.withQueue queue).accept slice).withQueue (world.accept slice).device.queue := by
  obtain ⟨queues, fences⟩ := steady.accepted same taken alsoTaken
  refine ⟨queues, ?_⟩
  have fence : (world.device.offered slice).state.fence =
      ((world.withQueue queue).device.offered slice).state.fence := fences
  simp only [accept, fence]
  rfl

/-- However often a batch was refused, it is accepted as it would have been at once. -/
theorem Refuses.accepted (steady : Queue.Steady alike) {count : Nat} {after : World σ}
    {returned : List CommandList} (refuses : Refuses count world slice after returned)
    (registered : world.Registered)
    (present : ∀ list ∈ slice, list.device = world.device.key → list ∈ world.lists)
    {queue : σ} (same : alike world.device.queue queue) {signal value : FenceValue}
    (once : ((world.withQueue queue).device.execute slice).result = .ok signal)
    (atLast : (after.device.execute returned).result = .ok value) :
    value = signal ∧
      (after.device.execute returned).lists =
        ((world.withQueue queue).device.execute slice).lists ∧
      ∃ last, alike last ((world.withQueue queue).execute slice).device.queue ∧
        after.execute returned = ((world.withQueue queue).execute slice).withQueue last := by
  -- Over the refusals; the invariant is that the queue stays like the one that accepts at once.
  induction refuses with
  | never world slice =>
      obtain ⟨check, taken⟩ := Device.taken_of_execute once
      obtain ⟨_, alsoTaken⟩ := Device.taken_of_execute atLast
      have own : ∀ list ∈ slice, list ∈ world.lists ∧ list.state ≠ .submitted :=
        @own_of_ensureAllOwn _ (world.withQueue queue) _ present check
      obtain ⟨_, lists, result⟩ := Device.execute_of_taken check taken
      obtain ⟨_, lastLists, lastResult⟩ :=
        Device.execute_of_taken (registered.ensureAllOwn_of_own own) alsoTaken
      rw [registered.execute_of_taken own alsoTaken,
        (registered.withQueue queue).execute_of_taken own taken]
      rw [result] at once
      rw [lastResult] at atLast
      refine ⟨?_, lastLists.trans lists.symm, _, accept_of_alike steady same alsoTaken taken⟩
      exact (Except.ok.inj atLast).symm.trans (Except.ok.inj once)
  | @again count world after slice returned error refused others inductionHypothesis =>
      obtain ⟨check, taken⟩ := Device.taken_of_execute once
      have own : ∀ list ∈ slice, list ∈ world.lists ∧ list.state ≠ .submitted :=
        @own_of_ensureAllOwn _ (world.withQueue queue) _ present check
      have ensured : world.device.ensureAllOwn slice = .ok () :=
        registered.ensureAllOwn_of_own own
      cases answer : (world.device.offered slice).result with
      | ok _ =>
          rw [(Device.execute_of_taken ensured answer).2.2] at refused
          cases refused
      | error problem =>
          -- The world that comes back has frozen lists and a queue like the one before.
          have left := registered.execute_of_rejected own answer
          rw [reject_of_steady steady answer] at left
          rw [left, (Device.execute_of_rejected ensured answer).2.1] at inductionHypothesis
          have sameOnce : ((world.withQueue queue).device.execute
                (slice.map CommandList.freeze)) =
              (world.withQueue queue).device.execute slice :=
            Device.execute_map_freeze check
          have sameWorld : ((world.frozen slice).withQueue queue).execute
                (slice.map CommandList.freeze) =
              (world.withQueue queue).execute slice :=
            (registered.withQueue queue).execute_map_freeze own taken
          have earlier := inductionHypothesis ((registered.frozen slice).withQueue _)
            (fun list chosen _ => (own_map_freeze own list chosen).1)
            (steady.equivalence.trans (steady.refused answer).1 same) (sameOnce ▸ once) atLast
          rw [withQueue_withQueue, sameWorld] at earlier
          obtain ⟨value, lists, after⟩ := earlier
          exact ⟨value, lists.trans (congrArg Device.Executed.lists sameOnce), after⟩

/-! ## All or nothing -/

/-- The queue refused the batch: the lists are closed with what they hold, and of the device only
the queue may have changed. -/
structure LeftAlone (alike : σ → σ → Prop) (world : World σ) (slice : List CommandList) :
    Prop where
  returned : (world.device.execute slice).lists = slice.map CommandList.freeze
  closed : ∀ list ∈ slice,
    list.freeze ∈ (world.execute slice).lists ∧
      list.freeze.state = .closed ∧ list.freeze.recorded = list.recorded ∧
        list.freeze.bindings = list.bindings ∧ list.freeze.submitted = none
  unchanged : world.execute slice =
    (world.frozen slice).withQueue (world.execute slice).device.queue
  queue : alike (world.execute slice).device.queue world.device.queue
  stats : (world.execute slice).device.stats = world.device.stats

/-- The queue accepted the batch under a value, and all its lists are submitted under it. -/
structure Taken (world : World σ) (slice : List CommandList) (signal : FenceValue) : Prop where
  result : (world.device.execute slice).result = .ok signal
  returned : (world.device.execute slice).lists =
    slice.map fun list => list.freeze.markSubmitted signal
  submitted : ∀ list ∈ slice, list.freeze.markSubmitted signal ∈ (world.execute slice).lists
  others : ∀ list ∈ world.lists, list ∉ slice → list ∈ (world.execute slice).lists
  lists : ∀ list ∈ (world.execute slice).lists,
    (∃ earlier ∈ slice, list = earlier.freeze.markSubmitted signal) ∨
      list ∈ world.lists ∧ list ∉ slice
  entries : (world.execute slice).entries = world.entries ++
    [⟨signal, slice.map fun list => ⟨list.id, list.category, list.recorded⟩⟩]
  submissions : (world.execute slice).device.stats.submissions =
    world.device.stats.submissions + 1

/-- A batch takes effect as a whole or not at all, and can be handed over until it does. -/
structure AllOrNothing (alike : σ → σ → Prop) (world : World σ) (slice : List CommandList) :
    Prop where
  /-- Whatever the queue would answer, the first list to which the device objects decides. -/
  objected {bad : CommandList} :
    slice.find? world.device.objects = some bad →
      (∀ asked : Queue σ, @Device.execute σ asked world.device slice =
          ⟨world.device, slice, .error (world.device.objection bad), []⟩) ∧
        world.execute slice = world
  refused {error : Error} :
    slice.find? world.device.objects = none →
      (world.device.offered slice).result = .error error →
        (world.device.execute slice).result = .error error ∧ world.LeftAlone alike slice
  accepted :
    slice.find? world.device.objects = none →
      (world.device.offered slice).result = .ok () →
        world.Taken slice (world.device.fence.issued + 1)
  retried {count : Nat} {after : World σ} {returned : List CommandList} {queue : σ}
      {signal value : FenceValue} :
    Refuses count world slice after returned → alike world.device.queue queue →
      ((world.withQueue queue).device.execute slice).result = .ok signal →
        (after.device.execute returned).result = .ok value →
          value = signal ∧
            (after.device.execute returned).lists =
              ((world.withQueue queue).device.execute slice).lists ∧
            ∃ last, alike last ((world.withQueue queue).execute slice).device.queue ∧
              after.execute returned = ((world.withQueue queue).execute slice).withQueue last

theorem Registered.leftAlone (registered : world.Registered) (steady : Queue.Steady alike)
    (own : ∀ list ∈ slice, list ∈ world.lists ∧ list.state ≠ .submitted)
    (unsubmitted : ∀ list ∈ world.lists, list.state ≠ .submitted → list.submitted = none)
    {error : Error} (refused : (world.device.offered slice).result = .error error) :
    world.LeftAlone alike slice := by
  have left : world.execute slice =
      (world.frozen slice).withQueue (world.device.offered slice).state.queue :=
    (registered.execute_of_rejected own refused).trans (reject_of_steady steady refused)
  have check := registered.ensureAllOwn_of_own own
  refine ⟨(Device.execute_of_rejected check refused).2.1, ?_, ?_, ?_, ?_⟩
  · intro list chosen
    obtain ⟨member, state⟩ := own list chosen
    rw [left]
    exact ⟨mem_frozen member chosen, rfl, rfl, rfl, unsubmitted list member state⟩
  · rw [left]
    rfl
  · rw [left]
    exact (steady.refused refused).1
  · rw [left]
    rfl

theorem Registered.taken (registered : world.Registered) (booked : world.Booked)
    (own : ∀ list ∈ slice, list ∈ world.lists ∧ list.state ≠ .submitted)
    (taken : (world.device.offered slice).result = .ok ()) :
    world.Taken slice (world.device.fence.issued + 1) := by
  have after := registered.execute_of_taken own taken
  obtain ⟨_, returned, result⟩ :=
    Device.execute_of_taken (registered.ensureAllOwn_of_own own) taken
  have members : ∀ list ∈ slice, list ∈ world.lists := fun list chosen => (own list chosen).1
  refine ⟨result, returned, ?_, ?_, ?_, ?_, ?_⟩
  · intro list chosen
    rw [after]
    exact mem_amend_iff.mpr
      (Or.inl ⟨list, members list chosen, List.mem_map_of_mem chosen, rfl⟩)
  · intro list member spared
    rw [after]
    exact mem_amend_iff.mpr
      (Or.inr ⟨member, fun chosen => spared (registered.mem_of_id members member chosen)⟩)
  · intro list member
    rw [after] at member
    rcases mem_amend_iff.mp member with ⟨earlier, present, chosen, shape⟩ | ⟨same, spared⟩
    · exact Or.inl ⟨earlier, registered.mem_of_id members present chosen, shape⟩
    · exact Or.inr ⟨same, fun chosen => spared (List.mem_map_of_mem chosen)⟩
  · have streams : (slice.map CommandList.freeze).map CommandList.stream =
        slice.map fun list => ⟨list.id, list.category, list.recorded⟩ := by
      rw [List.map_map]
      apply List.map_congr_left
      intro list chosen
      exact booked.stream_freeze (members list chosen)
    rw [after, ← streams]
    rfl
  · rw [after]
    rfl

/-- Every batch that can be handed over on a run takes effect as a whole or not at all. -/
theorem allOrNothing_of_leads {start : World σ} (steady : Queue.Steady alike)
    (begun : start.Begins) (leads : Leads moves start world) (offers : world.Offers slice) :
    world.AllOrNothing alike slice := by
  have registered := Leads.registered begun leads
  have unsubmitted : ∀ list ∈ world.lists, list.state ≠ .submitted → list.submitted = none :=
    Leads.forall_lists (CommandList.lasting_unsubmitted _ _) begun leads
  have checked : slice.find? world.device.objects = none →
      world.device.ensureAllOwn slice = .ok () := by
    intro none
    rw [Device.ensureAllOwn_eq, none]
  refine ⟨?_, ?_, ?_, ?_⟩
  · intro bad found
    have refused : world.device.ensureAllOwn slice = .error (world.device.objection bad) := by
      rw [Device.ensureAllOwn_eq, found]
    refine ⟨fun asked => @Device.execute_of_refused σ asked _ _ _ refused, ?_⟩
    rw [execute, Device.execute_of_refused refused]
    simp [handOver, keep_offered registered offers]
  · intro error none refused
    have own := own_of_ensureAllOwn offers.present (checked none)
    exact ⟨(Device.execute_of_rejected (checked none) refused).2.2,
      registered.leftAlone steady own unsubmitted refused⟩
  · intro none taken
    exact registered.taken (Leads.booked begun leads)
      (own_of_ensureAllOwn offers.present (checked none)) taken
  · intro count after returned queue signal value refuses same once atLast
    exact refuses.accepted steady registered offers.present same once atLast

end Queued

def refusingTwice : ManualQueue :=
  { ManualQueue.new ManualQueue.defaultLabel with rejections := 2 }

theorem begins_refusingTwice : (small refusingTwice).Begins := by
  refine begins_small ?_ fun _ => rfl
  intro category
  cases category <;> rfl

/-- A copy is refused twice and then accepted as if it were handed over for the first time. -/
theorem allOrNothing_of_leads_refusingTwice :
    Queue.Steady (fun left right : ManualQueue => left.work = right.work) ∧
      (small refusingTwice).Begins ∧
      Leads Queue.AnyMove (small refusingTwice) (recordedCopy refusingTwice) ∧
      (recordedCopy refusingTwice).Offers [firstCopy.append shift.command] ∧
      (recordedCopy refusingTwice).AllOrNothing (fun left right => left.work = right.work)
        [firstCopy.append shift.command] ∧
      ∃ after returned last,
        Refuses 2 (recordedCopy refusingTwice) [firstCopy.append shift.command] after returned ∧
          (after.device.execute returned).result = .ok 1 ∧
          after.execute returned =
            (busy (ManualQueue.new ManualQueue.defaultLabel)).withQueue last := by
  have leads : Leads Queue.AnyMove (small refusingTwice) (recordedCopy refusingTwice) :=
    leads_recordedCopy rfl
  have offers : (recordedCopy refusingTwice).Offers [firstCopy.append shift.command] :=
    offers_recordedCopy rfl
  have whole := allOrNothing_of_leads ManualQueue.steady begins_refusingTwice leads offers
  have refuses := @Refuses.again ManualQueue _ 1 (recordedCopy refusingTwice) _
    [firstCopy.append shift.command] _ _ rfl (Refuses.again rfl (Refuses.never _ _))
  have same : refusingTwice.work = (ManualQueue.new ManualQueue.defaultLabel).work := rfl
  obtain ⟨_, _, last, _, shape⟩ := whole.retried refuses same rfl rfl
  exact ⟨ManualQueue.steady, begins_refusingTwice, leads, offers, whole, _, _, last, refuses, rfl,
    shape⟩

end World

end CommandQueue
