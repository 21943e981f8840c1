import CommandQueue.Proofs.Safety

/-!
# Turns of a soft queue

Given a turn, a soft queue runs its oldest submission; left alone, it gets turns
until nothing waits.  Running submissions in turn is running their streams in a
row, so it makes no difference when the turns are given: a stage comes to rest in
the same state, whether lists are handed over before or after some of them
(`Stage.settled_execute_advancedBy`).
-/

namespace CommandQueue

namespace Fence

def finished (fence : Fence) : List Submission → Fence
  | [] => fence
  | submission :: rest => ((fence.complete? submission.signal).getD fence).finished rest

@[simp]
theorem issued_finished (fence : Fence) (submissions : List Submission) :
    (fence.finished submissions).issued = fence.issued := by
  induction submissions generalizing fence with
  | nil => rfl
  | cons submission rest inductionHypothesis =>
      rw [finished, inductionHypothesis, complete?]
      split <;> rfl

theorem finished_append (fence : Fence) (first second : List Submission) :
    fence.finished (first ++ second) = (fence.finished first).finished second := by
  induction first generalizing fence with
  | nil => rfl
  | cons submission rest inductionHypothesis =>
      rw [List.cons_append, finished, inductionHypothesis, finished]

/-- Values handed out are completed alike before and after the next one is handed out. -/
theorem finished_signalNext {fence : Fence} {submissions : List Submission}
    (handedOut : ∀ submission ∈ submissions, submission.signal ≤ fence.issued) :
    fence.signalNext.1.finished submissions = (fence.finished submissions).signalNext.1 := by
  induction submissions generalizing fence with
  | nil => rfl
  | cons submission rest inductionHypothesis =>
      obtain ⟨first, others⟩ := List.forall_mem_cons.mp handedOut
      rw [finished, finished, complete?, complete?, if_pos first, issued_signalNext,
        if_pos (Nat.le_succ_of_le first)]
      exact @inductionHypothesis ⟨fence.issued, max fence.completed submission.signal⟩ others

end Fence

namespace SoftQueue

def ahead (queue : SoftQueue) (count : Nat) : List Stream :=
  (queue.pending.take count).flatMap Submission.streams

def turned (queue : SoftQueue) (heap : DescriptorHeap) (scene : Scene) (count : Nat) :
    SoftQueue :=
  { queue with
    pending := queue.pending.drop count
    executed := queue.executed + (queue.pending.take count).length
    faults := queue.faults + (Stream.runAll heap (queue.ahead count) scene).failures.length }

theorem runNext_eq_of_pending {queue : SoftQueue} {submission : Submission}
    {rest : List Submission} (pending : queue.pending = submission :: rest) (fence : Fence)
    (heap : DescriptorHeap) (scene : Scene) :
    (queue.runNext fence heap scene).queue = queue.turned heap scene 1 ∧
      (queue.runNext fence heap scene).fence = fence.finished [submission] ∧
      (queue.runNext fence heap scene).scene =
        (Stream.runAll heap submission.streams scene).scene := by
  simp [runNext, turned, ahead, pending, Fence.finished]

/-- Turns run the streams of the first submissions in a row. -/
theorem runMany_eq (queue : SoftQueue) (fence : Fence) (heap : DescriptorHeap) (scene : Scene)
    (count : Nat) :
    (queue.runMany fence heap scene count).queue = queue.turned heap scene count ∧
      (queue.runMany fence heap scene count).fence =
        fence.finished (queue.pending.take count) ∧
      (queue.runMany fence heap scene count).scene =
        (Stream.runAll heap (queue.ahead count) scene).scene := by
  induction count generalizing queue fence scene with
  | zero => exact ⟨rfl, rfl, rfl⟩
  | succ count inductionHypothesis =>
      rw [runMany]
      dsimp only
      cases pending : queue.pending with
      | nil =>
          obtain ⟨after, reached, final⟩ := inductionHypothesis queue fence scene
          rw [runNext_of_idle pending, after, reached, final]
          simp [turned, ahead, pending]
      | cons submission rest =>
          obtain ⟨after, reached, final⟩ := runNext_eq_of_pending pending fence heap scene
          rw [after, reached, final]
          obtain ⟨last, completed, ending⟩ := inductionHypothesis (queue.turned heap scene 1)
            (fence.finished [submission]) (Stream.runAll heap submission.streams scene).scene
          have left : (queue.turned heap scene 1).pending = rest := by
            simp [turned, pending]
          have streams : queue.ahead (count + 1) =
              submission.streams ++ (queue.turned heap scene 1).ahead count := by
            simp [ahead, left, pending]
          have first : queue.ahead 1 = submission.streams := by
            simp [ahead, pending]
          refine ⟨?_, ?_, ?_⟩
          · rw [last, turned, left]
            simp only [turned, streams, first, pending, Stream.runAll_append, List.drop_succ_cons,
              List.take_succ_cons, List.length_append, List.length_cons]
            simp [Nat.add_assoc, Nat.add_comm 1]
          · rw [completed, left, ← Fence.finished_append]
            rfl
          · rw [ending, streams, Stream.runAll_append]

theorem ahead_accept {queue : SoftQueue} {count : Nat} (waiting : count ≤ queue.pending.length)
    (submission : Submission) : (queue.accept submission).ahead count = queue.ahead count := by
  rw [ahead, accept, List.take_append_of_le_length waiting, ahead]

theorem turned_accept {queue : SoftQueue} {count : Nat} (waiting : count ≤ queue.pending.length)
    (submission : Submission) (heap : DescriptorHeap) (scene : Scene) :
    (queue.accept submission).turned heap scene count =
      (queue.turned heap scene count).accept submission := by
  rw [turned, ahead_accept waiting]
  simp only [accept, turned, List.take_append_of_le_length waiting,
    List.drop_append_of_le_length waiting]

end SoftQueue

namespace World

/-- Lists of the device that can be handed over together: each is there once, and none was
submitted before. -/
structure Submittable {σ : Type} (world : World σ) (slice : List CommandList) : Prop where
  own : ∀ list ∈ slice, list ∈ world.lists ∧ list.state ≠ .submitted
  once : slice.Pairwise fun left right => left.isSame right = false

section Submittable

variable {σ : Type} {world : World σ} {slice ahead behind : List CommandList}

theorem Submittable.offers (submittable : world.Submittable slice) : world.Offers slice :=
  ⟨fun list chosen _ => (submittable.own list chosen).1, submittable.once⟩

theorem Submittable.left (submittable : world.Submittable (ahead ++ behind)) :
    world.Submittable ahead :=
  ⟨fun list chosen => submittable.own list (List.mem_append_left behind chosen),
    (List.pairwise_append.mp submittable.once).1⟩

end Submittable

/-- What holds of a device on a soft queue between calls. -/
structure InService (world : World SoftQueue) : Prop where
  registered : world.Registered
  handedOut : ∀ submission ∈ world.device.queue.pending,
    submission.signal ≤ world.device.fence.issued

variable {world start : World SoftQueue} {slice ahead behind : List CommandList}

theorem lawful_advances : Queue.Lawful SoftQueue.Advances where
  submit_completes _ _ _ _ := ⟨[], rfl⟩
  submit_holds := SoftQueue.forgetful.submit_holds
  moves_complete := by
    rintro before after ⟨heap, scene, rfl⟩
    cases pending : before.queue.pending with
    | nil => exact ⟨[], by simp [SoftQueue.runNext, pending, Fence.completeAll?]⟩
    | cons submission rest =>
        cases completed : before.fence.complete? submission.signal with
        | none => exact ⟨[], by simp [SoftQueue.runNext, pending, completed, Fence.completeAll?]⟩
        | some fence =>
            refine ⟨[submission.signal], ?_⟩
            simp [SoftQueue.runNext, pending, completed, Fence.completeAll?]
  moves_hold := by
    rintro before after list ⟨heap, scene, rfl⟩ held
    rw [SoftQueue.holds_iff] at held ⊢
    obtain ⟨submission, member, mentioned⟩ := held
    rw [SoftQueue.pending_runNext] at member
    exact ⟨submission, List.mem_of_mem_tail member, mentioned⟩

/-- The soft queue refuses nothing. -/
theorem forgetful_advances : Queue.Forgetful SoftQueue.Advances :=
  { lawful_advances with refused_completes := fun refused => by cases refused }

theorem inService_of_leads (begun : start.Begins) (idle : start.device.queue.pending = [])
    (leads : Leads SoftQueue.Advances start world) : world.InService := by
  refine ⟨Leads.registered begun leads, ?_⟩
  intro submission waiting
  refine (Leads.onTime lawful_advances begun leads).le_issued ?_
  exact List.mem_map_of_mem (pending_of_leads begun idle leads submission waiting)

/-- A soft queue takes whatever can be handed over. -/
theorem InService.execute_eq (service : world.InService) (submittable : world.Submittable slice) :
    world.execute slice = world.accept slice :=
  service.registered.execute_of_taken submittable.own rfl

theorem InService.accept (service : world.InService) (submittable : world.Submittable slice) :
    (world.accept slice).InService := by
  have effect : Effect SoftQueue.Advances world (world.accept slice) :=
    Effect.accepted submittable.offers submittable.own rfl
  refine ⟨effect.registered service.registered, ?_⟩
  intro submission member
  rcases List.mem_append.mp member with waiting | new
  · exact Nat.le_succ_of_le (service.handedOut submission waiting)
  · rw [List.mem_singleton.mp new]
    exact Nat.le_refl _

/-- Lists can still be handed over after others were. -/
theorem InService.submittable_accept (service : world.InService)
    (submittable : world.Submittable (ahead ++ behind)) :
    (world.accept ahead).Submittable behind := by
  obtain ⟨_, once, apart⟩ := List.pairwise_append.mp submittable.once
  refine ⟨?_, once⟩
  intro list chosen
  obtain ⟨member, state⟩ := submittable.own list (List.mem_append_right ahead chosen)
  refine ⟨mem_amend_iff.mpr (Or.inr ⟨member, ?_⟩), state⟩
  intro named
  have taken := service.registered.mem_of_id (fun each first =>
    (submittable.own each (List.mem_append_left behind first)).1) member named
  have different := apart list taken list chosen
  rw [(service.registered.isSame_iff member member).mpr rfl] at different
  cases different

end World

namespace Stage

variable {stage : Stage} {slice : List CommandList}

def execute (stage : Stage) (slice : List CommandList) : Stage :=
  { stage with world := stage.world.execute slice }

/-- The stage after a number of turns of the queue. -/
def advancedBy (stage : Stage) : Nat → Stage
  | 0 => stage
  | count + 1 => stage.advanced.advancedBy count

def settled (stage : Stage) : Stage :=
  let (device, scene, _) := stage.world.device.settle stage.scene
  ⟨{ stage.world with device := device }, scene⟩

def turned (stage : Stage) (count : Nat) : Stage :=
  let device := stage.world.device
  ⟨stage.world.moved
      ⟨device.queue.turned device.heap stage.scene count,
        device.fence.finished (device.queue.pending.take count)⟩,
    (Stream.runAll device.heap (device.queue.ahead count) stage.scene).scene⟩

theorem advancedBy_eq (stage : Stage) (count : Nat) :
    stage.advancedBy count = stage.turned count := by
  have many : ∀ stage : Stage, stage.advancedBy count =
      let device := stage.world.device
      let ran := device.queue.runMany device.fence device.heap stage.scene count
      ⟨stage.world.moved ⟨ran.queue, ran.fence⟩, ran.scene⟩ := by
    induction count with
    | zero => exact fun _ => rfl
    | succ count inductionHypothesis => exact fun stage => inductionHypothesis stage.advanced
  obtain ⟨queue, fence, scene⟩ := stage.world.device.queue.runMany_eq stage.world.device.fence
    stage.world.device.heap stage.scene count
  rw [many, turned]
  dsimp only
  rw [queue, fence, scene]

theorem settled_eq (stage : Stage) :
    stage.settled = stage.turned stage.world.device.queue.pending.length := by
  obtain ⟨queue, fence, scene⟩ := stage.world.device.queue.runMany_eq stage.world.device.fence
    stage.world.device.heap stage.scene stage.world.device.queue.pending.length
  rw [turned, ← queue, ← fence, ← scene]
  rfl

theorem advancedBy_add (stage : Stage) (first second : Nat) :
    stage.advancedBy (first + second) = (stage.advancedBy first).advancedBy second := by
  induction first generalizing stage with
  | zero => rw [Nat.zero_add, advancedBy]
  | succ first inductionHypothesis =>
      rw [Nat.succ_add]
      exact inductionHypothesis stage.advanced

/-- Turns beyond the last submission change nothing. -/
theorem advancedBy_of_le {count : Nat}
    (enough : stage.world.device.queue.pending.length ≤ count) :
    stage.advancedBy count = stage.settled := by
  rw [advancedBy_eq, settled_eq]
  simp [turned, SoftQueue.turned, SoftQueue.ahead, List.take_of_length_le enough,
    List.drop_of_length_le enough]

/-- Where a stage comes to rest does not depend on turns that were given before. -/
theorem settled_advancedBy (stage : Stage) (count : Nat) :
    (stage.advancedBy count).settled = stage.settled := by
  have left : (stage.advancedBy count).world.device.queue.pending =
      stage.world.device.queue.pending.drop count := by
    rw [advancedBy_eq]
    rfl
  rw [← advancedBy_of_le (Nat.le_refl (stage.advancedBy count).world.device.queue.pending.length),
    ← advancedBy_add, left, List.length_drop]
  exact advancedBy_of_le (Nat.add_comm _ _ ▸ Nat.sub_le_iff_le_add.mp (Nat.le_refl _))

theorem inService_advancedBy (service : stage.world.InService) (count : Nat) :
    (stage.advancedBy count).world.InService := by
  rw [advancedBy_eq]
  refine ⟨⟨service.registered.own, service.registered.numbered, service.registered.distinct⟩, ?_⟩
  intro submission waiting
  have handedOut := service.handedOut submission (List.mem_of_mem_drop waiting)
  exact Nat.le_trans handedOut (Nat.le_of_eq (Fence.issued_finished _ _).symm)

theorem submittable_advancedBy (submittable : stage.world.Submittable slice) (count : Nat) :
    (stage.advancedBy count).world.Submittable slice := by
  rw [advancedBy_eq]
  exact ⟨submittable.own, submittable.once⟩

theorem execute_eq (service : stage.world.InService) (submittable : stage.world.Submittable slice) :
    stage.execute slice = ⟨stage.world.accept slice, stage.scene⟩ := by
  rw [execute, service.execute_eq submittable]

theorem inService_execute (service : stage.world.InService)
    (submittable : stage.world.Submittable slice) : (stage.execute slice).world.InService := by
  rw [execute_eq service submittable]
  exact service.accept submittable

theorem submittable_execute (service : stage.world.InService) {ahead behind : List CommandList}
    (submittable : stage.world.Submittable (ahead ++ behind)) :
    (stage.execute ahead).world.Submittable behind := by
  rw [execute_eq service submittable.left]
  exact service.submittable_accept submittable

/-- Lists are handed over behind everything that waits, before or after some of it had its turn. -/
theorem advancedBy_execute (service : stage.world.InService)
    (submittable : stage.world.Submittable slice) {count : Nat}
    (waiting : count ≤ stage.world.device.queue.pending.length) :
    (stage.execute slice).advancedBy count = (stage.advancedBy count).execute slice := by
  let device := stage.world.device
  let batch := device.submission (slice.map CommandList.freeze)
  have fence : device.fence.signalNext.1.finished ((device.queue.pending ++ [batch]).take count) =
      (device.fence.finished (device.queue.pending.take count)).signalNext.1 := by
    rw [List.take_append_of_le_length waiting]
    exact Fence.finished_signalNext fun submission member =>
      service.handedOut submission (List.mem_of_mem_take member)
  have ran : (stage.execute slice).turned count =
      ⟨(stage.world.accept slice).moved
          ⟨(device.queue.accept batch).turned device.heap stage.scene count,
            device.fence.signalNext.1.finished ((device.queue.pending ++ [batch]).take count)⟩,
        (Stream.runAll device.heap ((device.queue.accept batch).ahead count) stage.scene).scene⟩ := by
    rw [execute_eq service submittable]
    rfl
  have handed : (stage.turned count).execute slice =
      ⟨(stage.turned count).world.accept slice, (stage.turned count).scene⟩ := by
    rw [← advancedBy_eq]
    exact execute_eq (inService_advancedBy service count) (submittable_advancedBy submittable count)
  rw [advancedBy_eq, advancedBy_eq, ran, handed, fence, SoftQueue.turned_accept waiting,
    SoftQueue.ahead_accept waiting]
  simp only [turned, World.accept, World.moved, Device.offered, Device.submission,
    Fence.snd_signalNext, Fence.issued_finished, device, batch]
  rfl

/-- Lists that are handed over run behind everything that waits. -/
theorem settled_execute (service : stage.world.InService)
    (submittable : stage.world.Submittable slice) :
    (stage.execute slice).settled = (stage.settled.execute slice).settled := by
  rw [← settled_advancedBy _ stage.world.device.queue.pending.length,
    advancedBy_execute service submittable (Nat.le_refl _), advancedBy_of_le (Nat.le_refl _)]

/-- It makes no difference whether turns were given before lists are handed over. -/
theorem settled_execute_advancedBy (service : stage.world.InService)
    (submittable : stage.world.Submittable slice) (count : Nat) :
    ((stage.advancedBy count).execute slice).settled = (stage.execute slice).settled := by
  rw [settled_execute (inService_advancedBy service count)
    (submittable_advancedBy submittable count), settled_advancedBy, settled_execute service submittable]

/-- What becomes of lists that are handed over is found by running their streams where everything
before them came to rest. -/
theorem outcome_execute (service : stage.world.InService)
    (submittable : stage.world.Submittable slice) :
    let done := Stream.runAll stage.world.device.heap (slice.map fun list => list.freeze.stream)
      stage.settled.scene
    (stage.execute slice).settled.scene = done.scene ∧
      (stage.execute slice).settled.world.device.queue.faults =
        stage.settled.world.device.queue.faults + done.failures.length := by
  let rest := stage.settled
  have reached : rest = stage.turned stage.world.device.queue.pending.length := settled_eq stage
  have idle : rest.world.device.queue.pending = [] := by
    rw [reached]
    exact List.drop_length
  have heap : rest.world.device.heap = stage.world.device.heap := by
    rw [reached]
    rfl
  have handed : rest.execute slice = ⟨rest.world.accept slice, rest.scene⟩ := by
    rw [reached, ← advancedBy_eq]
    exact execute_eq (inService_advancedBy service _) (submittable_advancedBy submittable _)
  have waiting : (rest.world.accept slice).device.queue.pending =
      [rest.world.device.submission (slice.map CommandList.freeze)] := by
    change rest.world.device.queue.pending ++ [_] = _
    rw [idle]
    rfl
  have streams : (rest.world.accept slice).device.queue.ahead 1 =
      slice.map fun list => list.freeze.stream := by
    rw [SoftQueue.ahead, waiting]
    simp [Device.submission]
  have last : (stage.execute slice).settled =
      Stage.turned ⟨rest.world.accept slice, rest.scene⟩ 1 := by
    rw [settled_execute service submittable, handed, settled_eq, waiting]
    rfl
  rw [last, ← streams, ← heap]
  exact ⟨rfl, rfl⟩

end Stage

end CommandQueue
