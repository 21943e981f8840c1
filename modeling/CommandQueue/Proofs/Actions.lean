import CommandQueue.Proofs.Batches
import CommandQueue.Proofs.Footprints

/-!
# Actions of a soft queue

What a queue does is a row of actions: bytes are copied, and kernels run for one
group after another (`Action`).  The actions follow from the streams that wait and
from what memory holds; how the streams were put into submissions has no part in
them.  So it makes no difference whether lists are handed over in one call or in two
(`Stage.SplitsAlike`), apart from the numbers of the submissions.

Seen over a whole run, memory is what the streams of the accepted lists make of it,
each begun with nothing bound, one by one in the order of the values handed out
(`Stage.Interpreted`).
-/

namespace CommandQueue

/-! ## What streams do -/

/-- What a queue does to a scene at one go. -/
inductive Action where
  /-- Bytes are copied. -/
  | copied (region : CopyRegion)
  /-- The kernel of a bundle runs for one group. -/
  | invoked (bundle : Bundle) (invocation : Invocation)

def Action.perform (scene : Scene) : Action → Scene
  | .copied region => { scene with memory := scene.memory.copy region }
  | .invoked bundle invocation => (bundle.program invocation scene).scene

/-- The invocations of a visit that begins with the group of number `index`.  The one that gives up
is the last. -/
def Program.invocationsFrom (program : Program) (grid : Extent) (tables : List (List Buffer))
    (index : Nat) : Nat → Scene → List Invocation
  | 0, _ => []
  | count + 1, scene =>
      let invocation : Invocation := ⟨grid, grid.groupAt index, tables⟩
      let run := program invocation scene
      invocation ::
        if run.finished then program.invocationsFrom grid tables (index + 1) count run.scene
        else []

theorem Bundle.perform_invocationsFrom (bundle : Bundle) (grid : Extent)
    (tables : List (List Buffer)) (index count : Nat) (scene : Scene) :
    ((bundle.program.invocationsFrom grid tables index count scene).map
        (Action.invoked bundle)).foldl Action.perform scene =
      (bundle.program.visitFrom grid tables index count scene).1 := by
  induction count generalizing index scene with
  | zero => rfl
  | succ count inductionHypothesis =>
      rw [Program.invocationsFrom, Program.visitFrom, List.map_cons, List.foldl_cons, Action.perform]
      cases finished : (bundle.program ⟨grid, grid.groupAt index, tables⟩ scene).finished with
      | true => exact inductionHypothesis _ _
      | false => rfl

namespace Execution

def invocations (heap : DescriptorHeap) (bindings : Bindings) (grid : Extent) (scene : Scene) :
    List Action :=
  match bindings.pipeline with
  | none => []
  | some bundle =>
      match resolveTables heap (bindings.tables.take bundle.slots) with
      | .error _ => []
      | .ok tables =>
          (bundle.program.invocationsFrom grid tables 0 grid.size scene).map
            (Action.invoked bundle)

def actions (heap : DescriptorHeap) (execution : Execution) : Command → List Action
  | .setPipeline _ | .setTable .. => []
  | .copyRegion region => [.copied region]
  | .dispatch grid => invocations heap execution.bindings grid execution.scene

def allActions (heap : DescriptorHeap) : Execution → List Command → List Action
  | _, [] => []
  | execution, command :: rest =>
      execution.actions heap command ++ (execution.step heap command).allActions heap rest

theorem perform_invocations (heap : DescriptorHeap) (bindings : Bindings) (grid : Extent)
    (scene : Scene) :
    (invocations heap bindings grid scene).foldl Action.perform scene =
      (dispatch heap bindings grid scene).1 := by
  unfold invocations dispatch
  cases bindings.pipeline with
  | none => rfl
  | some bundle =>
      dsimp only
      cases resolveTables heap (bindings.tables.take bundle.slots) with
      | error error => rfl
      | ok tables => exact bundle.perform_invocationsFrom grid tables 0 grid.size scene

theorem perform_actions (heap : DescriptorHeap) (execution : Execution) (command : Command) :
    (execution.actions heap command).foldl Action.perform execution.scene =
      (execution.step heap command).scene := by
  cases command with
  | setPipeline | setTable | copyRegion => rfl
  | dispatch grid => exact perform_invocations heap execution.bindings grid execution.scene

theorem perform_allActions (heap : DescriptorHeap) (execution : Execution)
    (commands : List Command) :
    (execution.allActions heap commands).foldl Action.perform execution.scene =
      (execution.run heap commands).scene := by
  induction commands generalizing execution with
  | nil => rfl
  | cons command rest inductionHypothesis =>
      rw [allActions, List.foldl_append, perform_actions, inductionHypothesis, run_cons]

end Execution

namespace Stream

def actionsOf (heap : DescriptorHeap) : List Stream → Scene → List Action
  | [], _ => []
  | stream :: rest, scene =>
      (Execution.start scene).allActions heap stream.commands ++
        actionsOf heap rest (stream.run heap scene).scene

/-- The actions of streams make of a scene what the streams make of it. -/
theorem perform_actionsOf (heap : DescriptorHeap) (streams : List Stream) (scene : Scene) :
    (actionsOf heap streams scene).foldl Action.perform scene =
      (runAll heap streams scene).scene := by
  induction streams generalizing scene with
  | nil => rfl
  | cons stream rest inductionHypothesis =>
      have first : ((Execution.start scene).allActions heap stream.commands).foldl Action.perform
          scene = (stream.run heap scene).scene :=
        Execution.perform_allActions heap (Execution.start scene) stream.commands
      rw [actionsOf, List.foldl_append, first, inductionHypothesis, runAll]

theorem actionsOf_append (heap : DescriptorHeap) (first second : List Stream) (scene : Scene) :
    actionsOf heap (first ++ second) scene =
      actionsOf heap first scene ++ actionsOf heap second (runAll heap first scene).scene := by
  induction first generalizing scene with
  | nil => rfl
  | cons stream rest inductionHypothesis =>
      rw [List.cons_append, actionsOf, actionsOf, inductionHypothesis, runAll, List.append_assoc]

end Stream

/-! ## What waits -/

namespace Fence

theorem completed_finished_le {fence : Fence} (bounded : fence.completed ≤ fence.issued)
    (submissions : List Submission) : (fence.finished submissions).completed ≤ fence.issued := by
  induction submissions generalizing fence with
  | nil => exact bounded
  | cons submission rest inductionHypothesis =>
      rw [finished, complete?]
      split
      · next handedOut =>
          exact @inductionHypothesis ⟨fence.issued, max fence.completed submission.signal⟩
            (Nat.max_le.mpr ⟨bounded, handedOut⟩)
      · exact inductionHypothesis bounded

/-- The last value handed out is completed last. -/
theorem finished_concat {fence : Fence} (bounded : fence.completed ≤ fence.issued)
    (submissions : List Submission) {last : Submission} (newest : last.signal = fence.issued) :
    fence.finished (submissions ++ [last]) = ⟨fence.issued, fence.issued⟩ := by
  have before := completed_finished_le bounded submissions
  have issued := fence.issued_finished submissions
  rw [finished_append, finished, finished, complete?, newest, issued, if_pos (Nat.le_refl _),
    Option.getD_some, Nat.max_eq_right before]

end Fence

namespace SoftQueue

def waiting (queue : SoftQueue) : List Stream := queue.pending.flatMap Submission.streams

theorem waiting_accept (queue : SoftQueue) (submission : Submission) :
    (queue.accept submission).waiting = queue.waiting ++ submission.streams := by
  simp [waiting, accept]

/-- Turns take from the front of what waits. -/
theorem ahead_append_waiting (queue : SoftQueue) (heap : DescriptorHeap) (scene : Scene)
    (count : Nat) :
    queue.ahead count ++ (queue.turned heap scene count).waiting = queue.waiting := by
  rw [ahead, waiting, turned, ← List.flatMap_append, List.take_append_drop, waiting]

theorem ahead_length (queue : SoftQueue) : queue.ahead queue.pending.length = queue.waiting := by
  rw [ahead, List.take_length, waiting]

end SoftQueue

namespace CommandList

def asStream (list : CommandList) : Stream := ⟨list.id, list.category, list.recorded⟩

/-- The list without the value that the queue completes after it. -/
def unnumbered (list : CommandList) : CommandList := { list with submitted := none }

/-- The list after the queue has taken it, but for the value. -/
def taken (list : CommandList) : CommandList := { list.freeze with state := .submitted }

theorem unnumbered_markSubmitted (list : CommandList) (value : FenceValue) :
    (list.freeze.markSubmitted value).unnumbered = list.unnumbered.taken := rfl

theorem taken_taken (list : CommandList) : list.taken.taken = list.taken :=
  congrArg (fun each : CommandList => { each with state := .submitted }) list.freeze_freeze

end CommandList

namespace World

/-- A change that makes no difference the second time can be made to some lists and then to
others. -/
theorem amend_append (lists : List CommandList) (first second : List ListId)
    {change : CommandList → CommandList} (kept : ∀ list, (change list).id = list.id)
    (again : ∀ list, change (change list) = change list) :
    amend lists (first ++ second) change = amend (amend lists first change) second change := by
  rw [amend, amend, amend, List.map_map]
  apply List.map_congr_left
  intro list _
  by_cases early : list.id ∈ first
  · simp [early, kept, again]
  · simp [early]

/-- The world without the numbers of submissions, the values handed out for them and what was noted
about them. -/
def unnumbered (world : World SoftQueue) : World SoftQueue where
  device :=
    { world.device with
      fence := Fence.new
      submissions := 0
      queue := { world.device.queue with submitted := 0, executed := 0 } }
  lists := world.lists.map CommandList.unnumbered
  journal := []
  entries := []

/-- What the lists of the device have recorded. -/
def recordings (world : World SoftQueue) : List (ListId × List Command) :=
  world.lists.map fun list => (list.id, list.recorded)

theorem recordings_accept (world : World SoftQueue) (slice : List CommandList) :
    (world.accept slice).recordings = world.recordings :=
  map_amend _ _ fun _ => rfl

theorem InService.result_execute {world : World SoftQueue} (service : world.InService)
    {slice : List CommandList} (submittable : world.Submittable slice) :
    (world.device.execute slice).result = .ok (world.device.fence.issued + 1) :=
  (Device.execute_of_taken (service.registered.ensureAllOwn_of_own submittable.own) rfl).2.2

/-- Lists of the device are frozen under their own names. -/
theorem Booked.map_stream_freeze {world : World SoftQueue} (booked : world.Booked)
    {slice : List CommandList} (members : ∀ list ∈ slice, list ∈ world.lists) :
    (slice.map CommandList.freeze).map CommandList.stream = slice.map CommandList.asStream := by
  rw [List.map_map]
  exact List.map_congr_left fun list chosen => booked.stream_freeze (members list chosen)

theorem waiting_accept (world : World SoftQueue) (slice : List CommandList) :
    (world.accept slice).device.queue.waiting =
      world.device.queue.waiting ++ slice.map fun list => list.freeze.stream := by
  change (world.device.queue.accept _).waiting = _
  rw [SoftQueue.waiting_accept, Device.submission, List.map_map]
  rfl

/-- But for the value, a list is taken alike in any batch. -/
theorem map_unnumbered_accept (world : World SoftQueue) (slice : List CommandList) :
    (world.accept slice).lists.map CommandList.unnumbered =
      amend (world.lists.map CommandList.unnumbered) (slice.map CommandList.id)
        CommandList.taken := by
  change (amend _ _ _).map _ = _
  rw [amend, amend, List.map_map, List.map_map]
  apply List.map_congr_left
  intro list _
  by_cases chosen : list.id ∈ slice.map CommandList.id
  · simp only [Function.comp, if_pos chosen, CommandList.unnumbered_markSubmitted]
    exact (if_pos chosen).symm
  · simp only [Function.comp, if_neg chosen]
    exact (if_neg chosen).symm

theorem map_unnumbered_accept_append (world : World SoftQueue) (ahead behind : List CommandList) :
    (world.accept (ahead ++ behind)).lists.map CommandList.unnumbered =
      ((world.accept ahead).accept behind).lists.map CommandList.unnumbered := by
  rw [map_unnumbered_accept, map_unnumbered_accept, map_unnumbered_accept, List.map_append,
    @amend_append _ _ _ CommandList.taken (fun _ => rfl) CommandList.taken_taken]

end World

/-! ## Lists in one batch or in two -/

namespace Stage

variable {stage start : Stage} {slice ahead behind : List CommandList}

/-- What the queue does in its next turns. -/
def actions (stage : Stage) (turns : Nat) : List Action :=
  Stream.actionsOf stage.world.device.heap (stage.world.device.queue.ahead turns) stage.scene

/-- What the queue does until it is idle. -/
def actionsLeft (stage : Stage) : List Action :=
  Stream.actionsOf stage.world.device.heap stage.world.device.queue.waiting stage.scene

/-- The actions of some turns come before those of the turns after them. -/
theorem actions_append_actionsLeft (stage : Stage) (turns : Nat) :
    stage.actions turns ++ (stage.advancedBy turns).actionsLeft = stage.actionsLeft := by
  have order := stage.world.device.queue.ahead_append_waiting stage.world.device.heap stage.scene
    turns
  rw [advancedBy_eq, actionsLeft, actionsLeft, ← order, Stream.actionsOf_append]
  rfl

/-- The scene at rest, by the streams that waited. -/
theorem scene_settled (stage : Stage) :
    stage.settled.scene = (Stream.runAll stage.world.device.heap stage.world.device.queue.waiting
      stage.scene).scene := by
  rw [settled_eq, turned, ← SoftQueue.ahead_length]

/-- The world at rest, but for the numbers of submissions. -/
theorem unnumbered_settled (stage : Stage) :
    stage.settled.world.unnumbered =
      stage.world.unnumbered.withQueue
        { stage.world.device.queue with
          pending := []
          submitted := 0
          executed := 0
          faults := stage.world.device.queue.faults +
            (Stream.runAll stage.world.device.heap stage.world.device.queue.waiting
              stage.scene).failures.length } := by
  have rest : stage.world.device.queue.pending.drop stage.world.device.queue.pending.length = [] :=
    List.drop_length
  rw [settled_eq, turned, SoftQueue.turned, SoftQueue.ahead_length, rest]
  rfl

/-- At rest, every submission that waited is finished. -/
theorem fence_settled (stage : Stage) :
    stage.settled.world.device.fence =
      stage.world.device.fence.finished stage.world.device.queue.pending := by
  have all : stage.world.device.queue.pending.take stage.world.device.queue.pending.length =
      stage.world.device.queue.pending := List.take_length
  rw [settled_eq, turned, all]
  rfl

/-- The actions that are left make of memory what it is at rest. -/
theorem perform_actionsLeft (stage : Stage) :
    stage.actionsLeft.foldl Action.perform stage.scene = stage.settled.scene := by
  rw [actionsLeft, Stream.perform_actionsOf, scene_settled]

theorem issued_advancedBy (stage : Stage) (turns : Nat) :
    (stage.advancedBy turns).world.device.fence.issued = stage.world.device.fence.issued := by
  rw [advancedBy_eq]
  exact Fence.issued_finished _ _

/-- The stage after lists were handed over in two batches, with turns of the queue in between. -/
def inTwo (stage : Stage) (ahead behind : List CommandList) (turns : Nat) : Stage :=
  ((stage.execute ahead).advancedBy turns).execute behind

/-- Lists that are handed over add their actions to those that are left. -/
theorem actionsLeft_execute (service : stage.world.InService)
    (submittable : stage.world.Submittable slice) :
    (stage.execute slice).actionsLeft =
      stage.actionsLeft ++ Stream.actionsOf stage.world.device.heap
        (slice.map fun list => list.freeze.stream) stage.settled.scene := by
  rw [execute_eq service submittable, actionsLeft, World.waiting_accept, scene_settled, actionsLeft,
    ← Stream.actionsOf_append]
  rfl

/-- Two batches come to rest like one, but for the numbers. -/
theorem settled_accept_append (stage : Stage) (ahead behind : List CommandList) :
    let whole := Stage.settled ⟨stage.world.accept (ahead ++ behind), stage.scene⟩
    let parts := Stage.settled ⟨(stage.world.accept ahead).accept behind, stage.scene⟩
    whole.scene = parts.scene ∧ whole.world.unnumbered = parts.world.unnumbered := by
  have streams : (stage.world.accept (ahead ++ behind)).device.queue.waiting =
      ((stage.world.accept ahead).accept behind).device.queue.waiting := by
    rw [World.waiting_accept, World.waiting_accept, World.waiting_accept, List.map_append,
      List.append_assoc]
  dsimp only
  refine ⟨?_, ?_⟩
  · rw [scene_settled, scene_settled]
    dsimp only
    rw [streams]
    rfl
  · rw [unnumbered_settled, unnumbered_settled]
    dsimp only
    rw [streams]
    exact congrArg (fun lists => World.mk _ lists [] [])
      (World.map_unnumbered_accept_append stage.world ahead behind)

/-- Two batches lead to the same actions as one, with turns of the queue in between or without. -/
theorem actionsLeft_execute_append (service : stage.world.InService)
    (submittable : stage.world.Submittable (ahead ++ behind)) (turns : Nat) :
    (stage.execute (ahead ++ behind)).actionsLeft =
      (stage.execute ahead).actions turns ++
        (stage.inTwo ahead behind turns).actionsLeft := by
  let heap := stage.world.device.heap
  let streams (lists : List CommandList) := lists.map fun list => list.freeze.stream
  let first := stage.execute ahead
  have handed : first = ⟨stage.world.accept ahead, stage.scene⟩ :=
    execute_eq service submittable.left
  have between := inService_advancedBy (inService_execute service submittable.left) turns
  have offered := submittable_advancedBy (submittable_execute service submittable) turns
  have sameHeap : (first.advancedBy turns).world.device.heap = heap := by
    rw [advancedBy_eq, handed]
    rfl
  -- The lists behind find the scene that those ahead leave once everything before them has run.
  have reached : first.settled.scene =
      (Stream.runAll heap (streams ahead) stage.settled.scene).scene :=
    (outcome_execute service submittable.left).1
  calc (stage.execute (ahead ++ behind)).actionsLeft
      = stage.actionsLeft ++ Stream.actionsOf heap (streams ahead ++ streams behind)
          stage.settled.scene := by
        rw [actionsLeft_execute service submittable, List.map_append]
    _ = (stage.actionsLeft ++ Stream.actionsOf heap (streams ahead) stage.settled.scene) ++
          Stream.actionsOf heap (streams behind) first.settled.scene := by
        rw [Stream.actionsOf_append, reached, List.append_assoc]
    _ = first.actionsLeft ++ Stream.actionsOf heap (streams behind) first.settled.scene := by
        rw [actionsLeft_execute service submittable.left]
    _ = first.actions turns ++ ((first.advancedBy turns).actionsLeft ++
          Stream.actionsOf heap (streams behind) (first.advancedBy turns).settled.scene) := by
        rw [settled_advancedBy, ← List.append_assoc, actions_append_actionsLeft]
    _ = first.actions turns ++ ((first.advancedBy turns).execute behind).actionsLeft := by
        rw [actionsLeft_execute between offered, sameHeap]

/-- Whether lists are handed over in one batch or in two, the device comes to rest in the same state,
after the same actions.  Only the numbers of the submissions tell the difference. -/
structure SplitsAlike (stage : Stage) (ahead behind : List CommandList) (turns : Nat) : Prop where
  taken : (stage.world.device.execute (ahead ++ behind)).result =
    .ok (stage.world.device.fence.issued + 1)
  takenFirst : (stage.world.device.execute ahead).result =
    .ok (stage.world.device.fence.issued + 1)
  takenSecond : (((stage.execute ahead).advancedBy turns).world.device.execute behind).result =
    .ok (stage.world.device.fence.issued + 2)
  scene : (stage.execute (ahead ++ behind)).settled.scene =
    (stage.inTwo ahead behind turns).settled.scene
  actions : (stage.execute (ahead ++ behind)).actionsLeft =
    (stage.execute ahead).actions turns ++ (stage.inTwo ahead behind turns).actionsLeft
  faults : (stage.execute (ahead ++ behind)).settled.world.device.queue.faults =
    (stage.inTwo ahead behind turns).settled.world.device.queue.faults
  recorded : (stage.execute (ahead ++ behind)).settled.world.recordings = stage.world.recordings ∧
    (stage.inTwo ahead behind turns).settled.world.recordings = stage.world.recordings
  unnumbered : (stage.execute (ahead ++ behind)).settled.world.unnumbered =
    (stage.inTwo ahead behind turns).settled.world.unnumbered
  submissions :
    (stage.execute (ahead ++ behind)).settled.world.device.submissions =
        stage.world.device.submissions + 1 ∧
      (stage.inTwo ahead behind turns).settled.world.device.submissions =
        stage.world.device.submissions + 2
  fence :
    (stage.execute (ahead ++ behind)).settled.world.device.fence =
        ⟨stage.world.device.fence.issued + 1, stage.world.device.fence.issued + 1⟩ ∧
      (stage.inTwo ahead behind turns).settled.world.device.fence =
        ⟨stage.world.device.fence.issued + 2, stage.world.device.fence.issued + 2⟩
  entries : (stage.execute (ahead ++ behind)).settled.world.entries = stage.world.entries ++
      [⟨stage.world.device.fence.issued + 1, (ahead ++ behind).map CommandList.asStream⟩] ∧
    (stage.inTwo ahead behind turns).settled.world.entries = stage.world.entries ++
      [⟨stage.world.device.fence.issued + 1, ahead.map CommandList.asStream⟩,
        ⟨stage.world.device.fence.issued + 2, behind.map CommandList.asStream⟩]

theorem splitsAlike (service : stage.world.InService) (booked : stage.world.Booked)
    (bounded : stage.world.device.fence.completed ≤ stage.world.device.fence.issued)
    (submittable : stage.world.Submittable (ahead ++ behind)) (turns : Nat) :
    stage.SplitsAlike ahead behind turns := by
  have later := inService_execute service submittable.left
  have offered := submittable_execute service submittable
  have between := inService_advancedBy later turns
  have numbers : ((stage.execute ahead).advancedBy turns).world.device.fence.issued =
      stage.world.device.fence.issued + 1 := by
    rw [issued_advancedBy, execute_eq service submittable.left]
    rfl
  -- Turns in between make no difference, so two worlds are left to compare, neither of which moved.
  have whole : (stage.execute (ahead ++ behind)).settled =
      Stage.settled ⟨stage.world.accept (ahead ++ behind), stage.scene⟩ := by
    rw [execute_eq service submittable]
  have parts : (stage.inTwo ahead behind turns).settled =
      Stage.settled ⟨(stage.world.accept ahead).accept behind, stage.scene⟩ := by
    rw [inTwo, settled_execute_advancedBy later offered turns, execute_eq later offered,
      execute_eq service submittable.left]
  obtain ⟨scene, unnumbered⟩ := settled_accept_append stage ahead behind
  have faults := congrArg (fun world => world.device.queue.faults) unnumbered
  have members := fun list chosen => (submittable.own list chosen).1
  refine ⟨service.result_execute submittable, service.result_execute submittable.left, ?_, ?_,
    actionsLeft_execute_append service submittable turns, ?_, ?_, ?_, ?_, ?_, ?_⟩
  · rw [between.result_execute (submittable_advancedBy offered turns), numbers]
  · rw [whole, parts, scene]
  · rw [whole, parts]
    exact faults
  · rw [whole, parts, settled_eq, settled_eq]
    exact ⟨World.recordings_accept _ _,
      (World.recordings_accept _ _).trans (World.recordings_accept _ _)⟩
  · rw [whole, parts, unnumbered]
  · rw [whole, parts, settled_eq, settled_eq]
    exact ⟨rfl, rfl⟩
  · rw [whole, parts, fence_settled, fence_settled]
    have once := Nat.le_succ_of_le bounded
    exact ⟨Fence.finished_concat once _ rfl,
      Fence.finished_concat (Nat.le_succ_of_le once) _ rfl⟩
  · rw [whole, parts, settled_eq, settled_eq, ← booked.map_stream_freeze members,
      ← booked.map_stream_freeze fun list chosen => members list (List.mem_append_left _ chosen),
      ← booked.map_stream_freeze fun list chosen => members list (List.mem_append_right _ chosen)]
    exact ⟨rfl, List.append_assoc _ [_] [_]⟩

end Stage

/-! ## Whole runs -/

/-- A call on the device adds streams to those that wait, and as many to the accepted ones. -/
theorem World.waiting_of_step {world after : World SoftQueue} (registered : world.Registered)
    (step : World.Step (fun _ _ => False) world after) :
    after.device.queue.faults = world.device.queue.faults ∧
      ∃ added, after.device.queue.waiting = world.device.queue.waiting ++ added ∧
        after.entries.flatMap Submission.streams =
          world.entries.flatMap Submission.streams ++ added := by
  cases (step.effect registered).turn with
  | quiet quiet =>
      refine ⟨congrArg SoftQueue.faults quiet.queue, [], ?_, ?_⟩
      · rw [quiet.queue, List.append_nil]
      · rw [quiet.entries, List.append_nil]
  | rejected refused => cases refused
  | @accepted slice taken =>
      refine ⟨rfl, (slice.map CommandList.freeze).map CommandList.stream, ?_, ?_⟩
      · rw [List.map_map]
        exact world.waiting_accept slice
      · simp [World.accept, Device.submission]
  | moved moved => exact moved.elim

/-- What happens to memory at one time. -/
inductive Episode where
  /-- A stream runs, with the heap as it is then. -/
  | ran (heap : DescriptorHeap) (stream : Stream)
  /-- Anything but the queue changes the scene. -/
  | changed (scene : Scene)

namespace Episode

/-- What is left after an episode. -/
def play (before : StreamRun) : Episode → StreamRun
  | .ran heap stream =>
      let done := stream.run heap before.scene
      ⟨done.scene, before.failures ++ done.failures⟩
  | .changed scene => { before with scene := scene }

/-- The stream that runs in the episode, if one does. -/
def stream? : Episode → Option Stream
  | .ran _ stream => some stream
  | .changed _ => none

/-- Streams that run one by one are streams that run in a row. -/
theorem foldl_play_ran (heap : DescriptorHeap) (streams : List Stream) (before : StreamRun) :
    (streams.map (ran heap)).foldl play before =
      ⟨(Stream.runAll heap streams before.scene).scene,
        before.failures ++ (Stream.runAll heap streams before.scene).failures⟩ := by
  induction streams generalizing before with
  | nil => simp [Stream.runAll]
  | cons stream rest inductionHypothesis =>
      rw [List.map_cons, List.foldl_cons, inductionHypothesis, play, Stream.runAll]
      simp

theorem filterMap_stream?_ran (heap : DescriptorHeap) (streams : List Stream) :
    (streams.map (ran heap)).filterMap stream? = streams := by
  simp [List.filterMap_map, Function.comp_def, stream?]

end Episode

namespace Stage

variable {stage start : Stage} {episodes : List Episode}

/-- The episodes of the next turns of the queue. -/
def nextEpisodes (stage : Stage) (turns : Nat) : List Episode :=
  (stage.world.device.queue.ahead turns).map (Episode.ran stage.world.device.heap)

/-- One stage leads to another through calls on the device, turns of its queue, and other changes
of memory, with the episodes that memory goes through. -/
inductive Passes (start : Stage) : List Episode → Stage → Prop
  | begins : Passes start [] start
  | acts {episodes : List Episode} {stage : Stage} {after : World SoftQueue}
      (passes : Passes start episodes stage)
      (step : World.Step (fun _ _ => False) stage.world after) :
      Passes start episodes ⟨after, stage.scene⟩
  | advances {episodes : List Episode} {stage : Stage} (passes : Passes start episodes stage) :
      Passes start (episodes ++ stage.nextEpisodes 1) stage.advanced
  | changes {episodes : List Episode} {stage : Stage} (passes : Passes start episodes stage)
      (scene : Scene) :
      Passes start (episodes ++ [.changed scene]) ⟨stage.world, scene⟩

theorem Passes.leads (passes : Passes start episodes stage) :
    World.Leads SoftQueue.Advances start.world stage.world := by
  induction passes with
  | begins => exact Relation.ReflTransGen.refl
  | acts _ step inductionHypothesis =>
      exact inductionHypothesis.tail (step.mono fun moved => moved.elim)
  | advances _ inductionHypothesis =>
      exact inductionHypothesis.tail (World.Step.moves ⟨_, _, rfl⟩)
  | changes _ _ inductionHypothesis => exact inductionHypothesis

theorem Passes.acting {world : World SoftQueue} (passes : Passes start episodes stage)
    (leads : World.Leads (fun _ _ => False) stage.world world) :
    Passes start episodes ⟨world, stage.scene⟩ := by
  induction leads with
  | refl => exact passes
  | tail _ step inductionHypothesis => exact inductionHypothesis.acts step

theorem nextEpisodes_add (stage : Stage) (first second : Nat) :
    stage.nextEpisodes (first + second) =
      stage.nextEpisodes first ++ (stage.advancedBy first).nextEpisodes second := by
  rw [advancedBy_eq]
  simp only [nextEpisodes, turned, World.moved, SoftQueue.turned, SoftQueue.ahead, List.take_add,
    List.flatMap_append, List.map_append]

theorem Passes.advancedBy (passes : Passes start episodes stage) (turns : Nat) :
    Passes start (episodes ++ stage.nextEpisodes turns) (stage.advancedBy turns) := by
  induction turns generalizing episodes stage with
  | zero => simpa [nextEpisodes, SoftQueue.ahead, Stage.advancedBy] using passes
  | succ turns inductionHypothesis =>
      have order : stage.nextEpisodes (turns + 1) =
          stage.nextEpisodes 1 ++ stage.advanced.nextEpisodes turns := by
        rw [Nat.add_comm]
        exact nextEpisodes_add stage 1 turns
      rw [order, ← List.append_assoc]
      exact inductionHypothesis passes.advances

theorem Passes.settled (passes : Passes start episodes stage) :
    Passes start (episodes ++ stage.nextEpisodes stage.world.device.queue.pending.length)
      stage.settled := by
  rw [← advancedBy_of_le (Nat.le_refl _)]
  exact passes.advancedBy _

/-- Memory and faults are what the episodes make of them: the streams of all accepted submissions
in the order of their signals, as far as they do not wait. -/
structure Interpreted (start : Stage) (episodes : List Episode) (stage : Stage) : Prop where
  scene : stage.scene = (episodes.foldl Episode.play ⟨start.scene, []⟩).scene
  faults : stage.world.device.queue.faults = start.world.device.queue.faults +
    (episodes.foldl Episode.play ⟨start.scene, []⟩).failures.length
  streams : episodes.filterMap Episode.stream? ++ stage.world.device.queue.waiting =
    stage.world.entries.flatMap Submission.streams
  signals : stage.world.entries.map Submission.signal =
    List.range' 1 stage.world.entries.length
  contents : stage.world.entries.map Submission.contents =
    Journal.submissions stage.world.journal

theorem Passes.scene (passes : Passes start episodes stage) :
    stage.scene = (episodes.foldl Episode.play ⟨start.scene, []⟩).scene := by
  induction passes with
  | begins => rfl
  | acts _ _ inductionHypothesis => exact inductionHypothesis
  | @advances episodes stage _ inductionHypothesis =>
      rw [List.foldl_append, nextEpisodes, Episode.foldl_play_ran, ← inductionHypothesis]
      exact congrArg Stage.scene (advancedBy_eq stage 1)
  | changes _ _ _ =>
      rw [List.foldl_append]
      rfl

theorem Passes.faults (begun : start.world.Begins) (passes : Passes start episodes stage) :
    stage.world.device.queue.faults = start.world.device.queue.faults +
      (episodes.foldl Episode.play ⟨start.scene, []⟩).failures.length := by
  induction passes with
  | begins => rfl
  | acts passes step inductionHypothesis =>
      rw [← inductionHypothesis]
      exact (World.waiting_of_step (World.Leads.registered begun passes.leads) step).1
  | @advances episodes stage passes inductionHypothesis =>
      rw [List.foldl_append, nextEpisodes, Episode.foldl_play_ran, ← passes.scene,
        List.length_append, ← Nat.add_assoc, ← inductionHypothesis]
      exact congrArg (fun stage => stage.world.device.queue.faults) (advancedBy_eq stage 1)
  | changes _ _ inductionHypothesis =>
      rw [List.foldl_append]
      exact inductionHypothesis

theorem Passes.streams (begun : start.world.Begins) (idle : start.world.device.queue.pending = [])
    (passes : Passes start episodes stage) :
    episodes.filterMap Episode.stream? ++ stage.world.device.queue.waiting =
      stage.world.entries.flatMap Submission.streams := by
  -- A turn moves streams from those that wait to those that ran; a call adds to both sides.
  induction passes with
  | begins => simp [SoftQueue.waiting, idle, begun.fresh.entries]
  | acts passes step inductionHypothesis =>
      obtain ⟨_, added, waiting, accepted⟩ :=
        World.waiting_of_step (World.Leads.registered begun passes.leads) step
      rw [waiting, accepted, ← inductionHypothesis, List.append_assoc]
  | @advances episodes stage passes inductionHypothesis =>
      have order := stage.world.device.queue.ahead_append_waiting stage.world.device.heap
        stage.scene 1
      have reached : stage.advanced = stage.turned 1 := advancedBy_eq stage 1
      rw [List.filterMap_append, nextEpisodes, Episode.filterMap_stream?_ran, List.append_assoc,
        reached, turned]
      dsimp only [World.moved]
      rw [order, inductionHypothesis]
  | changes _ _ inductionHypothesis =>
      rw [List.filterMap_append, List.append_assoc]
      exact inductionHypothesis

theorem Passes.interpreted (begun : start.world.Begins)
    (idle : start.world.device.queue.pending = []) (passes : Passes start episodes stage) :
    Interpreted start episodes stage :=
  ⟨passes.scene, passes.faults begun, passes.streams begun idle,
    (World.Leads.onTime World.lawful_advances begun passes.leads).signals,
    (World.Leads.traced begun passes.leads).contents⟩

/-- How lists are put into batches has no part in what becomes of them, on this stage and on the
way to it. -/
structure Batching (start : Stage) (episodes : List Episode) (stage : Stage) : Prop where
  performed : stage.actionsLeft.foldl Action.perform stage.scene = stage.settled.scene
  splits : ∀ ahead behind turns, stage.world.Submittable (ahead ++ behind) →
    stage.SplitsAlike ahead behind turns
  soFar : Interpreted start episodes stage
  idle : stage.settled.world.device.queue.waiting = []
  atRest : Interpreted start
    (episodes ++ stage.nextEpisodes stage.world.device.queue.pending.length) stage.settled

theorem batching_of_passes (begun : start.world.Begins)
    (idle : start.world.device.queue.pending = []) (passes : Passes start episodes stage) :
    Batching start episodes stage := by
  refine ⟨stage.perform_actionsLeft, ?_, passes.interpreted begun idle, ?_,
    passes.settled.interpreted begun idle⟩
  · intro ahead behind turns submittable
    exact splitsAlike (World.inService_of_leads begun idle passes.leads)
      (World.Leads.booked begun passes.leads)
      (World.Leads.completed_le World.forgetful_advances begun passes.leads) submittable turns
  · rw [settled_eq, SoftQueue.waiting]
    exact congrArg (List.flatMap Submission.streams) List.drop_length

/-- Two batches, with a turn of the queue in between: a copy, and a dispatch that gives up. -/
theorem batching_of_passes_givingUp :
    let start : Stage := ⟨World.small (SoftQueue.new SoftQueue.defaultLabel), Scene.empty⟩
    let copied := World.firstCopy.append World.shift.command
    let invoked (index : Nat) := Action.invoked givingUp ⟨⟨4, 1, 1⟩, ⟨index, 0, 0⟩, [[⟨1, 16⟩]]⟩
    start.world.Begins ∧
      Passes start [.changed independent.scene] independent ∧
      independent.world.Submittable ([copied] ++ [failingList]) ∧
      Batching start [.changed independent.scene] independent ∧
      (independent.execute [copied]).actions 1 ++
          (independent.inTwo [copied] [failingList] 1).actionsLeft =
        [.copied ⟨⟨0, 16⟩, 0, ⟨0, 16⟩, 8, 8⟩, invoked 0, invoked 1, invoked 2] ∧
      (independent.inTwo [copied] [failingList] 1).settled.scene.memory =
        ⟨[[0, 1, 2, 3, 4, 5, 6, 7, 0, 1, 2, 3, 4, 5, 6, 7],
          [1, 0, 0, 0, 2, 0, 0, 0, 0, 0, 0, 0, 0, 0, 0, 0]]⟩ := by
  let start : Stage := ⟨World.small (SoftQueue.new SoftQueue.defaultLabel), Scene.empty⟩
  have passes : Passes start [.changed independent.scene] independent :=
    (Passes.begins.changes independent.scene).acting leads_independent
  exact ⟨World.begins_soft, passes, submittable_independent,
    batching_of_passes World.begins_soft rfl passes, rfl, rfl⟩

end Stage

end CommandQueue
