import CommandQueue.Proofs.Interleavings

/-!
# Frames

Between two frames the simulation rests: nothing waits in the queue, and every
allocator is idle.  A frame whose workers interleave in any order leads from one
such moment to the next; what it does to the memory and what it tells do not
depend on the order.
-/

namespace CommandQueue.Demo.Simulation

open Round

/-! ## Before the first frame -/

def contents (number : Nat) : Bytes := Particle.element.encodeAll (batch number)

theorem length_contents (number : Nat) : (contents number).length = batchBytes := by
  rw [contents, Particle.length_encodeAll, batch, List.length_map, List.length_range]
  rfl

def memoryBefore : Memory :=
  ⟨(List.range workers).map contents ++ [List.replicate batchBytes 0]⟩

/-- Between two frames no worker has a list. -/
theorem seated_start {completed opened : Nat} {lists : List (Option CommandList)}
    (length : lists.length = workers) (free : ∀ worker, deskOf lists worker = none) :
    Seated Round.start completed opened lists := by
  refine ⟨length, ?_, ?_, ?_⟩
  · intro worker place present
    rw [Round.start, List.getElem?_replicate] at present
    obtain ⟨_, rfl⟩ := Option.ite_some_none_eq_some.mp present
    rw [free worker]
    exact .resting
  · intro worker list taken
    rw [free worker] at taken
    cases taken
  · intro worker _ list _ taken
    rw [free worker] at taken
    cases taken

/-- The simulation begins on a new device. -/
structure Begins (start : Simulation) : Prop where
  created : (Device.create 0 (SoftQueue.new queueLabel) config).1 = .ok start.device
  scene : start.scene = Scene.empty
  lists : start.lists = List.replicate workers none

def firstPool (category : Category) : Pool :=
  (Device.initialPool (SoftQueue.new queueLabel) config category).state

/-- The device of the simulation before its first list. -/
def newDevice : Device SoftQueue where
  key := 0
  config := config
  fence := Fence.new
  computePool := firstPool .compute
  copyPool := firstPool .copy
  heap := heapWith 0
  library := Library.empty
  listsOpened := 0
  liveLists := 0
  submissions := 0
  queue := SoftQueue.new queueLabel

theorem create_newDevice :
    (Device.create 0 (SoftQueue.new queueLabel) config).1 = .ok newDevice := rfl

theorem stocked_firstPool (category : Category) :
    (firstPool category).Stocked category 0 0 := by
  have free : (firstPool category).free =
      (List.range workers).map fun serial => Allocator.new ⟨category, serial⟩ := by
    cases category <;> rfl
  have each {property : Allocator → Prop}
      (new : ∀ serial, property (Allocator.new ⟨category, serial⟩)) :
      ∀ allocator ∈ (firstPool category).free, property allocator := by
    rw [free, List.forall_mem_map]
    exact fun serial _ => new serial
  refine ⟨?_, ?_, ?_, each fun _ => rfl, each fun _ => rfl, each fun _ => Nat.le_refl 0⟩
  · cases category <;> rfl
  · cases category <;> rfl
  · rw [free, List.length_map, List.length_range]
    rfl

/-- Before a number in a row stand the numbers below it. -/
theorem eq_range_of_split {seen rest : List Nat} {count number : Nat}
    (split : List.range count = seen ++ number :: rest) :
    number < count ∧ seen = List.range number := by
  have member : number ∈ List.range count := by simp [split]
  have known := List.mem_range.mp member
  have place : (List.range count)[seen.length]? = some number := by simp [split]
  obtain ⟨inside, same⟩ := List.getElem?_eq_some_iff.mp place
  rw [List.getElem_range] at same
  have taken : (List.range count).take seen.length = seen := by simp [split]
  rw [List.take_range, same, Nat.min_eq_left (Nat.le_of_lt known)] at taken
  exact ⟨known, taken.symm⟩

theorem publish_batch {device : Device SoftQueue} {number : Nat} (known : number < workers)
    (heap : device.heap = heapWith number) :
    (publish (batchBuffer number) device).result = .ok ⟨number, 1⟩ ∧
      (publish (batchBuffer number) device).state =
        { device with heap := heapWith (number + 1) } := by
  unfold publish
  rw [heap]
  rcases cases_of_lt_workers known with rfl | rfl | rfl | rfl <;> exact ⟨rfl, rfl⟩

theorem ends_allocateBatches {before : Simulation} (empty : before.scene = Scene.empty) :
    Ends ((List.range workers).mapM fun number => allocate (contents number)) before
      fun buffers after => buffers = (List.range workers).map batchBuffer ∧
        after = { before with scene := ⟨⟨(List.range workers).map contents⟩, []⟩ } := by
  refine Ends.mapM (fun seen done state => done = seen.map batchBuffer ∧
    state = { before with scene := ⟨⟨seen.map contents⟩, []⟩ }) ?_ ?_
  · refine ⟨rfl, ?_⟩
    change before = { before with scene := Scene.empty }
    rw [← empty]
  · rintro seen rest number done state split ⟨rfl, rfl⟩
    obtain ⟨_, rfl⟩ := eq_range_of_split split
    refine (ends_allocate _).mono ?_
    rintro buffer after ⟨rfl, rfl⟩
    refine ⟨?_, ?_⟩
    · simp [length_contents, batchBuffer]
    · simp

theorem ends_publishBatches {before : Simulation} (heap : before.device.heap = heapWith 0) :
    Ends (((List.range workers).map batchBuffer).mapM fun buffer => onDevice (publish buffer)) before
      fun ranges after => ranges = stage.ranges ∧
        Works { before.device with heap := furnished } before after := by
  rw [List.mapM_map]
  refine Ends.mapM (fun seen done state => done = seen.map (DescriptorRange.mk · 1) ∧
    Works { before.device with heap := heapWith seen.length } before state) ?_ ?_
  · refine ⟨rfl, ?_, rfl, rfl, rfl⟩
    rw [List.length_nil, ← heap]
  · rintro seen rest number done state split ⟨rfl, works⟩
    obtain ⟨known, rfl⟩ := eq_range_of_split split
    rw [List.length_range] at works
    have filled : state.device.heap = heapWith number := by rw [works.device]
    obtain ⟨granted, grown⟩ := publish_batch known filled
    refine (ends_onDevice granted).mono ?_
    rintro range after ⟨rfl, more⟩
    rw [grown, works.device] at more
    refine ⟨by simp, ?_⟩
    rw [List.length_append, List.length_range]
    exact works.trans more

/-- What is set aside and published before the first frame. -/
theorem ends_prepare {start : Simulation} (begins : Begins start) :
    Ends prepare start fun given after => given = stage ∧
      Moment 0 memoryBefore Round.start after ∧ after.notes = start.notes := by
  have new : start.device = newDevice :=
    (Except.ok.inj (create_newDevice.symm.trans begins.created)).symm
  have registered : (registerBundle start.device).result = .ok bundle := by
    rw [new]
    rfl
  refine (ends_onDevice registered).bind ?_
  rintro _ first ⟨rfl, works⟩
  have empty : first.scene = Scene.empty := works.scene.trans begins.scene
  refine (ends_allocateBatches empty).bind ?_
  rintro _ second ⟨rfl, shape⟩
  have heap : second.device.heap = heapWith 0 := by
    rw [shape, works.device, new]
    rfl
  refine (ends_publishBatches heap).bind ?_
  rintro _ third ⟨rfl, published⟩
  refine (ends_allocate (List.replicate batchBytes 0)).bind ?_
  rintro snapshot after ⟨taken, last⟩
  have device : after.device = { newDevice with library := ⟨[bundle]⟩, heap := furnished } := by
    rw [last, published.device, shape, works.device, new]
    rfl
  have lists : after.lists = List.replicate workers none := by
    rw [last, published.lists, shape, works.lists, begins.lists]
  have notes : after.notes = start.notes := by
    rw [last]
    exact published.notes.trans (by rw [shape]; exact works.notes)
  have storages : third.scene.memory.storages = (List.range workers).map contents := by
    rw [published.scene, shape]
  have memory : after.scene.memory = memoryBefore := by
    rw [last, storages]
    rfl
  have given : snapshot = batchBuffer workers := by
    rw [taken, storages, List.length_map, List.length_range, List.length_replicate]
    rfl
  have free (worker : Nat) : deskOf after.lists worker = none := by
    rw [lists, deskOf, List.getElem?_replicate]
    split <;> rfl
  obtain ⟨_, ⟨_, _⟩, _, _⟩ := after
  subst device lists
  cases memory
  exact Ends.pure ⟨congrArg (Stage.mk _ · _) given,
    { key := rfl
      heap := rfl
      fence := rfl
      submissions := rfl
      computing := stocked_firstPool .compute
      copying := stocked_firstPool .copy
      living := rfl
      sound := sound_start
      seated := seated_start List.length_replicate free
      streams := rfl
      signals := rfl
      due := rfl
      memory := rfl }, notes⟩

/-! ## The end of a frame -/

variable {base : Nat} {memory : Memory} {round : Round} {before : Simulation}

theorem Round.Sound.gone_of_finished (sound : round.Sound) (finished : round.finished = true) {worker : Nat}
    (known : worker < workers) : round.places[worker]? = some .gone := by
  have inside : worker < round.places.length := sound.length ▸ known
  have gone := List.all_eq_true.mp finished _ (List.getElem_mem inside)
  rw [List.getElem?_eq_getElem inside]
  exact congrArg some (of_decide_eq_true gone)

theorem Round.Sound.ran_of_finished (sound : round.Sound) (finished : round.finished = true) :
    round.ran.Perm (List.range workers) := by
  refine (List.perm_ext_iff_of_nodup sound.once List.nodup_range).mpr ?_
  intro worker
  rw [List.mem_range]
  constructor
  · intro member
    rcases (sound.ran_iff worker).mp member with present | present
    · exact sound.lt_workers present
    · exact sound.lt_workers present
  · intro known
    exact (sound.ran_iff worker).mpr (Or.inr (sound.gone_of_finished finished known))

theorem Round.Sound.line_of_finished (sound : round.Sound) (finished : round.finished = true) :
    round.line = [] := by
  refine List.eq_nil_iff_forall_not_mem.mpr ?_
  intro worker member
  have present := (sound.line_iff worker).mp member
  rw [sound.gone_of_finished finished (sound.lt_workers present)] at present
  cases present

/-- When every worker has let its list go, the simulation rests, whatever the order was. -/
theorem Moment.rest (moment : Moment base memory round before) (finished : round.finished = true) :
    Moment (base + workers) (movedAll memory (List.range workers)) Round.start before := by
  have ran := moment.sound.ran_of_finished finished
  have line := moment.sound.line_of_finished finished
  have value : base + round.ran.length = base + workers := by
    rw [ran.length_eq, List.length_range]
  have free (worker : Nat) : deskOf before.lists worker = none := by
    by_cases known : worker < workers
    · have atHand := moment.seated.atHand worker .gone (moment.sound.gone_of_finished finished known)
      generalize deskOf before.lists worker = list at atHand
      cases atHand
      rfl
    · have outside : before.lists.length ≤ worker :=
        moment.seated.length ▸ Nat.le_of_not_lt known
      rw [deskOf, List.getElem?_eq_none outside]
      rfl
  obtain ⟨key, heap, fence, submissions, computing, copying, living, _, seated, streams, signals,
    _, movedSoFar⟩ := moment
  rw [line] at streams
  rw [value, line] at fence submissions signals
  rw [value] at computing copying
  rw [movedAll_perm memory ran] at movedSoFar
  exact ⟨key, heap, fence, submissions, computing, copying, living, sound_start,
    seated_start seated.length free, streams, signals, rfl,
    movedSoFar.trans (movedAll_nil _).symm⟩

/-! ## The copy of the first batch -/

/-- The memory has all buffers of the simulation. -/
def Sized (memory : Memory) : Prop := ∀ number ≤ workers, memory.Holds (batchBuffer number)

def shown (memory : Memory) : Particle :=
  Particle.element.decodeAt (memory.bytes stage.snapshot) 0

/-- The whole first batch. -/
def snapshotRegion : CopyRegion := ⟨stage.first, 0, stage.snapshot, 0, stage.snapshot.size⟩

theorem inBounds_snapshotRegion : snapshotRegion.InBounds :=
  ⟨Nat.le_of_eq (Nat.zero_add _), Nat.le_of_eq (Nat.zero_add _)⟩

theorem Sized.extends {after : Memory} (sized : Sized memory) (extended : memory.Extends after) :
    Sized after :=
  fun number known => extended _ (sized number known)

theorem Sized.movedAll (sized : Sized memory) : Sized (movedAll memory (List.range workers)) := by
  refine sized.extends (extends_movedAll ?_)
  intro number member
  exact sized number (Nat.le_of_lt (List.mem_range.mp member))

theorem Sized.copy (sized : Sized memory) : Sized (memory.copy snapshotRegion) :=
  sized.extends (Memory.extends_copy (sized workers (Nat.le_refl _)) inBounds_snapshotRegion)

theorem readAt?_shown (sized : Sized memory) :
    memory.readAt? Particle.element stage.snapshot 0 = some (shown memory) := by
  have length := Memory.length_bytes_of_holds (sized workers (Nat.le_refl _))
  have room : 0 < (memory.bytes stage.snapshot).length / Particle.element.width := by
    change 0 < (memory.bytes (batchBuffer workers)).length / 16
    rw [length]
    decide
  rw [Memory.readAt?, Element.decodeAt?, if_pos room]
  rfl

def snapshotList (list : ListId) (allocator : Allocator) : CommandList :=
  (CommandList.opened list 0 .copy allocator none).append (.copyRegion snapshotRegion)

theorem memory_run_snapshotList {allocator : Allocator} (unused : allocator.recorded = [])
    (list : ListId) (heap : DescriptorHeap) (scene : Scene) :
    ((snapshotList list allocator).freeze.stream.run heap scene).scene.memory =
      scene.memory.copy snapshotRegion := by
  have commands : (snapshotList list allocator).freeze.stream.commands =
      [.copyRegion snapshotRegion] := by
    change allocator.recorded ++ [_] = _
    rw [unused]
    rfl
  rw [Stream.run, commands]
  rfl

/-- What is left when the one list that the queue has taken was run. -/
structure RanAlone (list : CommandList) (value : FenceValue) (before after : Simulation) :
    Prop where
  device : ∃ queue : SoftQueue, queue.pending = [] ∧
    after.device =
      { before.device with
        queue := queue
        fence := ⟨value, value⟩
        submissions := before.device.submissions + 1 }
  scene : after.scene = (list.freeze.stream.run before.device.heap before.scene).scene
  lists : after.lists = before.lists
  notes : after.notes = before.notes

/-- A list that is handed over while the queue is idle has run after one wait. -/
theorem ends_runAlone {list : CommandList} (own : list.device = before.device.key)
    (fresh : list.state ≠ .submitted) (idle : before.device.queue.pending = [])
    (fence : before.device.fence = ⟨base, base⟩) {α : Type} {next : CommandList → Simulated α}
    {post : α → Simulation → Prop}
    (others : ∀ after, RanAlone list (base + 1) before after →
      Ends (next (list.freeze.markSubmitted (base + 1))) after post) :
    Ends (handOver list (fun device list => device.execute [list]) >>= fun given =>
      wait >>= fun _ => next given) before post := by
  obtain ⟨result, lists, device⟩ := execute_singleton own fresh
  rw [fence] at result lists device
  refine (@ends_handOver before list (fun device list => device.execute [list]) _ result).bind ?_
  rintro _ between ⟨rfl, taken⟩
  rw [lists, List.headD_cons]
  rw [device] at taken
  have pending : between.device.queue.pending = [⟨base + 1, [list.freeze.stream]⟩] := by
    rw [taken.device]
    change before.device.queue.pending ++ [_] = _
    rw [idle]
    rfl
  have clock : between.device.fence = ⟨base + 1, base⟩ := by rw [taken.device]
  have handedOut : base + 1 ≤ between.device.fence.issued := Nat.le_of_eq (by rw [clock])
  obtain ⟨finished, completed⟩ := SoftQueue.runNext_of_pending between.device.heap between.scene
    pending handedOut
  have reached : (between.device.queue.runNext between.device.fence between.device.heap
      between.scene).fence = ⟨base + 1, base + 1⟩ := by
    refine (Fence.complete?_eq_some_iff.mp completed).2.trans ?_
    rw [clock]
    exact congrArg (Fence.mk _) (Nat.max_eq_right (Nat.le_succ base))
  have played : (between.device.queue.runNext between.device.fence between.device.heap
      between.scene).scene = (list.freeze.stream.run between.device.heap between.scene).scene := by
    simp only [SoftQueue.runNext, pending]
    rfl
  refine ends_wait.bind ?_
  rintro _ after ⟨settled, scene, desks, silent⟩
  generalize between.device.queue.runNext between.device.fence between.device.heap
    between.scene = ran at finished completed reached played settled scene
  have heap : between.device.heap = before.device.heap := by rw [taken.device]
  refine others after
    ⟨⟨ran.queue, finished, ?_⟩, ?_, desks.trans taken.lists, silent.trans taken.notes⟩
  · rw [settled, reached, taken.device]
  · rw [scene, played, heap, taken.scene]

/-- What shows the first particle at the end of a frame. -/
def finishFrame (frame : Nat) : Simulated Unit := do
  let list ← recordNew .copy (snapshotCalls stage)
  let copy ← handOver list fun device list => device.execute [list]
  wait
  let memory := (← get).scene.memory
  match memory.readAt? Particle.element stage.snapshot 0, copy.submitted with
  | some particle, some value => note (frameText frame value particle)
  | _, _ => pure ()
  letGo copy

theorem runFrame_stage (steps : List Step) (frame : Nat) :
    runFrame stage steps frame = steps.forM (take stage) >>= fun _ => finishFrame frame := rfl

theorem Moment.finishFrame (moment : Moment base memory Round.start before) (sized : Sized memory)
    (frame : Nat) :
    Ends (finishFrame frame) before fun _ after =>
      Moment (base + 1) (memory.copy snapshotRegion) Round.start after ∧
        after.notes = before.notes ++
          [LogRecord.note (frameText frame (base + 1) (shown (memory.copy snapshotRegion)))] := by
  have fence : before.device.fence = ⟨base, base⟩ := moment.fence
  have idle : before.device.queue.pending = [] := List.map_eq_nil_iff.mp moment.streams
  have stocked : (before.device.pool .copy).Stocked .copy 0 before.device.fence.completed := by
    rw [fence]
    exact moment.copying
  obtain ⟨allocator, pool, sorted, empty, unused, left, opened, state⟩ :=
    openList_of_stocked stocked (by decide)
  rw [moment.key] at opened
  let list := snapshotList ⟨before.device.listsOpened + 1⟩ allocator
  have accepted : (snapshotCalls stage).foldlM CommandList.record
      (CommandList.opened ⟨before.device.listsOpened + 1⟩ 0 .copy allocator none) = .ok list := rfl
  refine (ends_recordNew opened accepted).bind ?_
  rintro _ first ⟨rfl, drawn⟩
  rw [state] at drawn
  have own : list.device = first.device.key := by
    rw [drawn.device]
    exact moment.key.symm
  have fresh : list.state ≠ .submitted := ListState.noConfusion
  have waiting : first.device.queue.pending = [] := by
    rw [drawn.device]
    exact idle
  have clock : first.device.fence = ⟨base, base⟩ := by
    rw [drawn.device]
    exact fence
  refine ends_runAlone own fresh waiting clock ?_
  intro second ran
  have copied : second.scene.memory = memory.copy snapshotRegion := by
    rw [ran.scene, memory_run_snapshotList unused, drawn.scene, moment.memory]
    rfl
  have seen : second.scene.memory.readAt? Particle.element stage.snapshot 0 =
      some (shown (memory.copy snapshotRegion)) := by
    rw [copied]
    exact readAt?_shown sized.copy
  refine Ends.get.bind ?_
  rintro _ _ ⟨rfl, rfl⟩
  dsimp only
  rw [seen]
  change Ends (note _ >>= fun _ => Simulation.letGo _) _ _
  refine (ends_tell [_]).bind ?_
  rintro _ third ⟨sameDevice, sameScene, sameLists, told⟩
  obtain ⟨queue, finished, settled⟩ := ran.device
  have current := sameDevice.trans settled
  rw [drawn.device] at current
  have category : (list.freeze.markSubmitted (base + 1)).allocator.category = .copy := sorted
  have released : (list.freeze.markSubmitted (base + 1)).allocator.inFlight third.device.held =
      false := by
    change third.device.queue.pending.any _ = false
    rw [current]
    change queue.pending.any _ = false
    rw [finished]
    rfl
  have grown : base ≤ base + 1 := Nat.le_succ base
  have lent : (third.device.pool .copy).Stocked .copy 1 (base + 1) := by
    rw [fence] at left
    rw [current]
    exact left.later grown
  have back := lent.putBack category released (Nat.le_refl (base + 1))
  rw [current] at back
  refine (ends_letGo _).mono ?_
  intro _ after works
  rw [Device.retire_fst, category] at works
  obtain ⟨device, scene, lists, silent⟩ := works
  rw [current] at device
  rw [sameLists, ran.lists, drawn.lists] at lists
  obtain ⟨_, _, _, _⟩ := after
  subst device lists
  refine ⟨{ moment with
    sound := sound_start
    fence := rfl
    submissions := congrArg (· + 1) moment.submissions
    computing := moment.computing.later grown
    copying := back
    seated := moment.seated.later grown (Nat.le_succ _)
    streams := congrArg (List.map Submission.streams) finished
    signals := congrArg (List.map Submission.signal) finished
    due := rfl
    memory := ?_ }, ?_⟩
  · exact (congrArg Scene.memory (scene.trans sameScene)).trans
      (copied.trans (movedAll_nil _).symm)
  · rw [silent, told, ran.notes, drawn.notes]
    rfl

/-! ## Frames one after the other -/

def afterFrame (memory : Memory) : Memory :=
  (movedAll memory (List.range workers)).copy snapshotRegion

def memoryAfter : Nat → Memory
  | 0 => memoryBefore
  | count + 1 => afterFrame (memoryAfter count)

/-- What is told at the end of a frame. -/
def frameNote (frame : Nat) : LogRecord :=
  .note (frameText frame (5 * (frame + 1)) (shown (memoryAfter (frame + 1))))

def finalStats (frames : Nat) : DeviceStats where
  submissions := 5 * frames
  liveLists := 0
  lastIssued := 5 * frames
  completed := 5 * frames
  descriptorsAllocated := workers
  pools := [⟨.compute, workers, workers⟩, ⟨.copy, workers, workers⟩]

/-- The simulation as far as the beginning of a frame. -/
def reach (schedule : Nat → List Step) (count : Nat) : Simulated Stage := do
  let stage ← prepare
  (List.range count).forM fun frame => runFrame stage (schedule frame) frame
  return stage

theorem sized_memoryBefore : Sized memoryBefore := by
  intro number known
  change Option.map List.length
    ((List.range workers).map contents ++ [List.replicate batchBytes 0])[number]? = some batchBytes
  rcases Nat.lt_or_eq_of_le known with below | rfl
  · rw [List.getElem?_append_left (by simpa using below), List.getElem?_map,
      List.getElem?_range below]
    exact congrArg some (length_contents number)
  · rw [List.getElem?_append_right (by simp), List.length_map, List.length_range, Nat.sub_self]
    exact congrArg some List.length_replicate

theorem sized_memoryAfter (count : Nat) : Sized (memoryAfter count) := by
  induction count with
  | zero => exact sized_memoryBefore
  | succ count inductionHypothesis => exact inductionHypothesis.movedAll.copy

variable {start : Simulation} {schedule : Nat → List Step} {order : List Step} {count : Nat}

theorem Moment.takeAll (moment : Moment base memory round before) {last : Round}
    (goes : order.foldlM Round.take? round = some last) :
    Ends (order.forM (Simulation.take stage)) before fun _ after =>
      Moment base memory last after ∧ after.notes = before.notes := by
  let holds (round : Round) (simulation : Simulation) : Prop :=
    Moment base memory round simulation ∧ simulation.notes = before.notes
  have begun : holds round before := ⟨moment, rfl⟩
  refine Ends.forM goes begun ?_
  rintro here there step state taken ⟨now, silent⟩
  refine (now.take taken).mono ?_
  rintro _ after ⟨next, still⟩
  exact ⟨next, still.trans silent⟩

/-- A frame leads from one rest to the next, in whatever order its steps are taken. -/
theorem Moment.frame (moment : Moment base memory Round.start before) (sized : Sized memory)
    (interleaves : Interleaves order) (frame : Nat) :
    Ends (runFrame stage order frame) before fun _ after =>
      Moment (base + 5) (afterFrame memory) Round.start after ∧
        after.notes = before.notes ++
          [LogRecord.note (frameText frame (base + 5) (shown (afterFrame memory)))] := by
  obtain ⟨last, goes, finished⟩ := (Option.any_eq_true _ _).mp interleaves
  rw [runFrame_stage]
  refine (moment.takeAll goes).bind ?_
  rintro _ between ⟨reached, silent⟩
  refine ((reached.rest finished).finishFrame sized.movedAll frame).mono ?_
  rintro _ after ⟨rests, told⟩
  rw [silent] at told
  exact ⟨rests, told⟩

theorem ends_reach (begins : Begins start)
    (interleaved : ∀ frame < count, Interleaves (schedule frame)) :
    Ends (reach schedule count) start fun given after => given = stage ∧
      Moment (5 * count) (memoryAfter count) Round.start after ∧
        after.notes = start.notes ++ (List.range count).map frameNote := by
  refine (ends_prepare begins).bind ?_
  rintro _ ready ⟨rfl, first, silent⟩
  have frames : Ends ((List.range count).forM fun frame => runFrame stage (schedule frame) frame)
      ready fun _ after => Moment (5 * count) (memoryAfter count) Round.start after ∧
        after.notes = start.notes ++ (List.range count).map frameNote := by
    -- Each frame begins where the one before it comes to rest.
    induction count with
    | zero =>
        refine Ends.pure ⟨first, ?_⟩
        rw [silent]
        exact (List.append_nil _).symm
    | succ count inductionHypothesis =>
        rw [List.range_succ]
        change Ends (forM (List.range count ++ [count]) _) _ _
        rw [List.forM_append]
        refine (inductionHypothesis fun frame below =>
          interleaved frame (Nat.lt_succ_of_lt below)).bind ?_
        rintro _ between ⟨rests, told⟩
        have next := rests.frame (sized_memoryAfter count)
          (interleaved count (Nat.lt_succ_self count)) count
        change Ends (runFrame stage (schedule count) count >>= fun _ => pure ()) _ _
        refine next.bind ?_
        rintro _ after ⟨ends, also⟩
        refine Ends.pure ⟨ends, ?_⟩
        rw [also, told, List.map_append, List.append_assoc]
        rfl
  refine frames.bind ?_
  rintro _ after ⟨rests, told⟩
  exact Ends.pure ⟨rfl, rests, told⟩

theorem Moment.busy_eq_zero (moment : Moment base memory Round.start before) :
    busy before.lists = 0 := by
  rw [busy, List.countP_eq_zero]
  intro list member
  obtain ⟨worker, inside, rfl⟩ := List.getElem_of_mem member
  have known : worker < workers := moment.seated.length ▸ inside
  have present : Round.start.places[worker]? = some .resting := by
    rw [Round.start, List.getElem?_replicate, if_pos known]
  have free := moment.seated.free present
  rw [deskOf_eq_getElem inside] at free
  rw [free]
  exact Bool.false_ne_true

theorem Moment.stats (moment : Moment (5 * count) memory Round.start before) :
    before.device.stats = finalStats count := by
  have computing := moment.computing
  rw [moment.busy_eq_zero] at computing
  have free : before.device.computePool.free.length = workers := computing.idle
  have also : before.device.copyPool.free.length = workers := moment.copying.idle
  have living := moment.living.trans moment.busy_eq_zero
  have pools : Category.all.map (fun category => (⟨category, (before.device.pool category).live,
      (before.device.pool category).free.length⟩ : PoolStats)) =
      [⟨.compute, workers, workers⟩, ⟨.copy, workers, workers⟩] := by
    change [PoolStats.mk .compute before.device.computePool.live
        before.device.computePool.free.length,
      PoolStats.mk .copy before.device.copyPool.live before.device.copyPool.free.length] = _
    rw [computing.live, moment.copying.live, free, also]
  rw [Device.stats, pools, moment.submissions, moment.fence, moment.heap, living]
  rfl

theorem ends_run (begins : Begins start)
    (interleaved : ∀ frame < count, Interleaves (schedule frame)) :
    Ends (run count schedule) start fun _ after => ∃ time,
      after.notes = start.notes ++ ((List.range count).map frameNote ++
        (summary count time (finalStats count)).map LogRecord.note) := by
  have shape : run count schedule = reach schedule count >>= fun _ => get >>= fun simulation =>
      report ((summary count (elapsed simulation.device.queue) simulation.device.stats).map
        LogRecord.note) := by
    simp only [run, reach, bind_assoc, pure_bind]
  rw [shape]
  refine (ends_reach begins interleaved).bind ?_
  rintro _ between ⟨rfl, rests, told⟩
  refine Ends.get.bind ?_
  rintro _ _ ⟨rfl, rfl⟩
  refine (ends_tell _).mono ?_
  rintro _ after ⟨_, _, _, also⟩
  rw [rests.stats, told, List.append_assoc] at also
  exact ⟨_, also⟩

/-- A simulation runs on the new device, after a few records of the library. -/
theorem simulate_eq (frames : Nat) (schedule : Nat → List Step) :
    ∃ events : List Event, simulate frames schedule =
      let ran := (run frames schedule).run.run ⟨newDevice, Scene.empty,
        List.replicate workers none, (events.map LogRecord.ofEvent).reverse⟩
      ⟨ran.2.log.reverse ++ [ran.2.device.teardown, .workerExited].map LogRecord.ofEvent, ran.1⟩ := by
  refine ⟨.queueStarted queueLabel (some latency) ::
    (Device.create 0 (SoftQueue.new queueLabel) config).2, ?_⟩
  unfold simulate
  dsimp only
  rw [create_newDevice]
  dsimp only
  generalize (run frames schedule).run.run _ = ran
  rfl

theorem simulate_of_interleaved
    (interleaved : ∀ frame < count, Interleaves (schedule frame)) :
    (simulate count schedule).result = .ok () ∧
      ∃ time, (simulate count schedule).log.filter LogRecord.isNote =
        (List.range count).map frameNote ++
          (summary count time (finalStats count)).map LogRecord.note := by
  obtain ⟨events, shape⟩ := simulate_eq count schedule
  let start : Simulation := ⟨newDevice, Scene.empty, List.replicate workers none,
    (events.map LogRecord.ofEvent).reverse⟩
  have begins : Begins start := ⟨create_newDevice, rfl, rfl⟩
  have silent : start.notes = [] := by
    rw [notes, List.reverse_reverse]
    exact LogRecord.filter_isNote_ofEvent events
  obtain ⟨_, after, ran, time, told⟩ := ends_run begins interleaved
  rw [silent, List.nil_append] at told
  rw [shape]
  generalize (run count schedule).run.run _ = final at ran
  subst ran
  refine ⟨rfl, time, ?_⟩
  rw [List.filter_append, LogRecord.filter_isNote_ofEvent, List.append_nil]
  exact told

/-- In whatever order the steps of each frame are taken, none is refused, no allocator is added to
those that the device began with, and neither the memory after a frame nor what is told depends on
the order. -/
theorem report_of_interleaved (begins : Begins start) {frames : Nat}
    (interleaved : ∀ frame < frames, Interleaves (schedule frame)) :
    (∀ count < frames, ∀ order, order <+: schedule count →
      Ends (reach schedule count >>= fun given => order.forM (take given)) start fun _ after =>
        ∀ category, (after.device.pool category).live = workers ∧
          (after.device.pool category).nextSerial = workers) ∧
      (∀ count ≤ frames, Ends (reach schedule count) start fun _ after =>
        after.scene.memory = memoryAfter count) ∧
      (simulate frames schedule).result = .ok () ∧
      ∃ time, (simulate frames schedule).log.filter LogRecord.isNote =
        (List.range frames).map frameNote ++
          (summary frames time (finalStats frames)).map LogRecord.note := by
  refine ⟨?_, ?_, ?_⟩
  · intro count below order ahead
    obtain ⟨rest, whole⟩ := ahead
    obtain ⟨last, goes, _⟩ := (Option.any_eq_true _ _).mp (interleaved count below)
    rw [← whole, List.foldlM_append] at goes
    obtain ⟨middle, first, _⟩ := Option.bind_eq_some_iff.mp goes
    have reached := ends_reach begins fun frame earlier =>
      interleaved frame (Nat.lt_trans earlier below)
    refine reached.bind ?_
    rintro _ between ⟨rfl, rests, _⟩
    refine (rests.takeAll first).mono ?_
    rintro _ after ⟨moment, _⟩ category
    cases category with
    | compute => exact ⟨moment.computing.live, moment.computing.serial⟩
    | copy => exact ⟨moment.copying.live, moment.copying.serial⟩
  · intro count known
    refine (ends_reach begins fun frame earlier =>
      interleaved frame (Nat.lt_of_lt_of_le earlier known)).mono ?_
    rintro _ after ⟨_, rests, _⟩
    exact rests.memory
  · exact simulate_of_interleaved interleaved

/-- An order in which the lists are not handed over in the order of the workers, and some of them
run before others are recorded. -/
def crossing : List Step :=
  [.record 2, .record 0, .handOver 0, .run, .record 1, .handOver 2, .letGo 0, .handOver 1, .run,
    .record 3, .handOver 3, .run, .letGo 1, .run, .letGo 3, .letGo 2]

/-- The first frame goes crosswise and the others in turn. -/
def mixed (frame : Nat) : List Step := if frame = 0 then crossing else inTurn

theorem interleaves_mixed (frame : Nat) : Interleaves (mixed frame) := by
  rw [mixed]
  split
  · decide
  · decide

theorem report_of_interleaved_mixed :
    Begins ⟨newDevice, Scene.empty, List.replicate workers none, []⟩ ∧
      (∀ frame < 3, Interleaves (mixed frame)) ∧
      (simulate 3 mixed).result = .ok () ∧
      ∃ time, (simulate 3 mixed).log.filter LogRecord.isNote =
        [frameNote 0, frameNote 1, frameNote 2] ++
          (summary 3 time ⟨15, 0, 15, 15, 4, [⟨.compute, 4, 4⟩, ⟨.copy, 4, 4⟩]⟩).map
            LogRecord.note :=
  have begins : Begins ⟨newDevice, Scene.empty, List.replicate workers none, []⟩ :=
    ⟨create_newDevice, rfl, rfl⟩
  ⟨begins, fun frame _ => interleaves_mixed frame,
    (report_of_interleaved begins fun frame _ => interleaves_mixed frame).2.2⟩

end CommandQueue.Demo.Simulation
