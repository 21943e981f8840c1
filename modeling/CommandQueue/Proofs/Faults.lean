import CommandQueue.Proofs.Actions

/-!
# Faults

A dispatch can fail in two ways: a table that its kernel reads cannot be
resolved, and then the kernel does not run at all; or the kernel gives up in one
of the groups, and then the groups after that one are left out and everything
done so far stays (`Execution.Dispatched`).  Either way it counts as one fault.
The commands and streams behind it run from the scene that it leaves, with the
bindings that they would find without the fault, and the submission ends as
usual (`Stage.Isolates`).
-/

namespace CommandQueue

/-! ## Visiting groups -/

namespace Program

variable {program : Program} {grid : Extent} {tables : List (List Buffer)} {scene : Scene}

/-- The scene after the first groups of a grid, whether they run to their ends or not. -/
def sceneAfter (program : Program) (grid : Extent) (tables : List (List Buffer)) (scene : Scene) :
    Nat → Scene
  | 0 => scene
  | count + 1 =>
      (program ⟨grid, grid.groupAt count, tables⟩
        (program.sceneAfter grid tables scene count)).scene

/-- The program runs to its end for a group, after all groups before it. -/
def FinishesAt (program : Program) (grid : Extent) (tables : List (List Buffer)) (scene : Scene)
    (index : Nat) : Prop :=
  (program ⟨grid, grid.groupAt index, tables⟩
    (program.sceneAfter grid tables scene index)).finished = true

def groups (grid : Extent) (tables : List (List Buffer)) (index count : Nat) : List Invocation :=
  (List.range' index count).map fun place => ⟨grid, grid.groupAt place, tables⟩

/-- The ends of a visit that begins with the group of number `index`. -/
inductive Visits (program : Program) (grid : Extent) (tables : List (List Buffer)) (scene : Scene)
    (index count : Nat) : Scene × Option Extent → List Invocation → Prop
  | finished (finishes : ∀ place, index ≤ place → place < index + count →
        program.FinishesAt grid tables scene place) :
      Visits program grid tables scene index count
        (program.sceneAfter grid tables scene (index + count), none) (groups grid tables index count)
  | stopped {stop : Nat} (within : stop < count)
      (finishes : ∀ place, index ≤ place → place < index + stop →
        program.FinishesAt grid tables scene place)
      (stops : ¬ program.FinishesAt grid tables scene (index + stop)) :
      Visits program grid tables scene index count
        (program.sceneAfter grid tables scene (index + stop + 1),
          some (grid.groupAt (index + stop)))
        (groups grid tables index (stop + 1))

theorem groups_succ (grid : Extent) (tables : List (List Buffer)) (index count : Nat) :
    groups grid tables index (count + 1) =
      ⟨grid, grid.groupAt index, tables⟩ :: groups grid tables (index + 1) count := by
  rw [groups, List.range'_succ, List.map_cons, groups]

theorem Visits.succ {index count : Nat} {final : Scene × Option Extent}
    {invocations : List Invocation} (finishes : program.FinishesAt grid tables scene index)
    (visits : Visits program grid tables scene (index + 1) count final invocations) :
    Visits program grid tables scene index (count + 1) final
      (⟨grid, grid.groupAt index, tables⟩ :: invocations) := by
  have onward : ∀ bound, (∀ place, index + 1 ≤ place → place < bound →
      program.FinishesAt grid tables scene place) → ∀ place, index ≤ place → place < bound →
        program.FinishesAt grid tables scene place := by
    intro bound others place after before
    rcases Nat.eq_or_lt_of_le after with rfl | later
    · exact finishes
    · exact others place later before
  cases visits with
  | finished others =>
      have same : index + 1 + count = index + (count + 1) := by omega
      rw [same] at others ⊢
      rw [← groups_succ]
      exact Visits.finished (onward _ others)
  | @stopped stop within others stops =>
      have same : index + 1 + stop = index + (stop + 1) := by omega
      rw [same] at others stops ⊢
      rw [← groups_succ]
      exact Visits.stopped (Nat.succ_lt_succ within) (onward _ others) stops

/-- A visit goes on to the last group or ends with the first one that gives up. -/
theorem visits_visitFrom (program : Program) (grid : Extent) (tables : List (List Buffer))
    (scene : Scene) (index count : Nat) :
    Visits program grid tables scene index count
      (program.visitFrom grid tables index count (program.sceneAfter grid tables scene index))
      (program.invocationsFrom grid tables index count
        (program.sceneAfter grid tables scene index)) := by
  induction count generalizing index with
  | zero => exact Visits.finished fun place after before => absurd before (Nat.not_lt.mpr after)
  | succ count inductionHypothesis =>
      rw [visitFrom, invocationsFrom]
      by_cases finishes : (program ⟨grid, grid.groupAt index, tables⟩
          (program.sceneAfter grid tables scene index)).finished = true
      · -- The scene that this group leaves is the one in which the next group begins.
        simp only [if_pos finishes]
        exact Visits.succ finishes (inductionHypothesis (index + 1))
      · simp only [if_neg finishes]
        refine Visits.stopped (Nat.succ_pos count) ?_ finishes
        exact fun place after before => absurd before (Nat.not_lt.mpr after)

end Program

/-! ## Resolving tables -/

namespace Bindings

/-- The buffers of a slot; a slot without a range has none. -/
def answer (bindings : Bindings) (heap : DescriptorHeap) (slot : Nat) :
    Except Error (List Buffer) :=
  match bindings.table slot with
  | some range => heap.resolve range
  | .none => .ok []

/-- The tables with which a kernel runs that reads a number of slots. -/
structure Supplies (bindings : Bindings) (heap : DescriptorHeap) (slots : Nat)
    (tables : List (List Buffer)) : Prop where
  count : tables.length = min slots tableSlots
  given : ∀ slot < min slots tableSlots,
    bindings.answer heap slot = .ok (tables[slot]?.getD [])

/-- The first slot that a kernel reads and that cannot be resolved. -/
structure FailsAt (bindings : Bindings) (heap : DescriptorHeap) (slots slot : Nat)
    (error : Error) : Prop where
  inside : slot < min slots tableSlots
  failed : bindings.answer heap slot = .error error
  earlier : ∀ other < slot, ∃ buffers, bindings.answer heap other = .ok buffers

theorem take_tables {bindings : Bindings} (whole : bindings.tables.length = tableSlots)
    (slots : Nat) :
    bindings.tables.take slots = (List.range (min slots tableSlots)).map bindings.table := by
  apply List.ext_getElem
  · simp [whole]
  · intro slot inside _
    have present : slot < bindings.tables.length := by
      rw [List.length_take] at inside
      omega
    simp [table, present]

end Bindings

theorem Execution.resolveTables_cases (heap : DescriptorHeap) {bindings : Bindings}
    (whole : bindings.tables.length = tableSlots) (slots : Nat) :
    (∃ tables, resolveTables heap (bindings.tables.take slots) = .ok tables ∧
        bindings.Supplies heap slots tables) ∨
      ∃ slot error, resolveTables heap (bindings.tables.take slots) = .error error ∧
        bindings.FailsAt heap slots slot error := by
  have slotwise : resolveTables heap (bindings.tables.take slots) =
      (List.range (min slots tableSlots)).mapM (bindings.answer heap) := by
    rw [Bindings.take_tables whole, resolveTables, List.mapM_map]
    rfl
  rw [slotwise]
  rcases mapM_cases (bindings.answer heap) (List.range (min slots tableSlots)) with
    ⟨tables, resolved, related⟩ | ⟨front, slot, back, error, shape, before, failed, refused⟩
  · have length : tables.length = min slots tableSlots := by
      rw [← related.length_eq, List.length_range]
    refine Or.inl ⟨tables, resolved, length, ?_⟩
    intro slot inside
    have present : slot < tables.length := by omega
    have pair := related.get (by simpa using inside) present
    simpa [present] using pair
  · have place : ∀ other (inside : other < (front ++ slot :: back).length),
        (front ++ slot :: back)[other] = other := by
      intro other inside
      simp [← shape]
    have last : slot = front.length := by
      have here := place front.length (by simp)
      simpa using here
    refine Or.inr ⟨slot, error, refused, ?_, failed, ?_⟩
    · rw [← List.mem_range, shape]
      simp
    · intro other earlier
      rw [last] at earlier
      have here := place other (by simp; omega)
      rw [List.getElem_append_left earlier] at here
      exact before other (List.mem_of_getElem here)

/-! ## One dispatch -/

namespace Execution

/-- The ends of a dispatch: the scene that it leaves, what the kernel was invoked for, and the
failure that it reports. -/
inductive Dispatched (heap : DescriptorHeap) (bindings : Bindings) (grid : Extent) (scene : Scene) :
    Scene → List Action → Option Failure → Prop
  | finished {bundle : Bundle} {tables : List (List Buffer)}
      (piped : bindings.pipeline = some bundle)
      (supplied : bindings.Supplies heap bundle.slots tables)
      (finishes : ∀ index < grid.size, bundle.program.FinishesAt grid tables scene index) :
      Dispatched heap bindings grid scene
        (bundle.program.sceneAfter grid tables scene grid.size)
        ((Program.groups grid tables 0 grid.size).map (Action.invoked bundle)) none
  | unresolved {bundle : Bundle} {slot : Nat} {error : Error}
      (piped : bindings.pipeline = some bundle)
      (fails : bindings.FailsAt heap bundle.slots slot error) :
      Dispatched heap bindings grid scene scene [] (some (.unresolved error))
  | panicked {bundle : Bundle} {tables : List (List Buffer)} {index : Nat}
      (piped : bindings.pipeline = some bundle)
      (supplied : bindings.Supplies heap bundle.slots tables)
      (within : index < grid.size)
      (finishes : ∀ earlier < index, bundle.program.FinishesAt grid tables scene earlier)
      (stops : ¬ bundle.program.FinishesAt grid tables scene index) :
      Dispatched heap bindings grid scene
        (bundle.program.sceneAfter grid tables scene (index + 1))
        ((Program.groups grid tables 0 (index + 1)).map (Action.invoked bundle))
        (some (.panicked bundle.kernel (grid.groupAt index)))

theorem dispatched_dispatch (heap : DescriptorHeap) {bindings : Bindings} {bundle : Bundle}
    (piped : bindings.pipeline = some bundle) (whole : bindings.tables.length = tableSlots)
    (grid : Extent) (scene : Scene) :
    Dispatched heap bindings grid scene (dispatch heap bindings grid scene).1
      (invocations heap bindings grid scene) (dispatch heap bindings grid scene).2 := by
  rw [dispatch, invocations, piped]
  dsimp only
  rcases resolveTables_cases heap whole bundle.slots with
    ⟨tables, resolved, supplied⟩ | ⟨slot, error, refused, fails⟩
  · rw [resolved]
    dsimp only
    have visits := bundle.program.visits_visitFrom grid tables scene 0 grid.size
    rw [Program.sceneAfter] at visits
    rw [Program.visit]
    generalize bundle.program.visitFrom grid tables 0 grid.size scene = final at visits ⊢
    generalize bundle.program.invocationsFrom grid tables 0 grid.size scene = invoked at visits ⊢
    cases visits with
    | finished finishes =>
        rw [Nat.zero_add] at finishes ⊢
        exact Dispatched.finished piped supplied fun index => finishes index (Nat.zero_le index)
    | @stopped stop within finishes stops =>
        rw [Nat.zero_add] at finishes stops ⊢
        exact Dispatched.panicked piped supplied within
          (fun earlier => finishes earlier (Nat.zero_le earlier)) stops
  · rw [refused]
    exact Dispatched.unresolved piped fails

/-- The kernel gives up in the third of four groups: what it wrote in two of them stays, and it is
not invoked for the last one. -/
example :
    let heap : DescriptorHeap := ⟨4, 1, [(0, ⟨0, 16⟩)]⟩
    let bindings := Bindings.replay [.setPipeline Stage.givingUp, .setTable 0 ⟨0, 1⟩]
    let scene : Scene := ⟨⟨[List.replicate 16 0]⟩, []⟩
    let outcome := dispatch heap bindings ⟨4, 1, 1⟩ scene
    outcome.1.memory.storages = [[1, 0, 0, 0, 2, 0, 0, 0, 0, 0, 0, 0, 0, 0, 0, 0]] ∧
      outcome.2 = some (.panicked "panic_at" ⟨2, 0, 0⟩) ∧
        (invocations heap bindings ⟨4, 1, 1⟩ scene).length = 3 :=
  ⟨rfl, rfl, rfl⟩

/-- Failures are only added, and they have no part in what commands do. -/
theorem run_failures (heap : DescriptorHeap) (bindings : Bindings) (scene : Scene)
    (failures : List (CommandKind × Failure)) (commands : List Command) :
    run heap ⟨bindings, scene, failures⟩ commands =
      { run heap ⟨bindings, scene, []⟩ commands with
        failures := failures ++ (run heap ⟨bindings, scene, []⟩ commands).failures } := by
  induction commands generalizing bindings scene failures with
  | nil => simp
  | cons command rest inductionHypothesis =>
      cases command with
      | dispatch grid =>
          simp only [run_cons, step, List.nil_append]
          generalize dispatch heap bindings grid scene = outcome
          obtain ⟨left, failure⟩ := outcome
          dsimp only
          generalize failure.toList.map (fun reason => (CommandKind.dispatch, reason)) = new
          rw [inductionHypothesis bindings left (failures ++ new),
            inductionHypothesis bindings left new]
          simp
      | _ => exact inductionHypothesis _ _ failures

end Execution

namespace Stream

/-- What was run when a stream is about to go on behind some of its commands. -/
def reached (heap : DescriptorHeap) (ahead : List Stream) (front : List Command) (scene : Scene) :
    StreamRun :=
  let before := runAll heap ahead scene
  let own := (Execution.start before.scene).run heap front
  ⟨own.scene, before.failures ++ own.failures⟩

/-- Go on with the given bindings, and then with further streams. -/
def resumed (heap : DescriptorHeap) (bindings : Bindings) (back : List Command)
    (behind : List Stream) (scene : Scene) : StreamRun :=
  let own := Execution.run heap ⟨bindings, scene, []⟩ back
  let others := runAll heap behind own.scene
  ⟨others.scene, own.failures ++ others.failures⟩

/-- Streams run up to a dispatch, and go on from the scene that it leaves. -/
theorem runAll_around {stream : Stream} {front back : List Command} {grid : Extent}
    (shape : stream.commands = front ++ .dispatch grid :: back) (heap : DescriptorHeap)
    (ahead behind : List Stream) (scene : Scene) :
    runAll heap (ahead ++ stream :: behind) scene =
      let before := reached heap ahead front scene
      let outcome := Execution.dispatch heap (Bindings.replay front) grid before.scene
      let later := resumed heap (Bindings.replay front) back behind outcome.1
      ⟨later.scene, before.failures ++
        outcome.2.toList.map (fun reason => (CommandKind.dispatch, reason)) ++
          later.failures⟩ := by
  rw [(runsWith_replay shape).outcome]
  simp only [reached, resumed, Execution.dispatchWith]
  rw [Execution.run_failures]
  simp

end Stream

/-! ## One submission -/

theorem Stream.runAll_keeps {heap : DescriptorHeap} {streams : List Stream} {storage : Nat}
    (locals : ∀ stream ∈ streams,
      BindGroupCache.BindsOnly (fun bundle => bundle.program.Local) stream.commands)
    (unwritten : ∀ stream ∈ streams, storage ∉ Command.writtenBy heap stream.commands)
    (scene : Scene) :
    (runAll heap streams scene).scene.memory.storages[storage]? =
      scene.memory.storages[storage]? := by
  induction streams generalizing scene with
  | nil => rfl
  | cons stream rest inductionHypothesis =>
      obtain ⟨firstLocal, othersLocal⟩ := List.forall_mem_cons.mp locals
      obtain ⟨firstFree, othersFree⟩ := List.forall_mem_cons.mp unwritten
      have confined := @Stream.confined_run stream heap firstLocal
      exact (inductionHypothesis othersLocal othersFree _).trans
        (confined.keeps scene storage firstFree)

/-- Whatever turns it was given, a soft queue completes the signals in order. -/
theorem World.inTurn_of_leads {world start : World SoftQueue} (begun : start.Begins)
    (idle : start.device.queue.pending = []) (leads : Leads SoftQueue.Advances start world) :
    world.InTurn SoftQueue.pending := by
  refine leads.invariant begun ⟨0, ?_, ?_⟩ ?_
  · rw [begun.fresh.fence]
    rfl
  · rw [idle]
    rfl
  · intro before after _ inTurn effect
    have lawful := SoftQueue.forgetful.toLawful
    have fifo := SoftQueue.orderly.toFifo
    cases effect.turn with
    | quiet quiet => exact inTurn.turn lawful fifo (Turn.quiet quiet)
    | rejected refused => cases refused
    | accepted taken => exact inTurn.turn lawful fifo (Turn.accepted taken)
    | moved moved =>
        obtain ⟨heap, scene, rfl⟩ := moved
        cases pending : before.device.queue.pending with
        | nil =>
            simp only [World.clocked, SoftQueue.runNext_of_idle pending]
            exact inTurn
        | cons submission rest =>
            obtain ⟨count, counted, signals⟩ := inTurn
            have handedOut : submission.signal ≤ before.device.fence.issued := by
              have member : submission.signal ∈
                  before.device.queue.pending.map Submission.signal := by simp [pending]
              rw [signals, List.mem_range'_1] at member
              refine Nat.le_of_lt_succ ?_
              rw [counted]
              omega
            exact InTurn.turn ⟨count, counted, signals⟩ lawful fifo
              (Turn.moved (SoftQueue.Runs.next heap scene pending handedOut))

namespace Stage

/-- What the turn of a submission does, whatever faults it has. -/
structure Isolates (stage : Stage) (submission : Submission) (rest : List Submission) : Prop where
  inTurn : submission.signal = stage.world.device.fence.completed + 1
  turn : stage.advanced.world = stage.world.moved
    ⟨{ stage.world.device.queue with
        pending := rest
        executed := stage.world.device.queue.executed + 1
        faults := stage.world.device.queue.faults +
          (Stream.runAll stage.world.device.heap submission.streams stage.scene).failures.length },
      ⟨stage.world.device.fence.issued, submission.signal⟩⟩
  dispatches : ∀ ahead stream behind front grid back,
    submission.streams = ahead ++ stream :: behind →
      stream.commands = front ++ .dispatch grid :: back →
        let heap := stage.world.device.heap
        let bindings := Bindings.replay front
        let before := Stream.reached heap ahead front stage.scene
        ∃ left failure,
          Execution.Dispatched heap bindings grid before.scene left
              (Execution.invocations heap bindings grid before.scene) failure ∧
            let later := Stream.resumed heap bindings back behind left
            stage.advanced.scene = later.scene ∧
              stage.advanced.world.device.queue.faults = stage.world.device.queue.faults +
                (before.failures.length + failure.toList.length + later.failures.length)
  frame : (∀ stream ∈ submission.streams,
      BindGroupCache.BindsOnly (fun bundle => bundle.program.Local) stream.commands) →
    ∀ storage, (∀ stream ∈ submission.streams,
        storage ∉ Command.writtenBy stage.world.device.heap stream.commands) →
      stage.advanced.scene.memory.storages[storage]? = stage.scene.memory.storages[storage]?
  sizes : stage.scene.memory.Extends stage.advanced.scene.memory

variable {stage before : Stage} {submission : Submission} {rest : List Submission}

theorem ready_of_reaches (begun : before.world.Begins)
    (idle : before.world.device.queue.pending = []) (reaches : Reaches before stage) :
    Ready before.world stage := by
  induction reaches with
  | refl =>
      refine ⟨Relation.ReflTransGen.refl, ?_, ?_, ?_⟩
      · simp [begun.fresh.lists]
      · simp [begun.fresh.entries]
      · intro index buffer present
        simp [begun.get?_heap] at present
  | tail _ step inductionHypothesis => exact inductionHypothesis.step begun idle step

theorem signal_of_pending {world start : World SoftQueue} (begun : start.Begins)
    (idle : start.device.queue.pending = []) (leads : World.Leads SoftQueue.Advances start world)
    (pending : world.device.queue.pending = submission :: rest) :
    submission.signal = world.device.fence.completed + 1 ∧
      world.device.fence.complete? submission.signal =
        some ⟨world.device.fence.issued, submission.signal⟩ := by
  obtain ⟨count, counted, signals⟩ := World.inTurn_of_leads begun idle leads
  rw [pending, List.map_cons] at signals
  cases count with
  | zero => cases signals
  | succ count =>
      rw [List.range'_succ] at signals
      obtain ⟨next, _⟩ := List.cons.inj signals
      have handedOut : world.device.fence.completed + 1 ≤ world.device.fence.issued := by
        rw [counted]
        exact Nat.add_le_add_left (Nat.succ_pos count) _
      refine ⟨next, ?_⟩
      rw [next, Fence.complete?, if_pos handedOut, Nat.max_eq_right (Nat.le_succ _)]

/-- Faults of the submission whose turn it is are confined to the dispatches that have them. -/
theorem isolates_of_reaches (begun : before.world.Begins)
    (idle : before.world.device.queue.pending = []) (reaches : Reaches before stage)
    (pending : stage.world.device.queue.pending = submission :: rest) :
    stage.Isolates submission rest := by
  have ready := ready_of_reaches begun idle reaches
  obtain ⟨next, completed⟩ := signal_of_pending begun idle ready.leads pending
  have accepted : submission ∈ stage.world.entries := by
    refine World.pending_of_leads begun idle ready.leads submission ?_
    rw [pending]
    exact List.mem_cons_self
  have ran : stage.advanced =
      ⟨stage.world.moved
          ⟨{ stage.world.device.queue with
              pending := rest
              executed := stage.world.device.queue.executed + 1
              faults := stage.world.device.queue.faults +
                (Stream.runAll stage.world.device.heap submission.streams
                  stage.scene).failures.length },
            ⟨stage.world.device.fence.issued, submission.signal⟩⟩,
        (Stream.runAll stage.world.device.heap submission.streams stage.scene).scene⟩ := by
    simp only [advanced, SoftQueue.runNext, pending, completed, Option.getD_some]
  refine ⟨next, congrArg Stage.world ran, ?_, ?_, ?_⟩
  · intro ahead stream behind front grid back streams commands heap bindings found
    have chosen : stream ∈ submission.streams := by
      rw [streams]
      exact List.mem_append_right ahead List.mem_cons_self
    -- The recording is sound, so that a pipeline is bound where it dispatches.
    obtain ⟨bundle, _, piped⟩ :=
      (World.Leads.sound_stream begun ready.leads accepted chosen).pipeline commands
    refine ⟨_, _, Execution.dispatched_dispatch heap piped (Bindings.length_tables_replay front)
      grid found.scene, ?_⟩
    have around := Stream.runAll_around commands heap ahead behind stage.scene
    rw [← streams] at around
    rw [ran, around]
    refine ⟨rfl, ?_⟩
    simp only [World.moved, List.length_append, List.length_map]
    rfl
  · intro locals storage unwritten
    rw [ran]
    exact Stream.runAll_keeps locals unwritten stage.scene
  · rw [ran]
    exact (ready.runs begun accepted).2.1

/-- The turn of a dispatch over a range of which nothing was written. -/
theorem isolates_of_reaches_unwritten :
    let submission : Submission := ⟨1, [⟨⟨1⟩, .compute,
      [.setPipeline World.filling, .setTable 0 ⟨0, 1⟩, .dispatch ⟨1, 1, 1⟩,
        .setTable 0 ⟨1, 1⟩]⟩]⟩
    (World.small (SoftQueue.new SoftQueue.defaultLabel)).Begins ∧
      Reaches ⟨World.small (SoftQueue.new SoftQueue.defaultLabel), Scene.empty⟩ unwritten ∧
      unwritten.world.device.queue.pending = [submission] ∧
      unwritten.Isolates submission [] ∧
      (∀ stream ∈ submission.streams,
        BindGroupCache.BindsOnly (fun bundle => bundle.program.Local) stream.commands) ∧
      unwritten.advanced.world.device.queue.faults = 1 ∧
      unwritten.advanced.world.device.fence = ⟨1, 1⟩ ∧
      unwritten.advanced.scene = unwritten.scene := by
  refine ⟨World.begins_soft, reaches_unwritten, rfl,
    isolates_of_reaches World.begins_soft rfl reaches_unwritten rfl, ?_, rfl, rfl, rfl⟩
  intro stream chosen bundle bound
  rw [List.mem_singleton.mp chosen] at bound
  have same : bundle = World.filling := by simpa using bound
  rw [same]
  exact Catalogue.local_fill

end Stage

end CommandQueue
