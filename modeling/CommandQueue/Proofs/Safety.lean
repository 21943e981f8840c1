import CommandQueue.Proofs.Resolution
import CommandQueue.Proofs.Sizes
import CommandQueue.Proofs.Timeline

/-!
# Safety of recorded work

The queue that interprets streams checks nothing: it writes to the table slot
that a command names and copies the bytes that a command names.  That this stays
inside the slots and the bytes there are was seen to when the commands were
recorded (`Command.Sound`), and it stays so since the heap keeps its capacity
and buffers keep their sizes.  `Stream.runAll?` runs streams with the checks that
the queue leaves out.  It never fails on streams that the queue has accepted, and
only two kinds of failures are reported of them (`Fault`).

A `Stage` is a device on such a queue with the memory that its work runs on.
-/

namespace CommandQueue

/-! ## Resolving ranges -/

namespace DescriptorHeap

/-- Every buffer in the heap is held by the memory. -/
def Furnished (heap : DescriptorHeap) (memory : Memory) : Prop :=
  ∀ index buffer, heap.get? index = some buffer → memory.Holds buffer

theorem Furnished.extended {heap : DescriptorHeap} {before after : Memory}
    (furnished : heap.Furnished before) (extended : before.Extends after) :
    heap.Furnished after :=
  fun index buffer present => extended buffer (furnished index buffer present)

theorem resolveFrom_inside (heap : DescriptorHeap) {start count : Nat}
    (inside : start + count ≤ heap.capacity) :
    (∃ buffers, heap.resolveFrom start count = .ok buffers ∧
        ∀ buffer ∈ buffers, ∃ index, heap.get? index = some buffer) ∨
      ∃ index, start ≤ index ∧ index < start + count ∧ heap.get? index = none ∧
        heap.resolveFrom start count = .error (.descriptorUnwritten index) := by
  rcases heap.resolveFrom_cases start count with
    ⟨_, buffers, resolved, inOrder⟩ | ⟨index, ⟨after, before, missing, _⟩, refused⟩
  · refine Or.inl ⟨buffers, resolved, ?_⟩
    intro buffer chosen
    have present : some buffer ∈ (List.range' start count).map heap.get? := by
      rw [← inOrder]
      exact List.mem_map_of_mem chosen
    obtain ⟨index, _, found⟩ := List.mem_map.mp present
    exact ⟨index, found⟩
  · have within : index < heap.capacity := by omega
    have unwritten : heap.get? index = none := by
      by_contra written
      exact missing ⟨within, Option.isSome_iff_ne_none.mpr written⟩
    refine Or.inr ⟨index, after, before, unwritten, ?_⟩
    rw [refused, refusal, if_neg (Nat.not_le.mpr within)]

end DescriptorHeap

/-- A range inside the heap is resolved, unless one of its places was never written. -/
theorem DescriptorHeap.resolve_inside (heap : DescriptorHeap) {range : DescriptorRange}
    (word : range.end? = some (range.start + range.count))
    (inside : range.start + range.count ≤ heap.capacity) :
    (∃ buffers, heap.resolve range = .ok buffers ∧
        ∀ buffer ∈ buffers, ∃ index, heap.get? index = some buffer) ∨
      ∃ index, range.start ≤ index ∧ index < range.start + range.count ∧
        heap.get? index = none ∧ heap.resolve range = .error (.descriptorUnwritten index) := by
  have same : heap.resolve range = heap.resolveFrom range.start range.count := by
    rw [resolve, word]
  rw [same]
  exact heap.resolveFrom_inside inside

/-- Going through a list ends with a value for each element or with the first error. -/
theorem mapM_cases {α β ε : Type} (each : α → Except ε β) (list : List α) :
    (∃ values, list.mapM each = .ok values ∧
        List.Forall₂ (fun element value => each element = .ok value) list values) ∨
      ∃ front element back error, list = front ++ element :: back ∧
        (∀ other ∈ front, ∃ value, each other = .ok value) ∧
        each element = .error error ∧ list.mapM each = .error error := by
  induction list with
  | nil => exact Or.inl ⟨[], rfl, List.Forall₂.nil⟩
  | cons head rest inductionHypothesis =>
      rw [List.mapM_cons]
      cases first : each head with
      | error error => exact Or.inr ⟨[], head, rest, error, rfl, by simp, first, rfl⟩
      | ok value =>
          rcases inductionHypothesis with
            ⟨values, others, related⟩ | ⟨front, element, back, error, shape, before, failed, others⟩
          · refine Or.inl ⟨value :: values, ?_, List.Forall₂.cons first related⟩
            rw [others]
            rfl
          · refine Or.inr ⟨head :: front, element, back, error, ?_, ?_, failed, ?_⟩
            · rw [shape]
              rfl
            · exact List.forall_mem_cons.mpr ⟨⟨value, first⟩, before⟩
            · rw [others]
              rfl

/-- The tables of a kernel are resolved, unless a place of a bound range was never written. -/
theorem Execution.resolveTables_inside (heap : DescriptorHeap)
    {tables : List (Option DescriptorRange)}
    (fits : ∀ range, some range ∈ tables →
      range.end? = some (range.start + range.count) ∧
        range.start + range.count ≤ heap.capacity) :
    (∃ bound, resolveTables heap tables = .ok bound ∧
        ∀ table ∈ bound, ∀ buffer ∈ table, ∃ index, heap.get? index = some buffer) ∨
      ∃ range index, some range ∈ tables ∧
        range.start ≤ index ∧ index < range.start + range.count ∧ heap.get? index = none ∧
          resolveTables heap tables = .error (.descriptorUnwritten index) := by
  rcases mapM_cases _ tables with
    ⟨bound, resolved, related⟩ | ⟨front, table, back, error, shape, _, failed, refused⟩
  · refine Or.inl ⟨bound, resolved, ?_⟩
    intro buffers chosen
    obtain ⟨slot, present, here⟩ := List.mem_iff_getElem.mp chosen
    have named : slot < tables.length := by
      rw [related.length_eq]
      exact present
    have result := related.get named present
    have member := List.getElem_mem named
    simp only [List.get_eq_getElem, here] at result
    generalize tables[slot] = table at member result
    cases table with
    | none =>
        cases result
        simp
    | some range =>
        obtain ⟨word, inside⟩ := fits range member
        rcases heap.resolve_inside word inside with
          ⟨places, found, written⟩ | ⟨index, _, _, _, unresolved⟩
        · cases found.symm.trans result
          exact written
        · cases unresolved.symm.trans result
  · have member : table ∈ tables := by
      rw [shape]
      exact List.mem_append_right front List.mem_cons_self
    cases table with
    | none => cases failed
    | some range =>
        obtain ⟨word, inside⟩ := fits range member
        rcases heap.resolve_inside word inside with
          ⟨places, found, _⟩ | ⟨index, after, before, unwritten, unresolved⟩
        · cases found.symm.trans failed
        · cases unresolved.symm.trans failed
          exact Or.inr ⟨range, index, member, after, before, unwritten, refused⟩

/-! ## Commands that need no checks -/

namespace Command

/-- What a command names exists: buffers are held by the memory, and kernels change it only as
they may. -/
def Usable (memory : Memory) : Command → Prop
  | .setPipeline bundle => bundle.program.Tame
  | .copyRegion region => memory.Holds region.source ∧ memory.Holds region.target
  | _ => True

theorem Usable.extended {before after : Memory} {command : Command}
    (usable : command.Usable before) (extended : before.Extends after) :
    command.Usable after := by
  cases command with
  | copyRegion region => exact ⟨extended _ usable.1, extended _ usable.2⟩
  | _ => exact usable

/-- A recording that can be run without checks. -/
structure Sound (category : Category) (capacity : Nat) (commands : List Command) : Prop where
  fits : ∀ command ∈ commands, command.Fits capacity
  piped : ∀ front grid back, commands = front ++ .dispatch grid :: back →
    ∃ bundle, .setPipeline bundle ∈ front
  copies : category = .copy → ∀ command ∈ commands, command.kind = .copyRegion

theorem mem_of_lastPipeline {commands : List Command} {bundle : Bundle}
    (last : lastPipeline commands = some bundle) : .setPipeline bundle ∈ commands := by
  obtain ⟨command, member, bound⟩ := List.exists_of_findSome?_eq_some last
  cases command with
  | setPipeline other =>
      cases bound
      exact List.mem_reverse.mp member
  | _ => cases bound

theorem isSome_lastPipeline {commands : List Command} {bundle : Bundle}
    (member : .setPipeline bundle ∈ commands) : (lastPipeline commands).isSome = true := by
  rw [lastPipeline, List.findSome?_isSome_iff]
  exact ⟨.setPipeline bundle, List.mem_reverse.mpr member, rfl⟩

/-- Where a sound recording dispatches, one of its pipelines is bound. -/
theorem Sound.pipeline {category : Category} {capacity : Nat} {commands front back : List Command}
    {grid : Extent} (sound : Sound category capacity commands)
    (shape : commands = front ++ .dispatch grid :: back) :
    ∃ bundle, .setPipeline bundle ∈ commands ∧
      (Bindings.replay front).pipeline = some bundle := by
  obtain ⟨first, present⟩ := sound.piped front grid back shape
  obtain ⟨bundle, last⟩ := Option.isSome_iff_exists.mp (isSome_lastPipeline present)
  refine ⟨bundle, ?_, ?_⟩
  · rw [shape]
    exact List.mem_append_left _ (mem_of_lastPipeline last)
  · rw [Bindings.pipeline_replay, last]

end Command

/-- A range that is bound after some commands was bound by one of them. -/
theorem Bindings.mem_of_tables_replay {commands : List Command} {range : DescriptorRange}
    (bound : some range ∈ (replay commands).tables) :
    ∃ slot, Command.setTable slot range ∈ commands := by
  induction commands using List.reverseRecOn with
  | nil => exact absurd (List.eq_of_mem_replicate bound) nofun
  | append_singleton commands command inductionHypothesis =>
      have sooner : some range ∈ (replay commands).tables →
          ∃ slot, Command.setTable slot range ∈ commands ++ [command] := by
        intro earlier
        obtain ⟨slot, member⟩ := inductionHypothesis earlier
        exact ⟨slot, List.mem_append_left _ member⟩
      rw [replay_append_singleton] at bound
      cases command with
      | setTable slot other =>
          rcases List.mem_or_eq_of_mem_set bound with earlier | new
          · exact sooner earlier
          · cases new
            exact ⟨slot, List.mem_append_right _ (List.mem_singleton_self _)⟩
      | _ => exact sooner bound

/-! ## Running with checks -/

namespace Execution

/-- The command stays inside the table slots and the bytes that there are. -/
def Within (execution : Execution) : Command → Prop
  | .setTable slot _ => slot < execution.bindings.tables.length
  | .copyRegion region =>
      region.sourceOffset + region.size ≤ (execution.scene.memory.bytes region.source).length ∧
        region.targetOffset + region.size ≤
          (execution.scene.memory.bytes region.target).length
  | _ => True

instance (execution : Execution) (command : Command) : Decidable (execution.Within command) := by
  cases command <;> unfold Within <;> infer_instance

/-- Run one command, unless it would reach outside. -/
def step? (heap : DescriptorHeap) (execution : Execution) (command : Command) :
    Option Execution :=
  if execution.Within command then some (execution.step heap command) else none

/-- Run commands in order, unless one of them would reach outside. -/
def run? (heap : DescriptorHeap) (execution : Execution) : List Command → Option Execution
  | [] => some execution
  | command :: rest =>
      (execution.step? heap command).bind fun next => next.run? heap rest

end Execution

/-- Run streams in order, unless one of their commands would reach outside. -/
def Stream.runAll? (heap : DescriptorHeap) : List Stream → Scene → Option StreamRun
  | [], scene => some ⟨scene, []⟩
  | stream :: rest, scene =>
      ((Execution.start scene).run? heap stream.commands).bind fun first =>
        (runAll? heap rest first.scene).map fun others =>
          ⟨others.scene, first.failures ++ others.failures⟩

/-- The failures that a queue can report of commands: a place of a bound range that was never
written, and a kernel that gave up. -/
inductive Fault (heap : DescriptorHeap) (commands : List Command) : CommandKind × Failure → Prop
  | unwritten {slot index : Nat} {range : DescriptorRange}
      (bound : .setTable slot range ∈ commands) (after : range.start ≤ index)
      (before : index < range.start + range.count) (unwritten : heap.get? index = none) :
      Fault heap commands (.dispatch, .unresolved (.descriptorUnwritten index))
  | panicked {bundle : Bundle} (group : Extent) (bound : .setPipeline bundle ∈ commands) :
      Fault heap commands (.dispatch, .panicked bundle.kernel group)

namespace Execution

/-- An execution that has come through the first commands of a stream. -/
structure Through (heap : DescriptorHeap) (commands front : List Command)
    (execution : Execution) : Prop where
  bindings : execution.bindings = Bindings.replay front
  usable : ∀ command ∈ commands, command.Usable execution.scene.memory
  furnished : heap.Furnished execution.scene.memory
  failures : ∀ failure ∈ execution.failures, Fault heap commands failure

variable {heap : DescriptorHeap} {category : Category} {commands front back : List Command}
  {execution : Execution}

theorem Through.start {scene : Scene}
    (usable : ∀ command ∈ commands, command.Usable scene.memory)
    (furnished : heap.Furnished scene.memory) : Through heap commands [] (start scene) :=
  ⟨rfl, usable, furnished, by simp [Execution.start]⟩

/-- A dispatch leaves all sizes as they are and fails in no unforeseen way. -/
theorem Through.dispatch {grid : Extent}
    (sound : Command.Sound category heap.capacity commands)
    (shape : commands = front ++ .dispatch grid :: back)
    (through : Through heap commands front execution) :
    execution.scene.memory.Extends
        (dispatch heap execution.bindings grid execution.scene).1.memory ∧
      ∀ reason ∈ (dispatch heap execution.bindings grid execution.scene).2,
        Fault heap commands (.dispatch, reason) := by
  have earlier : ∀ command ∈ front, command ∈ commands := by
    intro command member
    rw [shape]
    exact List.mem_append_left _ member
  obtain ⟨bundle, bound, last⟩ := sound.pipeline shape
  have piped : execution.bindings.pipeline = some bundle := by
    rw [through.bindings, last]
  have tables : ∀ range, some range ∈ execution.bindings.tables.take bundle.slots →
      ∃ slot, .setTable slot range ∈ commands := by
    intro range taken
    have member := List.mem_of_mem_take taken
    rw [through.bindings] at member
    obtain ⟨slot, recorded⟩ := Bindings.mem_of_tables_replay member
    exact ⟨slot, earlier _ recorded⟩
  have inside : ∀ range, some range ∈ execution.bindings.tables.take bundle.slots →
      range.end? = some (range.start + range.count) ∧
        range.start + range.count ≤ heap.capacity := by
    intro range taken
    obtain ⟨slot, recorded⟩ := tables range taken
    exact (sound.fits _ recorded).2
  -- A pipeline is bound, and no range reaches beyond the heap: what is left are unwritten places.
  unfold Execution.dispatch
  rw [piped]
  dsimp only
  rcases resolveTables_inside heap inside with
    ⟨buffers, resolved, written⟩ | ⟨range, index, taken, after, before, unwritten, refused⟩
  · rw [resolved]
    dsimp only
    refine ⟨?_, ?_⟩
    · refine Program.Tame.visitFrom (through.usable _ bound) grid 0 grid.size ?_
      intro table member buffer chosen
      obtain ⟨index, place⟩ := written table member buffer chosen
      exact through.furnished index buffer place
    · intro reason given
      obtain ⟨group, _, rfl⟩ := Option.map_eq_some_iff.mp given
      exact Fault.panicked group bound
  · rw [refused]
    refine ⟨Memory.Extends.refl _, ?_⟩
    intro reason given
    obtain ⟨slot, recorded⟩ := tables range taken
    cases given
    exact Fault.unwritten recorded after before unwritten

/-- The next command of a sound stream stays inside, and the execution has come through it. -/
theorem Through.step {command : Command}
    (sound : Command.Sound category heap.capacity commands)
    (shape : commands = front ++ command :: back)
    (through : Through heap commands front execution) :
    execution.step? heap command = some (execution.step heap command) ∧
      execution.scene.memory.Extends (execution.step heap command).scene.memory ∧
        Through heap commands (front ++ [command]) (execution.step heap command) := by
  have member : command ∈ commands := by
    rw [shape]
    exact List.mem_append_right _ List.mem_cons_self
  have bindings : (execution.step heap command).bindings =
      Bindings.replay (front ++ [command]) := by
    rw [bindings_step, through.bindings, Bindings.replay_append_singleton]
  have fits := sound.fits command member
  cases command with
  | setPipeline bundle =>
      exact ⟨if_pos trivial, Memory.Extends.refl _, bindings, through.usable, through.furnished,
        through.failures⟩
  | setTable slot range =>
      have within : execution.Within (.setTable slot range) := by
        change slot < execution.bindings.tables.length
        rw [through.bindings, Bindings.length_tables_replay]
        exact fits.1
      exact ⟨if_pos within, Memory.Extends.refl _, bindings, through.usable, through.furnished,
        through.failures⟩
  | copyRegion region =>
      obtain ⟨source, target⟩ := through.usable _ member
      have within : execution.Within (.copyRegion region) := by
        change _ ≤ (execution.scene.memory.bytes region.source).length ∧
          _ ≤ (execution.scene.memory.bytes region.target).length
        rw [Memory.length_bytes_of_holds source, Memory.length_bytes_of_holds target]
        exact fits
      have extended : execution.scene.memory.Extends (execution.scene.memory.copy region) :=
        Memory.extends_copy target fits
      exact ⟨if_pos within, extended, bindings,
        fun other chosen => (through.usable other chosen).extended extended,
        through.furnished.extended extended, through.failures⟩
  | dispatch grid =>
      obtain ⟨extended, faults⟩ := through.dispatch sound shape
      refine ⟨if_pos trivial, extended, bindings,
        fun other chosen => (through.usable other chosen).extended extended,
        through.furnished.extended extended, ?_⟩
      intro failure reported
      rcases List.mem_append.mp reported with earlier | new
      · exact through.failures failure earlier
      · obtain ⟨reason, given, rfl⟩ := List.mem_map.mp new
        exact faults reason (Option.mem_toList.mp given)

/-- The rest of a sound stream stays inside. -/
theorem Through.run {rest : List Command}
    (sound : Command.Sound category heap.capacity commands)
    (shape : commands = front ++ rest) (through : Through heap commands front execution) :
    execution.run? heap rest = some (execution.run heap rest) ∧
      execution.scene.memory.Extends (execution.run heap rest).scene.memory ∧
        Through heap commands commands (execution.run heap rest) := by
  induction rest generalizing front execution with
  | nil =>
      rw [List.append_nil] at shape
      subst shape
      exact ⟨rfl, Memory.Extends.refl _, through⟩
  | cons command rest inductionHypothesis =>
      obtain ⟨stepped, extended, next⟩ := through.step sound shape
      have remaining : commands = (front ++ [command]) ++ rest := by
        rw [shape, List.append_assoc]
        rfl
      obtain ⟨others, further, finished⟩ := inductionHypothesis remaining next
      refine ⟨?_, extended.trans further, finished⟩
      rw [run?, stepped, Option.bind_some, others, run_cons]

end Execution

/-- Sound streams run without reaching outside, and fail in no unforeseen way. -/
theorem Stream.runAll_sound {heap : DescriptorHeap} {streams : List Stream} {scene : Scene}
    (sound : ∀ stream ∈ streams, Command.Sound stream.category heap.capacity stream.commands)
    (usable : ∀ stream ∈ streams, ∀ command ∈ stream.commands, command.Usable scene.memory)
    (furnished : heap.Furnished scene.memory) :
    runAll? heap streams scene = some (runAll heap streams scene) ∧
      scene.memory.Extends (runAll heap streams scene).scene.memory ∧
        ∀ failure ∈ (runAll heap streams scene).failures,
          ∃ stream ∈ streams, Fault heap stream.commands failure := by
  induction streams generalizing scene with
  | nil => exact ⟨rfl, Memory.Extends.refl _, by simp [runAll]⟩
  | cons stream rest inductionHypothesis =>
      obtain ⟨firstSound, restSound⟩ := List.forall_mem_cons.mp sound
      obtain ⟨firstUsable, restUsable⟩ := List.forall_mem_cons.mp usable
      obtain ⟨checked, extended, finished⟩ :=
        (Execution.Through.start firstUsable furnished).run firstSound (List.nil_append _).symm
      obtain ⟨others, further, faults⟩ := inductionHypothesis restSound
        (fun each member command chosen =>
          (restUsable each member command chosen).extended extended)
        (furnished.extended extended)
      refine ⟨?_, extended.trans further, ?_⟩
      · rw [runAll?, checked, Option.bind_some, others]
        rfl
      · intro failure reported
        rcases List.mem_append.mp reported with first | later
        · exact ⟨stream, List.mem_cons_self, finished.failures failure first⟩
        · obtain ⟨each, member, fault⟩ := faults failure later
          exact ⟨each, List.mem_cons_of_mem stream member, fault⟩

/-! ## Recordings are sound -/

namespace CommandList

theorem bound_of_record_dispatch {list next : CommandList} {grid : Extent}
    (accepted : list.record (.dispatch grid) = .ok next) :
    list.bindings.pipeline.isSome = true := by
  have passed := (record_eq_ok_iff.mp accepted).2.2.1
  simp only [ensureArguments] at passed
  by_contra unbound
  rw [if_neg unbound] at passed
  cases passed

end CommandList

namespace World

variable {σ : Type}

section Queued

variable [Queue σ] {moves : Clocked σ → Clocked σ → Prop} {world after start : World σ}

theorem Begins.get?_heap (begun : start.Begins) (index : Nat) :
    start.device.heap.get? index = none := by
  cases begun with
  | @new key queue config device created unheld =>
      unfold Device.create at created
      dsimp only at created
      split at created
      · cases created
      · split at created
        · cases created
        · cases created
          rfl

/-- Whatever calls were made on a list, its recording is sound. -/
theorem Leads.sound_recorded (begun : start.Begins) (leads : Leads moves start world)
    {list : CommandList} (member : list ∈ world.lists) :
    Command.Sound list.category start.device.heap.capacity list.recorded := by
  have admitted := Leads.forall_lists (CommandList.lasting_admitted _ _) begun leads list member
  refine ⟨admitted.fits, ?_, admitted.copies⟩
  intro front grid back shape
  obtain ⟨moment, held, call, accepts, _, rfl, sameCommand⟩ :=
    Leads.moment_of_command begun leads member shape
  -- When the dispatch was recorded, the list had a pipeline, and so a command that bound it.
  have bound : held.bindings.pipeline.isSome = true := by
    cases call with
    | dispatch _ => exact CommandList.bound_of_record_dispatch accepts.accepted
    | _ => cases sameCommand
  obtain ⟨bundle, last⟩ := Option.isSome_iff_exists.mp bound
  rw [(latest_of_leads begun accepts.reached held accepts.member).1] at last
  exact ⟨bundle, Command.mem_of_lastPipeline last⟩

theorem Leads.sound_stream (begun : start.Begins) (leads : Leads moves start world)
    {entry : Submission} (accepted : entry ∈ world.entries) {stream : Stream}
    (chosen : stream ∈ entry.streams) :
    Command.Sound stream.category start.device.heap.capacity stream.commands := by
  obtain ⟨moment, list, reached, _, member, rfl⟩ :=
    Leads.moment_of_stream begun leads accepted chosen
  exact Leads.sound_recorded begun reached member

theorem Step.mono {others : Clocked σ → Clocked σ → Prop}
    (included : ∀ {before after}, moves before after → others before after)
    (step : Step moves world after) : Step others world after := by
  cases step with
  | opens category => exact Step.opens world category
  | records member call => exact Step.records member call
  | closes member => exact Step.closes member
  | executes offers => exact Step.executes offers
  | executesOpen member => exact Step.executesOpen member
  | drops member => exact Step.drops member
  | prepares library capacity => exact Step.prepares library capacity
  | reserves category memory => exact Step.reserves world category memory
  | moves moved => exact Step.moves (included moved)

end Queued

end World

/-! ## Work and its memory -/

/-- The move of a soft queue that runs its oldest submission. -/
def SoftQueue.Advances (before after : Clocked SoftQueue) : Prop :=
  ∃ heap scene,
    after = ⟨(before.queue.runNext before.fence heap scene).queue,
      (before.queue.runNext before.fence heap scene).fence⟩

/-- The submissions that a soft queue has not run yet are the last ones that it took. -/
theorem SoftQueue.pending_of_serves {start now : Clocked SoftQueue} {served : List Submission}
    (idle : start.queue.pending = []) (serves : Queue.Serves Advances start served now) :
    now.queue.pending <:+ served := by
  induction serves with
  | start => simp [idle]
  | @took served now earlier heap submission signal taken inductionHypothesis =>
      obtain ⟨ran, shape⟩ := inductionHypothesis
      refine ⟨ran, ?_⟩
      change ran ++ (now.queue.pending ++ [submission]) = served ++ [submission]
      rw [← List.append_assoc, shape]
  | refused earlier signal rejected => cases rejected
  | @moved served now after earlier step inductionHypothesis =>
      obtain ⟨heap, scene, rfl⟩ := step
      rw [pending_runNext]
      exact (List.tail_suffix _).trans inductionHypothesis

theorem World.pending_of_leads {world start : World SoftQueue} (begun : start.Begins)
    (idle : start.device.queue.pending = []) (leads : Leads SoftQueue.Advances start world) :
    ∀ submission ∈ world.device.queue.pending, submission ∈ world.entries :=
  (SoftQueue.pending_of_serves idle (Leads.serves begun leads)).subset

/-- A device on a soft queue with the memory that its work runs on. -/
structure Stage where
  world : World SoftQueue
  scene : Scene

namespace Stage

/-- The stage after the queue has run its oldest submission. -/
def advanced (stage : Stage) : Stage :=
  let device := stage.world.device
  let ran := device.queue.runNext device.fence device.heap stage.scene
  ⟨stage.world.moved ⟨ran.queue, ran.fence⟩, ran.scene⟩

/-- One step: a call on a list with things that exist, any other step of the device, the next
submission's turn, or anything else that leaves the sizes of buffers as they are. -/
inductive Step : Stage → Stage → Prop
  | records {stage : Stage} {list : CommandList} (member : list ∈ stage.world.lists)
      {call : Call} (usable : call.command.Usable stage.scene.memory) :
      Step stage { stage with world := stage.world.record list call }
  | acts {stage : Stage} {after : World SoftQueue}
      (step : World.Step (fun _ _ => False) stage.world after)
      (unrecorded : ∀ list command,
        after.journal ≠ stage.world.journal ++ [.recorded list command])
      (furnished : after.device.heap.Furnished stage.scene.memory) :
      Step stage { stage with world := after }
  | advances (stage : Stage) : Step stage stage.advanced
  | changes {stage : Stage} {scene : Scene}
      (kept : stage.scene.memory.Extends scene.memory) :
      Step stage { stage with scene := scene }

/-- One stage leads to another by steps. -/
abbrev Reaches : Stage → Stage → Prop := Relation.ReflTransGen Step

/-- A stage on which all that was recorded names things that exist. -/
structure Ready (start : World SoftQueue) (stage : Stage) : Prop where
  leads : World.Leads SoftQueue.Advances start stage.world
  lists : ∀ list ∈ stage.world.lists, ∀ command ∈ list.recorded,
    command.Usable stage.scene.memory
  streams : ∀ entry ∈ stage.world.entries, ∀ stream ∈ entry.streams,
    ∀ command ∈ stream.commands, command.Usable stage.scene.memory
  furnished : stage.world.device.heap.Furnished stage.scene.memory

variable {start : World SoftQueue} {stage : Stage}

theorem Ready.extended (ready : Ready start stage) {scene : Scene}
    (extended : stage.scene.memory.Extends scene.memory) :
    Ready start { stage with scene := scene } :=
  ⟨ready.leads,
    fun list member command chosen => (ready.lists list member command chosen).extended extended,
    fun entry accepted stream member command chosen =>
      (ready.streams entry accepted stream member command chosen).extended extended,
    ready.furnished.extended extended⟩

/-- Accepted streams run on the stage without reaching outside. -/
theorem Ready.runs (begun : start.Begins) (ready : Ready start stage) {entry : Submission}
    (accepted : entry ∈ stage.world.entries) :
    Stream.runAll? stage.world.device.heap entry.streams stage.scene =
        some (Stream.runAll stage.world.device.heap entry.streams stage.scene) ∧
      stage.scene.memory.Extends
          (Stream.runAll stage.world.device.heap entry.streams stage.scene).scene.memory ∧
        ∀ failure ∈ (Stream.runAll stage.world.device.heap entry.streams stage.scene).failures,
          ∃ stream ∈ entry.streams,
            Fault stage.world.device.heap stream.commands failure := by
  have capacity := (World.Leads.fixed begun ready.leads).2
  refine Stream.runAll_sound ?_ (ready.streams entry accepted) ready.furnished
  intro stream chosen
  rw [capacity]
  exact World.Leads.sound_stream begun ready.leads accepted chosen

theorem Ready.record (begun : start.Begins) (ready : Ready start stage) {list : CommandList}
    (member : list ∈ stage.world.lists) {call : Call}
    (usable : call.command.Usable stage.scene.memory) :
    Ready start { stage with world := stage.world.record list call } := by
  have leads := ready.leads.tail (World.Step.records member call)
  cases result : list.record call with
  | error error =>
      have same : stage.world.record list call = stage.world := by
        simp only [World.record, result]
      rw [same]
      exact ready
  | ok next =>
      have appended := CommandList.eq_append_of_record result
      subst appended
      have shape := (World.Leads.registered begun ready.leads).record_of_accepted member result
      rw [shape] at leads ⊢
      refine ⟨leads, ?_, ready.streams, ready.furnished⟩
      refine World.forall_amend ready.lists ?_
      intro each present _ command chosen
      rcases List.mem_append.mp chosen with earlier | new
      · exact ready.lists each present command earlier
      · rw [List.mem_singleton.mp new]
        exact usable

theorem Ready.act (begun : start.Begins) (ready : Ready start stage)
    {after : World SoftQueue} (step : World.Step (fun _ _ => False) stage.world after)
    (unrecorded : ∀ list command,
      after.journal ≠ stage.world.journal ++ [.recorded list command])
    (furnished : after.device.heap.Furnished stage.scene.memory) :
    Ready start { stage with world := after } := by
  have registered := World.Leads.registered begun ready.leads
  have effect := step.effect registered
  refine ⟨ready.leads.tail (step.mono fun moved => moved.elim), ?_, ?_, furnished⟩
  · rcases effect.recorded_or_kept registered with ⟨list, member, call, accepted, rfl⟩ | kept
    · refine absurd ?_ (unrecorded list.id call.command)
      rw [registered.record_of_accepted member accepted]
    · intro list member command chosen
      rcases kept list member with empty | ⟨earlier, present, _, same⟩
      · simp [empty] at chosen
      · rw [← same] at chosen
        exact ready.lists earlier present command chosen
  · intro entry accepted stream member
    rcases effect.stream_recorded_or_kept (World.Leads.booked begun ready.leads) accepted member
      with known | ⟨list, present, rfl⟩
    · exact ready.streams entry known stream member
    · exact ready.lists list present

theorem Ready.advance (begun : start.Begins) (idle : start.device.queue.pending = [])
    (ready : Ready start stage) : Ready start stage.advanced := by
  have extended : stage.scene.memory.Extends stage.advanced.scene.memory := by
    unfold advanced
    cases pending : stage.world.device.queue.pending with
    | nil =>
        simp only [SoftQueue.runNext, pending]
        exact Memory.Extends.refl _
    | cons submission rest =>
        have accepted : submission ∈ stage.world.entries := by
          refine World.pending_of_leads begun idle ready.leads submission ?_
          rw [pending]
          exact List.mem_cons_self
        simp only [SoftQueue.runNext, pending]
        exact (ready.runs begun accepted).2.1
  have moved := ready.extended extended
  exact ⟨moved.leads.tail (World.Step.moves ⟨_, _, rfl⟩), moved.lists, moved.streams,
    moved.furnished⟩

theorem Ready.step (begun : start.Begins) (idle : start.device.queue.pending = [])
    (ready : Ready start stage) {after : Stage} (step : Step stage after) :
    Ready start after := by
  cases step with
  | records member usable => exact ready.record begun member usable
  | acts step unrecorded furnished => exact ready.act begun step unrecorded furnished
  | advances => exact ready.advance begun idle
  | changes kept => exact ready.extended kept

/-- What was recorded is sound, and what was accepted of it runs at any time without reaching
outside and fails in no unforeseen way. -/
structure Safe (stage : Stage) : Prop where
  recorded : ∀ list ∈ stage.world.lists,
    Command.Sound list.category stage.world.device.heap.capacity list.recorded
  accepted : ∀ entry ∈ stage.world.entries, ∀ stream ∈ entry.streams,
    Command.Sound stream.category stage.world.device.heap.capacity stream.commands
  waiting : ∀ submission ∈ stage.world.device.queue.pending,
    submission ∈ stage.world.entries
  inside : ∀ entry ∈ stage.world.entries,
    Stream.runAll? stage.world.device.heap entry.streams stage.scene =
      some (Stream.runAll stage.world.device.heap entry.streams stage.scene)
  faults : ∀ entry ∈ stage.world.entries,
    ∀ failure ∈ (Stream.runAll stage.world.device.heap entry.streams stage.scene).failures,
      ∃ stream ∈ entry.streams, Fault stage.world.device.heap stream.commands failure

/-- Whatever happens on a stage, recorded work stays safe to run. -/
theorem safe_of_reaches {before : Stage} (begun : before.world.Begins)
    (idle : before.world.device.queue.pending = []) (reaches : Reaches before stage) :
    stage.Safe := by
  have ready : Ready before.world stage := by
    induction reaches with
    | refl =>
        refine ⟨Relation.ReflTransGen.refl, ?_, ?_, ?_⟩
        · simp [begun.fresh.lists]
        · simp [begun.fresh.entries]
        · intro index buffer present
          simp [begun.get?_heap] at present
    | tail _ step inductionHypothesis => exact inductionHypothesis.step begun idle step
  have capacity := (World.Leads.fixed begun ready.leads).2
  refine ⟨?_, ?_, World.pending_of_leads begun idle ready.leads, ?_, ?_⟩
  · intro list member
    rw [capacity]
    exact World.Leads.sound_recorded begun ready.leads member
  · intro entry accepted stream chosen
    rw [capacity]
    exact World.Leads.sound_stream begun ready.leads accepted chosen
  · exact fun entry accepted => (ready.runs begun accepted).1
  · exact fun entry accepted => (ready.runs begun accepted).2.2

def oneBuffer : Scene := ⟨(Memory.empty.allocate (List.replicate 16 0)).1, []⟩

/-- A dispatch over a range of which nothing was written waits for its turn. -/
def unwritten : Stage := ⟨World.rebound (SoftQueue.new SoftQueue.defaultLabel), oneBuffer⟩

/-- A step that leaves the scene as it is. -/
def StepAt (scene : Scene) (before after : World SoftQueue) : Prop :=
  Step ⟨before, scene⟩ ⟨after, scene⟩

theorem reaches_of_worlds {scene : Scene} {before after : World SoftQueue}
    (steps : Relation.ReflTransGen (StepAt scene) before after) :
    Reaches ⟨before, scene⟩ ⟨after, scene⟩ := by
  induction steps with
  | refl => exact Relation.ReflTransGen.refl
  | tail _ step inductionHypothesis => exact inductionHypothesis.tail step

theorem reaches_unwritten :
    Reaches ⟨World.small (SoftQueue.new SoftQueue.defaultLabel), Scene.empty⟩ unwritten := by
  let small := World.small (SoftQueue.new SoftQueue.defaultLabel)
  let opened := small.openList .compute
  let recorded := opened.recordAll World.firstCompute World.rebinding
  have allocating : Step ⟨small, Scene.empty⟩ ⟨small, oneBuffer⟩ :=
    Step.changes (Memory.extends_allocate _ _)
  have opening : Step ⟨small, oneBuffer⟩ ⟨opened, oneBuffer⟩ := by
    refine Step.acts (World.Step.opens _ .compute) ?_ fun _ _ present => ?_
    · intro list command same
      cases same
    · cases present
  have usable : ∀ call ∈ World.rebinding, call.command.Usable oneBuffer.memory := by
    have tame : Catalogue.fill.Tame := @Catalogue.tame_of_find? "fill" none _ rfl
    simp [World.rebinding, World.filling, Call.command, Command.Usable, tame]
  have only : opened.lists = [World.firstCompute] := rfl
  have accepted : World.rebinding.foldlM CommandList.record World.firstCompute =
      .ok World.reboundList := rfl
  have calling : ∀ world list call, list ∈ world.lists → call ∈ World.rebinding →
      StepAt oneBuffer world (world.record list call) :=
    fun _ _ call member chosen => Step.records member (usable call chosen)
  obtain ⟨recording, lists⟩ := World.recordAll_of_only only accepted calling
  have offers : recorded.Offers [World.reboundList] := by
    apply World.offers_singleton
    rw [lists]
    exact List.mem_singleton_self _
  have executing : Step ⟨recorded, oneBuffer⟩ unwritten := by
    refine Step.acts (World.Step.executes offers) ?_ fun _ _ present => ?_
    · intro list command same
      cases same
    · cases present
  exact (Relation.ReflTransGen.head allocating
    (Relation.ReflTransGen.head opening (reaches_of_worlds recording))).tail executing

/-- The only fault of the dispatch is the place that was not written. -/
theorem safe_of_reaches_unwritten :
    (World.small (SoftQueue.new SoftQueue.defaultLabel)).Begins ∧
      Reaches ⟨World.small (SoftQueue.new SoftQueue.defaultLabel), Scene.empty⟩ unwritten ∧
      unwritten.Safe ∧
      unwritten.world.entries.flatMap
          (fun entry => (Stream.runAll unwritten.world.device.heap entry.streams
            unwritten.scene).failures) =
        [(.dispatch, .unresolved (.descriptorUnwritten 0))] :=
  ⟨World.begins_soft, reaches_unwritten,
    safe_of_reaches World.begins_soft rfl reaches_unwritten, rfl⟩

end Stage

end CommandQueue
