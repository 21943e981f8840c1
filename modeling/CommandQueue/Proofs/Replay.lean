import CommandQueue.Kernel.Catalogue
import CommandQueue.Proofs.Recordings
import Mathlib.Data.List.Induction

/-!
# Bindings shown and bindings used

A list shows what is bound while it records, and a queue binds again while it
goes through the stream.  Both are what the commands so far lead to when they
are replayed from nothing (`Bindings.replay`): of each kind of binding the last
command counts.  So a dispatch runs with what its list showed when the dispatch
was recorded, whatever came before the stream and whatever comes after the
dispatch.
-/

namespace CommandQueue

namespace Command

def bundle? : Command → Option Bundle
  | .setPipeline bundle => some bundle
  | _ => none

def range? (slot : Nat) : Command → Option DescriptorRange
  | .setTable bound range => if bound = slot then some range else none
  | _ => none

def lastPipeline (commands : List Command) : Option Bundle :=
  commands.reverse.findSome? bundle?

def lastTable (slot : Nat) (commands : List Command) : Option DescriptorRange :=
  commands.reverse.findSome? (range? slot)

theorem lastPipeline_append_singleton (commands : List Command) (command : Command) :
    lastPipeline (commands ++ [command]) = command.bundle?.or (lastPipeline commands) := by
  rw [lastPipeline, List.reverse_append, List.reverse_singleton, List.singleton_append,
    List.findSome?_cons]
  cases command.bundle? <;> rfl

theorem lastTable_append_singleton (slot : Nat) (commands : List Command) (command : Command) :
    lastTable slot (commands ++ [command]) = (command.range? slot).or (lastTable slot commands) := by
  rw [lastTable, List.reverse_append, List.reverse_singleton, List.singleton_append,
    List.findSome?_cons]
  cases command.range? slot <;> rfl

end Command

namespace Bindings

/-- What is bound after commands that began with nothing bound. -/
def replay (commands : List Command) : Bindings := commands.foldl apply none

@[simp]
theorem replay_append_singleton (commands : List Command) (command : Command) :
    replay (commands ++ [command]) = (replay commands).apply command := by
  simp [replay, List.foldl_append]

theorem length_tables_replay (commands : List Command) :
    (replay commands).tables.length = tableSlots := by
  induction commands using List.reverseRecOn with
  | nil => rfl
  | append_singleton commands command inductionHypothesis =>
      rw [replay_append_singleton, length_tables_apply, inductionHypothesis]

theorem pipeline_replay (commands : List Command) :
    (replay commands).pipeline = Command.lastPipeline commands := by
  induction commands using List.reverseRecOn with
  | nil => rfl
  | append_singleton commands command inductionHypothesis =>
      rw [replay_append_singleton, Command.lastPipeline_append_singleton]
      cases command with
      | setPipeline bundle => rfl
      | _ => exact inductionHypothesis

theorem table_replay {slot : Nat} (present : slot < tableSlots) (commands : List Command) :
    (replay commands).table slot = Command.lastTable slot commands := by
  induction commands using List.reverseRecOn with
  | nil => simp [replay, none, table, Command.lastTable, present]
  | append_singleton commands command inductionHypothesis =>
      rw [replay_append_singleton, Command.lastTable_append_singleton]
      cases command with
      | setTable bound range =>
          have inside : slot < (replay commands).tables.length := by
            rw [length_tables_replay]
            exact present
          by_cases same : bound = slot
          · simp [table, Command.range?, same, inside]
          · simp [table, Command.range?, same, ← inductionHypothesis]
      | _ => exact inductionHypothesis

theorem table_replay_of_le {slot : Nat} (beyond : tableSlots ≤ slot) (commands : List Command) :
    (replay commands).table slot = .none := by
  have outside : (replay commands).tables.length ≤ slot := by
    rw [length_tables_replay]
    exact beyond
  rw [table, List.getElem?_eq_none outside]
  rfl

end Bindings

/-- What commands yield in order, each with the bindings that it finds. -/
def Command.along {α : Type} (each : Bindings → Command → List α) (bindings : Bindings) :
    List Command → List α
  | [] => []
  | command :: rest => each bindings command ++ along each (bindings.apply command) rest

namespace CommandList

/-- What the list answers when it is asked for its pipeline and for each of its table slots. -/
def shown (list : CommandList) : Bindings :=
  ⟨list.bindings.pipeline, (List.range tableSlots).map list.bindings.table⟩

/-- The bindings of a list are those to which its recording leads. -/
theorem lasting_replay (device capacity : Nat) :
    Lasting device capacity fun list => list.bindings = Bindings.replay list.recorded where
  opened id category allocator cleared := by
    have empty : allocator.recorded = [] := by
      rw [← cleared]
      rfl
    change Bindings.none = Bindings.replay allocator.recorded
    rw [empty]
    rfl
  appended _ replayed := by
    rw [bindings_append, replayed, recorded_append, Bindings.replay_append_singleton]
  closed _ replayed := replayed
  frozen _ replayed := replayed
  submitted _ _ replayed := replayed

theorem shown_of_replay {list : CommandList}
    (replayed : list.bindings = Bindings.replay list.recorded) :
    list.shown = Bindings.replay list.recorded := by
  have slots : list.bindings.tables.length = tableSlots := by
    rw [replayed, Bindings.length_tables_replay]
  have tables : (List.range tableSlots).map list.bindings.table = list.bindings.tables := by
    rw [← slots]
    apply List.ext_getElem
    · simp
    · intro slot _ inside
      simp [Bindings.table, inside]
  rw [shown, tables, ← replayed]

end CommandList

/-! ## Going through a stream -/

namespace Execution

theorem bindings_run (heap : DescriptorHeap) (execution : Execution) (commands : List Command) :
    (execution.run heap commands).bindings = commands.foldl Bindings.apply execution.bindings := by
  induction commands generalizing execution with
  | nil => rfl
  | cons command rest inductionHypothesis =>
      rw [run_cons, inductionHypothesis, bindings_step, List.foldl_cons]

/-- A dispatch with the given bindings, whatever is bound. -/
def dispatchWith (execution : Execution) (heap : DescriptorHeap) (bindings : Bindings)
    (grid : Extent) : Execution :=
  let outcome := dispatch heap bindings grid execution.scene
  { bindings := bindings
    scene := outcome.1
    failures := execution.failures ++
      outcome.2.toList.map fun reason => (CommandKind.dispatch, reason) }

/-- A stream reaches a dispatch with the commands before it replayed. -/
theorem step_dispatch_of_run (heap : DescriptorHeap) (scene : Scene) (front : List Command)
    (grid : Extent) :
    ((start scene).run heap front).step heap (.dispatch grid) =
      ((start scene).run heap front).dispatchWith heap (Bindings.replay front) grid := by
  have reached : ((start scene).run heap front).bindings = Bindings.replay front :=
    bindings_run heap (start scene) front
  rw [dispatchWith, ← reached]
  rfl

end Execution

namespace Stream

theorem runAll_append (heap : DescriptorHeap) (first second : List Stream) (scene : Scene) :
    runAll heap (first ++ second) scene =
      let ahead := runAll heap first scene
      let others := runAll heap second ahead.scene
      ⟨others.scene, ahead.failures ++ others.failures⟩ := by
  induction first generalizing scene with
  | nil => rfl
  | cons stream rest inductionHypothesis =>
      simp only [List.cons_append, runAll, inductionHypothesis, List.append_assoc]

/-- The dispatch after the first commands of the stream runs with the given bindings: an execution
that comes to it has reached them, and runs it with them however the stream is placed among
others. -/
structure RunsWith (stream : Stream) (front : List Command) (grid : Extent) (back : List Command)
    (bindings : Bindings) : Prop where
  reached : ∀ heap scene, ((Execution.start scene).run heap front).bindings = bindings
  outcome : ∀ (heap : DescriptorHeap) (ahead behind : List Stream) (scene : Scene),
    let before := runAll heap ahead scene
    let reached := (Execution.start before.scene).run heap front
    let finished := (reached.dispatchWith heap bindings grid).run heap back
    let others := runAll heap behind finished.scene
    runAll heap (ahead ++ stream :: behind) scene =
      ⟨others.scene, before.failures ++ (finished.failures ++ others.failures)⟩

theorem runsWith_replay {stream : Stream} {front back : List Command} {grid : Extent}
    (shape : stream.commands = front ++ .dispatch grid :: back) :
    stream.RunsWith front grid back (Bindings.replay front) where
  reached heap scene := Execution.bindings_run heap (Execution.start scene) front
  outcome heap ahead behind scene := by
    dsimp only
    rw [runAll_append]
    simp only [runAll, run, shape, Execution.run_append, Execution.run_cons,
      Execution.step_dispatch_of_run]

end Stream

namespace BindGroupCache

def pass (cache : BindGroupCache) (heap : DescriptorHeap) (bindings : Bindings) (grid : Extent) :
    Outcome BindGroupCache Encoded :=
  match bindings.pipeline with
  | none => .refused cache (.backend "dispatch without pipeline") []
  | some bundle =>
      (cache.groups heap bundle bindings.tables).andThen fun grown groups =>
        .done grown (.pass bundle.key groups grid) []

theorem encode_dispatch (cache : BindGroupCache) (heap : DescriptorHeap) (bindings : Bindings)
    (grid : Extent) (rest : List Command) :
    cache.encode heap bindings (.dispatch grid :: rest) =
      (cache.pass heap bindings grid).andThen fun passed first =>
        (passed.encode heap bindings rest).andThen fun final others =>
          .done final (first :: others) [] := by
  rw [encode, pass]
  cases bindings.pipeline with
  | none => rfl
  | some bundle => simp [Outcome.andThen_assoc]

/-- Commands can be encoded in two parts, the second one with what the first one leaves bound. -/
theorem encode_append (cache : BindGroupCache) (heap : DescriptorHeap) (bindings : Bindings)
    (front back : List Command) :
    cache.encode heap bindings (front ++ back) =
      (cache.encode heap bindings front).andThen fun reached opening =>
        (reached.encode heap (front.foldl Bindings.apply bindings) back).andThen
          fun final closing => .done final (opening ++ closing) [] := by
  induction front generalizing cache bindings with
  | nil => simp [encode]
  | cons command rest inductionHypothesis =>
      cases command with
      | setPipeline | setTable => simp [encode, inductionHypothesis]
      | copyRegion region => simp [encode, inductionHypothesis, Outcome.andThen_assoc]
      | dispatch grid =>
          rw [List.cons_append, encode_dispatch, encode_dispatch]
          simp [inductionHypothesis, Outcome.andThen_assoc]

theorem encodeAll_append (cache : BindGroupCache) (heap : DescriptorHeap)
    (first second : List Stream) :
    cache.encodeAll heap (first ++ second) =
      (cache.encodeAll heap first).andThen fun grown ahead =>
        (grown.encodeAll heap second).andThen fun final others =>
          .done final (ahead ++ others) [] := by
  induction first generalizing cache with
  | nil => simp [encodeAll]
  | cons stream rest inductionHypothesis =>
      simp [encodeAll, inductionHypothesis, Outcome.andThen_assoc]

end BindGroupCache

namespace Stream

/-- The dispatch after the first commands of the stream is encoded with the given bindings: an
encoder that comes to it has reached them, and makes its pass with them however the stream is placed
among others. -/
structure EncodesWith (stream : Stream) (front : List Command) (grid : Extent)
    (back : List Command) (bindings : Bindings) : Prop where
  reached : ∀ (cache : BindGroupCache) (heap : DescriptorHeap),
    cache.encode heap Bindings.none stream.commands =
      (cache.encode heap Bindings.none front).andThen fun reached opening =>
        (reached.encode heap bindings (.dispatch grid :: back)).andThen fun final closing =>
          .done final (opening ++ closing) []
  outcome : ∀ (cache : BindGroupCache) (heap : DescriptorHeap) (ahead behind : List Stream),
    cache.encodeAll heap (ahead ++ stream :: behind) =
      (cache.encodeAll heap ahead).andThen fun before first =>
        (before.encode heap Bindings.none front).andThen fun reached opening =>
          (reached.pass heap bindings grid).andThen fun passed pass =>
            (passed.encode heap bindings back).andThen fun finished closing =>
              (finished.encodeAll heap behind).andThen fun final others =>
                .done final (first ++ ((opening ++ pass :: closing) ++ others)) []

theorem encodesWith_replay {stream : Stream} {front back : List Command} {grid : Extent}
    (shape : stream.commands = front ++ .dispatch grid :: back) :
    stream.EncodesWith front grid back (Bindings.replay front) where
  reached cache heap := by
    rw [shape, BindGroupCache.encode_append]
    rfl
  outcome cache heap ahead behind := by
    rw [BindGroupCache.encodeAll_append]
    simp [BindGroupCache.encodeAll, shape, BindGroupCache.encode_append,
      BindGroupCache.encode_dispatch, Bindings.replay, Outcome.andThen_assoc]

end Stream

namespace World

variable {σ : Type}

section Queued

variable [Queue σ] {moves : Clocked σ → Clocked σ → Prop} {world start : World σ}

/-- Lists show what was bound last, and dispatches run with what was shown. -/
structure Replayed (moves : Clocked σ → Clocked σ → Prop) (world start : World σ) : Prop where
  latest : ∀ list ∈ world.lists,
    list.bindings.pipeline = Command.lastPipeline list.recorded ∧
      ∀ slot, list.bindings.table slot = Command.lastTable slot list.recorded
  dispatched : ∀ entry ∈ world.entries, ∀ stream ∈ entry.streams, ∀ front grid back,
    stream.commands = front ++ .dispatch grid :: back →
      ∃ moment list, Accepts moves start moment list (.dispatch grid) world ∧
        list.id = stream.list ∧ list.recorded = front ∧
          stream.RunsWith front grid back list.shown ∧
            stream.EncodesWith front grid back list.shown

theorem latest_of_leads (begun : start.Begins) (leads : Leads moves start world) :
    ∀ list ∈ world.lists,
      list.bindings.pipeline = Command.lastPipeline list.recorded ∧
        ∀ slot, list.bindings.table slot = Command.lastTable slot list.recorded := by
  intro list member
  have replayed := Leads.forall_lists (CommandList.lasting_replay _ _) begun leads list member
  have admitted := Leads.forall_lists (CommandList.lasting_admitted _ _) begun leads list member
  rw [replayed]
  refine ⟨Bindings.pipeline_replay list.recorded, ?_⟩
  intro slot
  by_cases present : slot < tableSlots
  · exact Bindings.table_replay present list.recorded
  · have beyond := Nat.le_of_not_lt present
    rw [Bindings.table_replay_of_le beyond]
    -- No recorded command names such a slot, since its call would have been refused.
    symm
    refine List.findSome?_eq_none_iff.mpr ?_
    intro command chosen
    cases command with
    | setTable bound range =>
        have fits := admitted.fits _ (List.mem_reverse.mp chosen)
        have different : bound ≠ slot := Nat.ne_of_lt (Nat.lt_of_lt_of_le fits.1 beyond)
        exact if_neg different
    | _ => rfl

/-- Lists and queues agree on what is bound. -/
theorem replayed_of_leads (begun : start.Begins) (leads : Leads moves start world) :
    world.Replayed moves start := by
  refine ⟨latest_of_leads begun leads, ?_⟩
  intro entry accepted stream chosen front grid back shape
  -- From the stream to the list that was handed over, and from there to the call.
  obtain ⟨frozen, last, toFrozen, fromFrozen, lastMember, rfl⟩ :=
    Leads.moment_of_stream begun leads accepted chosen
  obtain ⟨moment, list, call, accepts, sameId, sameFront, sameCommand⟩ :=
    Leads.moment_of_command begun toFrozen lastMember shape
  have dispatching : call = .dispatch grid := by
    cases call with
    | dispatch _ => exact congrArg Call.dispatch (Command.dispatch.inj sameCommand)
    | _ => cases sameCommand
  subst dispatching
  have replayed := Leads.forall_lists (CommandList.lasting_replay _ _) begun accepts.reached
    list accepts.member
  have shown : list.shown = Bindings.replay front := by
    rw [CommandList.shown_of_replay replayed, sameFront]
  refine ⟨moment, list, accepts.later fromFrozen, sameId, sameFront, ?_, ?_⟩
  · rw [shown]
    exact Stream.runsWith_replay shape
  · rw [shown]
    exact Stream.encodesWith_replay shape

def firstCompute : CommandList :=
  CommandList.opened ⟨1⟩ 0 .compute (Allocator.new ⟨.compute, 0⟩) (some 1024)

/-- A kernel that writes the numbers of its groups. -/
def filling : Bundle := ⟨0, "fill", 1, Catalogue.fill⟩

/-- A dispatch after which its table is bound again. -/
def rebinding : List Call :=
  [.bindPipeline filling, .bindTable 0 ⟨0, 1⟩, .dispatch ⟨1, 1, 1⟩, .bindTable 0 ⟨1, 1⟩]

/-- The first compute list after these calls. -/
def reboundList : CommandList :=
  rebinding.foldl (fun list call => list.append call.command) firstCompute

/-- A small device that handed a dispatch to its queue, and with it a later binding. -/
def rebound (queue : σ) : World σ :=
  (((small queue).openList .compute).recordAll firstCompute rebinding).execute [reboundList]

theorem leads_rebound {queue : σ}
    (opened : ((small queue).openList .compute).lists = [firstCompute]) :
    Leads moves (small queue) (rebound queue) := by
  have first : Leads moves (small queue) ((small queue).openList .compute) :=
    Relation.ReflTransGen.single (Step.opens (small queue) .compute)
  have accepted : rebinding.foldlM CommandList.record firstCompute = .ok reboundList := rfl
  obtain ⟨recorded, lists⟩ :=
    recordAll_of_only opened accepted fun _ _ call member _ => Step.records member call
  have offers : (((small queue).openList .compute).recordAll firstCompute rebinding).Offers
      [reboundList] := by
    apply offers_singleton
    rw [lists]
    exact List.mem_singleton_self _
  exact (Relation.ReflTransGen.trans first recorded).tail (Step.executes offers)

end Queued

/-- The dispatch of a stream that binds its table again. -/
theorem replayed_of_leads_rebound :
    (small (SoftQueue.new SoftQueue.defaultLabel)).Begins ∧
      Leads SoftQueue.Runs (small (SoftQueue.new SoftQueue.defaultLabel))
        (rebound (SoftQueue.new SoftQueue.defaultLabel)) ∧
      (rebound (SoftQueue.new SoftQueue.defaultLabel)).Replayed SoftQueue.Runs
        (small (SoftQueue.new SoftQueue.defaultLabel)) ∧
      (rebound (SoftQueue.new SoftQueue.defaultLabel)).entries =
        [⟨1, [⟨⟨1⟩, .compute, [.setPipeline filling, .setTable 0 ⟨0, 1⟩] ++
          .dispatch ⟨1, 1, 1⟩ :: [.setTable 0 ⟨1, 1⟩]⟩]⟩] :=
  ⟨begins_soft, leads_rebound rfl, replayed_of_leads begins_soft (leads_rebound rfl), rfl⟩

end World

end CommandQueue
