import CommandQueue.Proofs.Batches
import CommandQueue.Proofs.BindGroups
import CommandQueue.Proofs.Turns

/-!
# Submissions that are encoded as a whole

A queue that encodes takes a submission only if all of it can be encoded, and
that depends on the descriptor heap alone: the dispatches of a list need the
places of their bound tables, in the order of commands, slots and indices, and
the first place needed to which nothing was written refuses the submission.  The
groups kept from earlier submissions have no influence, since their ranges were
written in full.

A submission that is refused leaves nothing to be carried out.  Once its missing
places are written it can be handed over again under the value that it would have
had, and its commands are then carried out once, whatever the device makes of
them (`Carrier`).
-/

namespace CommandQueue

/-- The error that a result is. -/
def failure? {α : Type} : Except Error α → Option Error
  | .error error => some error
  | .ok _ => none

theorem error_of_failure? {α : Type} {result : Except Error α} {error : Error}
    (failed : failure? result = some error) : result = .error error := by
  cases result with
  | error other =>
      cases failed
      rfl
  | ok value => cases failed

theorem ok_of_failure? {result : Except Error Unit} (succeeded : failure? result = none) :
    result = .ok () := by
  cases result with
  | error error => cases succeeded
  | ok value => rfl

theorem failure?_andThen {σ α β : Type} {outcome : Outcome σ α}
    {next : σ → α → Outcome σ β} {later : Option Error}
    (same : ∀ value, failure? (next outcome.state value).result = later) :
    failure? (outcome.andThen next).result = (failure? outcome.result).or later := by
  obtain ⟨state, result, events⟩ := outcome
  cases result with
  | error error => rfl
  | ok value => exact same value

theorem failure?_andThen_done {σ α β : Type} (outcome : Outcome σ α) (change : α → β) :
    failure? (outcome.andThen fun state value => .done state (change value) []).result =
      failure? outcome.result := by
  obtain ⟨state, result, events⟩ := outcome
  cases result <;> rfl

def DescriptorRange.indices (range : DescriptorRange) : List Nat :=
  List.range' range.start range.count

namespace DescriptorHeap

def lacks (heap : DescriptorHeap) (index : Nat) : Bool := (heap.get? index).isNone

/-- The error for the first of some places to which nothing was written. -/
def unwritten? (heap : DescriptorHeap) (places : List Nat) : Option Error :=
  (places.find? heap.lacks).map .descriptorUnwritten

theorem unwritten?_append (heap : DescriptorHeap) (first second : List Nat) :
    heap.unwritten? (first ++ second) = (heap.unwritten? first).or (heap.unwritten? second) := by
  rw [unwritten?, List.find?_append, Option.map_or]
  rfl

theorem failure?_resolveFrom (heap : DescriptorHeap) {start count : Nat}
    (inside : start + count ≤ heap.capacity) :
    failure? (heap.resolveFrom start count) = heap.unwritten? (List.range' start count) := by
  induction count generalizing start with
  | zero => rfl
  | succ count inductionHypothesis =>
      have within : ¬ heap.capacity ≤ start := by omega
      have later := @inductionHypothesis (start + 1) (by omega)
      rw [unwritten?, List.range'_succ, List.find?_cons, resolveFrom, resolveAt, if_neg within]
      cases present : heap.get? start with
      | none => simp [lacks, present, failure?]
      | some buffer =>
          simp only [lacks, present, Option.isNone_some]
          refine Eq.trans ?_ later
          cases heap.resolveFrom (start + 1) count <;> rfl

/-- The range lies inside the heap. -/
def Contains (heap : DescriptorHeap) (range : DescriptorRange) : Prop :=
  range.end? = some (range.start + range.count) ∧ range.start + range.count ≤ heap.capacity

theorem failure?_resolve {heap : DescriptorHeap} {range : DescriptorRange}
    (contains : heap.Contains range) :
    failure? (heap.resolve range) = heap.unwritten? range.indices := by
  rw [resolve, contains.1]
  exact heap.failure?_resolveFrom contains.2

end DescriptorHeap

/-! ## What dispatches need -/

/-- The places of the tables that a dispatch reads, slot by slot. -/
def Bindings.needed (bindings : Bindings) : List Nat :=
  match bindings.pipeline with
  | .none => []
  | some bundle =>
      (bindings.tables.take bundle.slots).flatMap fun table => table.elim [] DescriptorRange.indices

def Command.needed (bindings : Bindings) : Command → List Nat
  | .dispatch _ => bindings.needed
  | _ => []

/-- The places that the dispatches of a recording need, in order. -/
def Command.neededBy (commands : List Command) : List Nat :=
  along needed Bindings.none commands

theorem Command.mem_along_iff {α : Type} {each : Bindings → Command → List α} {value : α}
    {bindings : Bindings} {commands : List Command} :
    value ∈ along each bindings commands ↔
      ∃ front command back, commands = front ++ command :: back ∧
        value ∈ each (front.foldl Bindings.apply bindings) command := by
  induction commands generalizing bindings with
  | nil => simp [along]
  | cons command rest inductionHypothesis =>
      rw [along, List.mem_append, inductionHypothesis]
      constructor
      · rintro (now | ⟨front, later, back, shape, found⟩)
        · exact ⟨[], command, rest, rfl, now⟩
        · exact ⟨command :: front, later, back, congrArg (command :: ·) shape, found⟩
      · rintro ⟨front, later, back, shape, found⟩
        cases front with
        | nil =>
            cases shape
            exact Or.inl found
        | cons first front =>
            cases shape
            exact Or.inr ⟨front, later, back, rfl, found⟩

theorem Bindings.mem_needed_iff {bindings : Bindings} {index : Nat} :
    index ∈ bindings.needed ↔
      ∃ bundle slot range, bindings.pipeline = some bundle ∧ slot < bundle.slots ∧
        bindings.table slot = some range ∧
          range.start ≤ index ∧ index < range.start + range.count := by
  unfold needed
  cases piped : bindings.pipeline with
  | none => simp
  | some bundle =>
      dsimp only
      rw [List.mem_flatMap]
      constructor
      · rintro ⟨table, taken, member⟩
        cases table with
        | none => cases member
        | some range =>
            obtain ⟨slot, present⟩ := List.mem_iff_getElem?.mp taken
            rw [List.getElem?_take] at present
            split at present
            · rename_i below
              refine ⟨bundle, slot, range, rfl, below, ?_, List.mem_range'_1.mp member⟩
              rw [table, present]
              rfl
            · cases present
      · rintro ⟨other, slot, range, same, below, bound, inside⟩
        cases same
        refine ⟨some range, ?_, List.mem_range'_1.mpr inside⟩
        refine List.mem_iff_getElem?.mpr ⟨slot, ?_⟩
        rw [List.getElem?_take, if_pos below]
        exact Option.join_eq_some_iff.mp bound

section Sound

variable {category : Category} {heap : DescriptorHeap} {front back : List Command}

/-- The ranges that a sound recording binds lie inside the heap. -/
theorem Command.Sound.contains (sound : Sound category heap.capacity (front ++ back))
    {range : DescriptorRange} (bound : some range ∈ (Bindings.replay front).tables) :
    heap.Contains range := by
  obtain ⟨slot, recorded⟩ := Bindings.mem_of_tables_replay bound
  have fits := sound.fits (.setTable slot range) (List.mem_append_left back recorded)
  exact fits.2

end Sound

namespace BindGroupCache

variable {heap : DescriptorHeap} {cache : BindGroupCache} {bundle : Bundle}

/-- A group that is kept stands for a range that was written in full. -/
theorem Kept.failure?_group (kept : Kept (fun _ => True) heap cache) (slot : Nat)
    {range : DescriptorRange} (contains : heap.Contains range) :
    failure? (cache.group heap bundle slot range).result = heap.unwritten? range.indices := by
  rw [← DescriptorHeap.failure?_resolve contains]
  rcases (@Kept.group _ heap cache bundle kept trivial slot range).2 with
    ⟨group, found, genuine⟩ | ⟨error, failed, unresolved⟩
  · rw [found, genuine.buffers]
    rfl
  · rw [failed, unresolved]
    rfl

theorem Kept.failure?_groupsFrom (kept : Kept (fun _ => True) heap cache) (slot : Nat)
    {tables : List (Option DescriptorRange)}
    (contains : ∀ range, some range ∈ tables → heap.Contains range) :
    failure? (cache.groupsFrom heap bundle slot tables).result =
      heap.unwritten? (tables.flatMap fun table => table.elim [] DescriptorRange.indices) := by
  induction tables generalizing cache slot with
  | nil => rfl
  | cons table rest inductionHypothesis =>
      have others : ∀ range, some range ∈ rest → heap.Contains range :=
        fun range member => contains range (List.mem_cons_of_mem table member)
      cases table with
      | none => exact inductionHypothesis kept (slot + 1) others
      | some range =>
          have grown := (@Kept.group _ heap cache bundle kept trivial slot range).1
          have onward : ∀ group : BindGroup,
              failure? (((cache.group heap bundle slot range).state.groupsFrom heap bundle
                (slot + 1) rest).andThen fun final others => .done final (group :: others) []).result =
                  heap.unwritten? (rest.flatMap fun table =>
                    table.elim [] DescriptorRange.indices) := by
            intro group
            rw [failure?_andThen_done]
            exact inductionHypothesis grown (slot + 1) others
          rw [BindGroupCache.groupsFrom, failure?_andThen onward,
            kept.failure?_group slot (contains range List.mem_cons_self), List.flatMap_cons,
            DescriptorHeap.unwritten?_append]
          rfl

variable {category : Category} {front back : List Command}

/-- The first place needed to which nothing was written decides, whatever is kept. -/
theorem Kept.failure?_encode (kept : Kept (fun _ => True) heap cache)
    (sound : Command.Sound category heap.capacity (front ++ back)) :
    failure? (cache.encode heap (Bindings.replay front) back).result =
      heap.unwritten? (Command.along Command.needed (Bindings.replay front) back) := by
  -- Over the commands left; those in front are what the bindings come from.
  induction back generalizing cache front with
  | nil => rfl
  | cons command rest inductionHypothesis =>
      have onward : Command.Sound category heap.capacity ((front ++ [command]) ++ rest) := by
        rw [List.append_assoc]
        exact sound
      have reached : Bindings.replay (front ++ [command]) =
          (Bindings.replay front).apply command := Bindings.replay_append_singleton front command
      have later : ∀ {grown : BindGroupCache}, Kept (fun _ => True) heap grown →
          failure? (grown.encode heap ((Bindings.replay front).apply command) rest).result =
            heap.unwritten? (Command.along Command.needed
              ((Bindings.replay front).apply command) rest) := by
        intro grown keptGrown
        rw [← reached]
        exact inductionHypothesis keptGrown onward
      rw [Command.along, DescriptorHeap.unwritten?_append]
      cases command with
      | setPipeline | setTable => exact later kept
      | copyRegion region =>
          refine Eq.trans ?_ (later kept)
          exact failure?_andThen_done _ _
      | dispatch grid =>
          obtain ⟨bundle, _, piped⟩ := sound.pipeline rfl
          have tables : ∀ range, some range ∈ (Bindings.replay front).tables.take bundle.slots →
              heap.Contains range :=
            fun range taken => sound.contains (List.mem_of_mem_take taken)
          have grown := (@Kept.groupsFrom _ heap cache bundle kept trivial 0
            ((Bindings.replay front).tables.take bundle.slots)).1
          have closing : ∀ groups : List BindGroup,
              failure? (((cache.groups heap bundle (Bindings.replay front).tables).state.encode heap
                ((Bindings.replay front).apply (.dispatch grid)) rest).andThen
                  fun final others =>
                    .done final (.pass bundle.key groups grid :: others) []).result =
                heap.unwritten? (Command.along Command.needed
                  ((Bindings.replay front).apply (.dispatch grid)) rest) := by
            intro groups
            rw [failure?_andThen_done]
            exact later grown
          rw [BindGroupCache.encode, piped]
          dsimp only
          rw [failure?_andThen closing, BindGroupCache.groups, kept.failure?_groupsFrom 0 tables,
            Command.needed, Bindings.needed, piped]

theorem Kept.failure?_encodeAll (kept : Kept (fun _ => True) heap cache) {streams : List Stream}
    (sound : ∀ stream ∈ streams, Command.Sound stream.category heap.capacity stream.commands) :
    failure? (cache.encodeAll heap streams).result =
      heap.unwritten? (streams.flatMap fun stream => Command.neededBy stream.commands) := by
  induction streams generalizing cache with
  | nil => rfl
  | cons stream rest inductionHypothesis =>
      obtain ⟨first, others⟩ := List.forall_mem_cons.mp sound
      have only : BindsOnly (fun _ => True) stream.commands := fun _ _ => trivial
      have grown := kept.encode_none only
      have onward : ∀ encoded : List Encoded,
          failure? (((cache.encode heap Bindings.none stream.commands).state.encodeAll heap
            rest).andThen fun final others => .done final (encoded ++ others) []).result =
              heap.unwritten? (rest.flatMap fun stream => Command.neededBy stream.commands) := by
        intro encoded
        rw [failure?_andThen_done]
        exact inductionHypothesis grown others
      have whole := @Kept.failure?_encode heap cache stream.category [] stream.commands kept first
      rw [BindGroupCache.encodeAll, failure?_andThen onward, List.flatMap_cons,
        DescriptorHeap.unwritten?_append]
      exact congrArg (Option.or · _) whole

end BindGroupCache

/-! ## Copies -/

def Command.region? : Command → Option CopyRegion
  | .copyRegion region => some region
  | _ => none

def CommandList.copies (list : CommandList) : List CopyRegion :=
  list.recorded.filterMap Command.region?

namespace Encoded

def region? : Encoded → Option CopyRegion
  | .copy region => some region
  | .pass .. => none

theorem region?_bare (encoded : Encoded) : encoded.bare.region? = encoded.region? := by
  cases encoded <;> rfl

theorem filterMap_region?_bareOf (bindings : Bindings) (commands : List Command) :
    (bareOf bindings commands).filterMap region? = commands.filterMap Command.region? := by
  induction commands generalizing bindings with
  | nil => rfl
  | cons command rest inductionHypothesis =>
      cases command with
      | setPipeline | setTable => exact inductionHypothesis _
      | copyRegion region => exact congrArg (region :: ·) (inductionHypothesis bindings)
      | dispatch grid =>
          rw [bareOf]
          cases bindings.pipeline <;> exact inductionHypothesis bindings

/-- What is encoded of a batch: the copies and passes of its lists in order, each of them once. -/
structure Follows (slice : List CommandList) (encoded : List Encoded) : Prop where
  bare : encoded.map Encoded.bare =
    slice.flatMap fun list => bareOf Bindings.none list.recorded
  copies : encoded.filterMap region? = slice.flatMap CommandList.copies

theorem follows_of_bare {slice : List CommandList} {encoded : List Encoded}
    (bare : encoded.map Encoded.bare =
      slice.flatMap fun list => bareOf Bindings.none list.recorded) : Follows slice encoded := by
  refine ⟨bare, ?_⟩
  have same : encoded.filterMap region? = (encoded.map Encoded.bare).filterMap region? := by
    simp only [List.filterMap_map, Function.comp_def, region?_bare]
  rw [same, bare, List.filterMap_flatMap]
  simp only [filterMap_region?_bareOf]
  rfl

end Encoded

namespace GpuQueue

/-- A device that only copies carries out the copies of what was encoded. -/
theorem foldl_carryOut (copier : Copier) (encoded : List Encoded) (memory : Memory) :
    encoded.foldl (carryOut copier) memory =
      (encoded.filterMap Encoded.region?).foldl copier memory := by
  induction encoded generalizing memory with
  | nil => rfl
  | cons command rest inductionHypothesis =>
      cases command with
      | copy region => exact inductionHypothesis (copier memory region)
      | pass bundle groups grid => exact inductionHypothesis memory

theorem memory_carryOutAll (carry : Carrier) (pending : List EncodedSubmission) (fence : Fence)
    (scene : Scene) :
    (carryOutAll carry pending fence scene).2.memory =
      (pending.flatMap EncodedSubmission.commands).foldl carry scene.memory := by
  induction pending generalizing fence scene with
  | nil => rfl
  | cons submission rest inductionHypothesis =>
      rw [carryOutAll, inductionHypothesis, List.flatMap_cons, List.foldl_append]

theorem failure?_submit (queue : GpuQueue) (fence : Fence) (heap : DescriptorHeap)
    (submission : Submission) :
    failure? (queue.submit fence heap submission).result =
      failure? (queue.cache.encodeAll heap submission.streams).result := by
  cases answer : (queue.cache.encodeAll heap submission.streams).result with
  | error error =>
      rw [submit_of_unencoded answer]
      rfl
  | ok encoded =>
      rw [submit_of_encoded answer]
      rfl

theorem pending_of_refused {queue : GpuQueue} {fence : Fence} {heap : DescriptorHeap}
    {submission : Submission} {error : Error}
    (refused : (queue.submit fence heap submission).result = .error error) :
    (queue.submit fence heap submission).state.queue.pending = queue.pending := by
  cases answer : (queue.cache.encodeAll heap submission.streams).result with
  | error problem =>
      rw [submit_of_unencoded answer]
      rfl
  | ok encoded =>
      rw [submit_of_encoded answer] at refused
      cases refused

end GpuQueue

/-! ## Whole submissions -/

/-- The first place that the dispatches of some lists need and nothing was written to. -/
def DescriptorHeap.missing? (heap : DescriptorHeap) (slice : List CommandList) : Option Nat :=
  (slice.flatMap fun list => Command.neededBy list.recorded).find? heap.lacks

/-- The memory behind all that waits on the queue, for whatever the device makes of it. -/
def Device.memoryBehind (device : Device GpuQueue) (carry : Carrier) (scene : Scene) : Memory :=
  (device.queue.drain carry device.fence device.heap scene).scene.memory

theorem Device.memoryBehind_eq (device : Device GpuQueue) (carry : Carrier) (scene : Scene) :
    device.memoryBehind carry scene =
      (device.queue.pending.flatMap EncodedSubmission.commands).foldl carry scene.memory :=
  GpuQueue.memory_carryOutAll carry device.queue.pending device.fence scene

/-- The device that the queue runs on copies at once. -/
theorem Device.memory_settle (device : Device GpuQueue) (scene : Scene) :
    (device.settle scene).2.1.memory =
      device.memoryBehind (GpuQueue.carryOut Memory.copy) scene := rfl

namespace World

variable {start world later : World GpuQueue} {slice : List CommandList} {label : String}

/-- A step in which the heap only grows. -/
def GrowingStep (before after : World GpuQueue) : Prop :=
  Step GpuQueue.Runs before after ∧ before.device.heap.Grows after.device.heap

abbrev Evolves : World GpuQueue → World GpuQueue → Prop := Relation.ReflTransGen GrowingStep

theorem Evolves.leads (evolves : Evolves start world) : Leads GpuQueue.Runs start world :=
  Relation.ReflTransGen.mono (fun _ _ step => step.1) _ _ evolves

/-- The queue keeps groups only for ranges that were written in full. -/
theorem kept_of_evolves (begun : start.Begins) (new : start.device.queue = GpuQueue.new label)
    (evolves : Evolves start world) :
    BindGroupCache.Kept (fun _ => True) world.device.heap world.device.queue.cache := by
  induction evolves with
  | refl =>
      rw [new]
      exact BindGroupCache.kept_nil _ _
  | @tail before after earlier step kept =>
      have effect := step.1.effect (Leads.registered begun (Evolves.leads earlier))
      have encoded : ∀ submission : Submission, BindGroupCache.Kept (fun _ => True)
          after.device.heap
            (before.device.queue.cache.encodeAll before.device.heap submission.streams).state := by
        intro submission
        refine BindGroupCache.Kept.grown (kept.encodeAll ?_) step.2
        exact fun stream _ bundle _ => trivial
      cases effect.turn with
      | quiet quiet =>
          rw [quiet.queue]
          exact kept.grown step.2
      | @rejected slice error refused =>
          change BindGroupCache.Kept _ _ (GpuQueue.submit _ _ _ _).state.queue.cache
          rw [GpuQueue.cache_submit]
          exact encoded _
      | @accepted slice taken =>
          change BindGroupCache.Kept _ _ (GpuQueue.submit _ _ _ _).state.queue.cache
          rw [GpuQueue.cache_submit]
          exact encoded _
      | moved moved =>
          cases moved with
          | next pending completed => exact kept.grown step.2

/-- As long as no submission is accepted, the queue only carries out what it had taken. -/
theorem Evolves.pending (evolves : Evolves world later) (registered : world.Registered) :
    ∃ more, later.entries = world.entries ++ more ∧
      (more = [] → later.device.queue.pending <:+ world.device.queue.pending) := by
  have whole : later.Registered ∧ ∃ more, later.entries = world.entries ++ more ∧
      (more = [] → later.device.queue.pending <:+ world.device.queue.pending) := by
    induction evolves with
    | refl => exact ⟨registered, [], (List.append_nil _).symm, fun _ => List.suffix_refl _⟩
    | @tail before after _ step inductionHypothesis =>
        obtain ⟨registered, more, entries, pending⟩ := inductionHypothesis
        have effect := step.1.effect registered
        refine ⟨effect.registered registered, ?_⟩
        cases effect.turn with
        | quiet quiet =>
            refine ⟨more, quiet.entries.trans entries, fun none => ?_⟩
            rw [quiet.queue]
            exact pending none
        | @rejected slice error refused =>
            refine ⟨more, entries, fun none => ?_⟩
            have same : (before.reject slice).device.queue.pending =
                before.device.queue.pending := GpuQueue.pending_of_refused refused
            rw [same]
            exact pending none
        | @accepted slice taken =>
            refine ⟨more ++ [before.device.submission (slice.map CommandList.freeze)], ?_,
              fun none => absurd none (List.append_ne_nil_of_right_ne_nil _ (List.cons_ne_nil _ _))⟩
            rw [← List.append_assoc, ← entries]
            rfl
        | moved moved =>
            refine ⟨more, entries, fun none => ?_⟩
            cases moved with
            | @next _ _ _ submission rest waiting completed =>
                have left : rest <:+ before.device.queue.pending := by
                  rw [waiting]
                  exact List.suffix_cons submission rest
                exact left.trans (pending none)
  exact whole.2

/-! ## Batches with and without all they need -/

/-- The batch was refused: its lists are closed, and nothing of it is left to be carried out. -/
structure Withheld (world : World GpuQueue) (slice : List CommandList) : Prop where
  fence : (world.execute slice).device.fence = world.device.fence
  stats : (world.execute slice).device.stats = world.device.stats
  pending : (world.execute slice).device.queue.pending = world.device.queue.pending
  memory : ∀ carry scene, (world.execute slice).device.memoryBehind carry scene =
    world.device.memoryBehind carry scene
  closed : ∀ list ∈ slice,
    list.freeze ∈ (world.execute slice).lists ∧ list.freeze.state = .closed

/-- The batch was accepted under a value: its lists are submitted, and whatever the device makes of
an encoded command, it carries out those of the batch once, behind all that waited before. -/
structure CarriedOut (world : World GpuQueue) (slice : List CommandList) (signal : FenceValue) :
    Prop where
  result : (world.device.execute slice).result = .ok signal
  submissions : (world.execute slice).device.submissions = world.device.submissions + 1
  submitted : ∀ list ∈ slice, list.freeze.markSubmitted signal ∈ (world.execute slice).lists
  carried : ∃ commands, Encoded.Follows slice commands ∧
    (world.execute slice).device.queue.pending =
      world.device.queue.pending ++ [⟨signal, commands⟩] ∧
    ∀ carry scene, (world.execute slice).device.memoryBehind carry scene =
      commands.foldl carry (world.device.memoryBehind carry scene)
  /-- If the passes leave the memory alone, the copies are all that happens to it. -/
  copied : ∀ copier scene,
    (world.execute slice).device.memoryBehind (GpuQueue.carryOut copier) scene =
      (slice.flatMap CommandList.copies).foldl copier
        (world.device.memoryBehind (GpuQueue.carryOut copier) scene)

/-- A dispatch of one of the lists reads, in a slot that its bundle has, a place of a bound range to
which nothing was written. -/
def Unready (heap : DescriptorHeap) (slice : List CommandList) : Prop :=
  ∃ list ∈ slice, ∃ front grid back bundle slot range index,
    list.recorded = front ++ .dispatch grid :: back ∧
      (Bindings.replay front).pipeline = some bundle ∧ slot < bundle.slots ∧
        (Bindings.replay front).table slot = some range ∧
          (range.start ≤ index ∧ index < range.start + range.count) ∧ heap.get? index = none

theorem isSome_missing?_iff (heap : DescriptorHeap) (slice : List CommandList) :
    (heap.missing? slice).isSome ↔ Unready heap slice := by
  rw [DescriptorHeap.missing?, List.find?_isSome]
  constructor
  · rintro ⟨index, needed, lacking⟩
    obtain ⟨list, chosen, member⟩ := List.mem_flatMap.mp needed
    obtain ⟨front, command, back, shape, found⟩ := Command.mem_along_iff.mp member
    cases command with
    | dispatch grid =>
        obtain ⟨bundle, slot, range, piped, below, bound, inside⟩ :=
          Bindings.mem_needed_iff.mp found
        exact ⟨list, chosen, front, grid, back, bundle, slot, range, index, shape, piped, below,
          bound, inside, Option.isNone_iff_eq_none.mp lacking⟩
    | _ => cases found
  · rintro ⟨list, chosen, front, grid, back, bundle, slot, range, index, shape, piped, below, bound,
      inside, unwritten⟩
    refine ⟨index, List.mem_flatMap.mpr ⟨list, chosen, ?_⟩, Option.isNone_iff_eq_none.mpr unwritten⟩
    refine Command.mem_along_iff.mpr ⟨front, .dispatch grid, back, shape, ?_⟩
    exact Bindings.mem_needed_iff.mpr ⟨bundle, slot, range, piped, below, bound, inside⟩

/-- What the queue answers depends on the places needed. -/
theorem failure?_offered (begun : start.Begins) (new : start.device.queue = GpuQueue.new label)
    (evolves : Evolves start world)
    (own : ∀ list ∈ slice, list ∈ world.lists ∧ list.state ≠ .submitted) :
    failure? (world.device.offered slice).result =
      (world.device.heap.missing? slice).map .descriptorUnwritten := by
  have kept := kept_of_evolves begun new evolves
  have capacity := (Leads.fixed begun (Evolves.leads evolves)).2
  have sound : ∀ stream ∈ (world.device.submission (slice.map CommandList.freeze)).streams,
      Command.Sound stream.category world.device.heap.capacity stream.commands := by
    intro stream member
    obtain ⟨frozen, chosen, rfl⟩ := List.mem_map.mp member
    obtain ⟨list, listed, rfl⟩ := List.mem_map.mp chosen
    have recorded := Leads.sound_recorded begun (Evolves.leads evolves) (own list listed).1
    rw [capacity]
    exact recorded
  refine (GpuQueue.failure?_submit _ _ _ _).trans ((kept.failure?_encodeAll sound).trans ?_)
  rw [DescriptorHeap.unwritten?, DescriptorHeap.missing?]
  simp only [Device.submission, List.map_map, List.flatMap_map]
  rfl

theorem withheld_of_evolves (begun : start.Begins) (evolves : Evolves start world)
    (submittable : world.Submittable slice) {error : Error}
    (refused : (world.device.offered slice).result = .error error) : world.Withheld slice := by
  have leads := Evolves.leads evolves
  have registered := Leads.registered begun leads
  have unsubmitted : ∀ list ∈ world.lists, list.state ≠ .submitted → list.submitted = none :=
    Leads.forall_lists (CommandList.lasting_unsubmitted _ _) begun leads
  have alone := registered.leftAlone GpuQueue.steady submittable.own unsubmitted refused
  have pending : (world.execute slice).device.queue.pending = world.device.queue.pending := by
    rw [registered.execute_of_rejected submittable.own refused]
    exact GpuQueue.pending_of_refused refused
  refine ⟨?_, alone.stats, pending, ?_, ?_⟩
  · rw [alone.unchanged]
    rfl
  · intro carry scene
    rw [Device.memoryBehind_eq, Device.memoryBehind_eq, pending]
  · exact fun list chosen => ⟨(alone.closed list chosen).1, rfl⟩

theorem carriedOut_of_evolves (begun : start.Begins) (evolves : Evolves start world)
    (submittable : world.Submittable slice)
    (taken : (world.device.offered slice).result = .ok ()) :
    world.CarriedOut slice (world.device.fence.issued + 1) := by
  have leads := Evolves.leads evolves
  have registered := Leads.registered begun leads
  have accepted := registered.taken (Leads.booked begun leads) submittable.own taken
  have whole := registered.execute_of_taken submittable.own taken
  let batch := world.device.submission (slice.map CommandList.freeze)
  -- The queue took the batch, so all of it was encoded.
  obtain ⟨encoded, answer⟩ : ∃ encoded,
      (world.device.queue.cache.encodeAll world.device.heap batch.streams).result =
        .ok encoded := by
    cases answer : (world.device.queue.cache.encodeAll world.device.heap batch.streams).result with
    | ok encoded => exact ⟨encoded, rfl⟩
    | error error =>
        have refused := GpuQueue.submit_of_unencoded answer world.device.fence.signalNext.1
        change (world.device.queue.submit world.device.fence.signalNext.1 world.device.heap
          batch).result = .ok () at taken
        rw [refused] at taken
        cases taken
  have pending : (world.execute slice).device.queue.pending =
      world.device.queue.pending ++ [⟨world.device.fence.issued + 1, encoded⟩] := by
    rw [whole]
    change (world.device.queue.submit world.device.fence.signalNext.1 world.device.heap
      batch).state.queue.pending = _
    rw [GpuQueue.submit_of_encoded answer]
    rfl
  have follows : Encoded.Follows slice encoded := by
    apply Encoded.follows_of_bare
    rw [BindGroupCache.bare_of_encodeAll answer]
    simp only [batch, Device.submission, List.map_map, List.flatMap_map]
    rfl
  have carried : ∀ carry scene, (world.execute slice).device.memoryBehind carry scene =
      encoded.foldl carry (world.device.memoryBehind carry scene) := by
    intro carry scene
    rw [Device.memoryBehind_eq, Device.memoryBehind_eq, pending, List.flatMap_append,
      List.foldl_append, List.flatMap_singleton]
  refine ⟨accepted.result, ?_, accepted.submitted, ⟨encoded, follows, pending, carried⟩, ?_⟩
  · rw [whole]
    rfl
  · intro copier scene
    rw [carried, GpuQueue.foldl_carryOut, follows.copies]

/-- A batch takes effect as a whole or not at all, and can be handed over again once nothing is
missing. -/
structure Atomic (world : World GpuQueue) (slice : List CommandList) : Prop where
  rejected : (∃ error, (world.device.execute slice).result = .error error) ↔
    Unready world.device.heap slice
  refused : ∀ index, world.device.heap.missing? slice = some index →
    (world.device.execute slice).result = .error (.descriptorUnwritten index) ∧
      world.Withheld slice
  taken : world.device.heap.missing? slice = none →
    world.CarriedOut slice (world.device.fence.issued + 1)
  retried : ∀ index later, world.device.heap.missing? slice = some index →
    Evolves (world.execute slice) later → later.entries = world.entries →
      later.Submittable (slice.map CommandList.freeze) →
        later.device.heap.missing? slice = none →
          later.device.queue.pending <:+ world.device.queue.pending ∧
            later.CarriedOut (slice.map CommandList.freeze) (world.device.fence.issued + 1)

/-- Whatever was submitted before, every batch on a queue that encodes is atomic. -/
theorem atomic_of_evolves (begun : start.Begins) (new : start.device.queue = GpuQueue.new label)
    (evolves : Evolves start world) (submittable : world.Submittable slice) :
    world.Atomic slice := by
  have registered := Leads.registered begun (Evolves.leads evolves)
  have check := registered.ensureAllOwn_of_own submittable.own
  have answer := failure?_offered begun new evolves submittable.own
  have refuses : ∀ index, world.device.heap.missing? slice = some index →
      (world.device.offered slice).result = .error (.descriptorUnwritten index) := by
    intro index missing
    rw [missing] at answer
    exact error_of_failure? answer
  have takes : world.device.heap.missing? slice = none →
      (world.device.offered slice).result = .ok () := by
    intro complete
    rw [complete] at answer
    exact ok_of_failure? answer
  refine ⟨?_, ?_, ?_, ?_⟩
  · rw [← isSome_missing?_iff]
    cases missing : world.device.heap.missing? slice with
    | none =>
        rw [(Device.execute_of_taken check (takes missing)).2.2]
        simp
    | some index =>
        rw [(Device.execute_of_rejected check (refuses index missing)).2.2]
        simp
  · intro index missing
    exact ⟨(Device.execute_of_rejected check (refuses index missing)).2.2,
      withheld_of_evolves begun evolves submittable (refuses index missing)⟩
  · exact fun complete => carriedOut_of_evolves begun evolves submittable (takes complete)
  · intro index later missing onward unaccepted still complete
    have shape := registered.execute_of_rejected submittable.own (refuses index missing)
    have attempt : Evolves start (world.execute slice) := by
      refine evolves.tail ⟨Step.executes submittable.offers, ?_⟩
      rw [shape]
      exact DescriptorHeap.Grows.refl _
    have onwards : Evolves start later := attempt.trans onward
    have same : later.device.heap.missing? (slice.map CommandList.freeze) =
        later.device.heap.missing? slice := by
      simp only [DescriptorHeap.missing?, List.flatMap_map, CommandList.recorded_freeze]
    have accepted : (later.device.offered (slice.map CommandList.freeze)).result = .ok () := by
      have answer := failure?_offered begun new onwards still.own
      rw [same, complete] at answer
      exact ok_of_failure? answer
    -- Nothing else was accepted, so the value that was taken back is the next one again.
    have lawful := GpuQueue.forgetful.toLawful
    have issued : later.device.fence.issued = world.device.fence.issued := by
      rw [(Leads.onTime lawful begun (Evolves.leads onwards)).issued,
        (Leads.onTime lawful begun (Evolves.leads evolves)).issued, unaccepted]
    have withheld := withheld_of_evolves begun evolves submittable (refuses index missing)
    obtain ⟨more, entries, pending⟩ :=
      Evolves.pending onward (Leads.registered begun (Evolves.leads attempt))
    have none : more = [] := by
      rw [unaccepted, shape] at entries
      exact List.self_eq_append_right.mp entries
    rw [← withheld.pending, ← issued]
    exact ⟨pending none, carriedOut_of_evolves begun onwards still accepted⟩

def firstGpu : World GpuQueue := small (GpuQueue.new GpuQueue.defaultLabel)

/-- A compute list with a copy and a dispatch over places to which nothing was written. -/
def unreadyList : CommandList :=
  (shift :: rebinding).foldl (fun list call => list.append call.command) firstCompute

def unready : World GpuQueue :=
  (firstGpu.openList .compute).recordAll firstCompute (shift :: rebinding)

/-- The queue has refused the list, and then the first place was written. -/
def readied : World GpuQueue :=
  let refused := unready.execute [unreadyList]
  let heap := { refused.device.heap with written := [(0, ⟨0, 16⟩)] }
  { refused with device := { refused.device with heap := heap } }

theorem growingStep_record {world : World GpuQueue} {list : CommandList}
    (member : list ∈ world.lists) (call : Call) : GrowingStep world (world.record list call) := by
  refine ⟨Step.records member call, ?_⟩
  unfold record
  split <;> exact DescriptorHeap.Grows.refl _

theorem evolves_unready : Evolves firstGpu unready ∧ unready.lists = [unreadyList] := by
  have opening : GrowingStep firstGpu (firstGpu.openList .compute) :=
    ⟨Step.opens firstGpu .compute, DescriptorHeap.Grows.refl _⟩
  have only : (firstGpu.openList .compute).lists = [firstCompute] := rfl
  have accepted : (shift :: rebinding).foldlM CommandList.record firstCompute =
      .ok unreadyList := rfl
  have calling : ∀ (world : World GpuQueue) list call, list ∈ world.lists →
      call ∈ shift :: rebinding → GrowingStep world (world.record list call) :=
    fun _ _ call member _ => growingStep_record member call
  obtain ⟨recorded, lists⟩ := recordAll_of_only only accepted calling
  exact ⟨Relation.ReflTransGen.head opening recorded, lists⟩

theorem begins_gpu : firstGpu.Begins := by
  refine begins_small ?_ fun _ => rfl
  intro category
  cases category <;> rfl

/-- The list is refused for the first place, and accepted under the same value once that place is
written.  Left to run, the queue then copies once. -/
theorem atomic_of_evolves_readied :
    firstGpu.Begins ∧ firstGpu.device.queue = GpuQueue.new GpuQueue.defaultLabel ∧
      Evolves firstGpu unready ∧ unready.Submittable [unreadyList] ∧
      unready.Atomic [unreadyList] ∧
      (unready.device.execute [unreadyList]).result = .error (.descriptorUnwritten 0) ∧
      readied.CarriedOut [unreadyList.freeze] 1 ∧
      ∀ scene, ((readied.execute [unreadyList.freeze]).device.settle scene).2.1.memory =
        scene.memory.copy ⟨⟨0, 16⟩, 0, ⟨0, 16⟩, 8, 8⟩ := by
  obtain ⟨evolves, lists⟩ := evolves_unready
  have submittable : unready.Submittable [unreadyList] := by
    refine ⟨?_, List.pairwise_singleton _ _⟩
    intro list chosen
    rw [List.mem_singleton.mp chosen, lists]
    exact ⟨List.mem_singleton_self _, nofun⟩
  have atomic := atomic_of_evolves begins_gpu rfl evolves submittable
  have missing : unready.device.heap.missing? [unreadyList] = some 0 := rfl
  have written : Evolves (unready.execute [unreadyList]) readied := by
    refine Relation.ReflTransGen.single ⟨Step.prepares _ rfl, rfl, ?_⟩
    intro index buffer present
    cases present
  have still : readied.Submittable [unreadyList.freeze] := by
    refine ⟨?_, List.pairwise_singleton _ _⟩
    intro list chosen
    rw [List.mem_singleton.mp chosen]
    exact ⟨List.mem_singleton_self _, nofun⟩
  have carried : readied.CarriedOut [unreadyList.freeze] 1 :=
    (atomic.retried 0 readied missing written rfl still rfl).2
  refine ⟨begins_gpu, rfl, evolves, submittable, atomic, (atomic.refused 0 missing).1, carried, ?_⟩
  intro scene
  rw [Device.memory_settle, carried.copied]
  rfl

end World

end CommandQueue
