import CommandQueue.Kernel.Catalogue
import CommandQueue.Proofs.Descriptors
import CommandQueue.Queue.Gpu

/-!
# Kept bind groups

A queue that encodes keeps the bind groups that it has built and uses them
again.  A kept group always has the buffers that its range resolves to: the heap
gives a place its buffer for good.  It need not have the layout of the bundle for
which it is used, since groups are kept by the name of the kernel, and two
bundles may share a name.

So a call with kept groups resolves the same tables to the same buffers, and
fails with the same errors, as a call that keeps none; and it returns the same
groups, if among the bundles that were used no other one has the name.
-/

namespace CommandQueue

/-! ## Groups that are what they should be -/

namespace BindGroup

/-- The group without the bundle whose layout it was built for. -/
def resources (group : BindGroup) : Nat × List Buffer := (group.slot, group.buffers)

/-- The group belongs to its key, and was built for one of the bundles used. -/
structure Genuine (used : Bundle → Prop) (heap : DescriptorHeap) (key : BindGroupKey)
    (group : BindGroup) : Prop where
  slot : group.slot = key.slot
  buffers : heap.resolve key.range = .ok group.buffers
  origin : ∃ bundle, used bundle ∧ bundle.kernel = key.kernel ∧ group.bundle = bundle.key

end BindGroup

namespace BindGroupCache

variable {used : Bundle → Prop} {heap : DescriptorHeap} {cache : BindGroupCache} {bundle : Bundle}

/-- Every kept group is genuine. -/
def Kept (used : Bundle → Prop) (heap : DescriptorHeap) (cache : BindGroupCache) : Prop :=
  ∀ key group, cache.lookup key = some group → BindGroup.Genuine used heap key group

theorem kept_nil (used : Bundle → Prop) (heap : DescriptorHeap) : Kept used heap [] :=
  fun _ _ found => nomatch found

theorem Kept.grown {after : DescriptorHeap} (kept : Kept used heap cache)
    (grows : heap.Grows after) : Kept used after cache := by
  intro key group found
  obtain ⟨slot, buffers, origin⟩ := kept key group found
  exact ⟨slot, grows.resolve buffers, origin⟩

/-- A group that is kept or built is genuine; without it, its range is not resolved. -/
theorem Kept.group (kept : Kept used heap cache) (isUsed : used bundle) (slot : Nat)
    (range : DescriptorRange) :
    Kept used heap (cache.group heap bundle slot range).state ∧
      ((∃ group, (cache.group heap bundle slot range).result = .ok group ∧
          BindGroup.Genuine used heap ⟨bundle.kernel, slot, range⟩ group) ∨
        ∃ error, (cache.group heap bundle slot range).result = .error error ∧
          heap.resolve range = .error error) := by
  unfold BindGroupCache.group
  dsimp only
  cases found : cache.lookup ⟨bundle.kernel, slot, range⟩ with
  | some group => exact ⟨kept, Or.inl ⟨group, rfl, kept _ group found⟩⟩
  | none =>
      cases resolved : heap.resolve range with
      | error error => exact ⟨kept, Or.inr ⟨error, rfl, rfl⟩⟩
      | ok buffers =>
          have built : BindGroup.Genuine used heap ⟨bundle.kernel, slot, range⟩
              ⟨bundle.key, slot, buffers⟩ :=
            ⟨rfl, resolved, bundle, isUsed, rfl, rfl⟩
          refine ⟨?_, Or.inl ⟨_, rfl, built⟩⟩
          -- The new group stands under its own key, in front of those that were kept.
          intro key group present
          change List.lookup key ((_, _) :: cache) = some group at present
          rw [List.lookup_cons] at present
          split at present
          · rename_i same
            cases present
            rw [eq_of_beq same]
            exact built
          · exact kept key group present

/-- The buffers of the bound tables, beginning with the slot of the first one. -/
def resolvedFrom (heap : DescriptorHeap) (slot : Nat) :
    List (Option DescriptorRange) → Except Error (List (Nat × List Buffer))
  | [] => .ok []
  | none :: rest => resolvedFrom heap (slot + 1) rest
  | some range :: rest =>
      match heap.resolve range with
      | .error error => .error error
      | .ok buffers => (resolvedFrom heap (slot + 1) rest).map fun others => (slot, buffers) :: others

theorem result_groupsFrom_of_found {slot : Nat} {range : DescriptorRange} {group : BindGroup}
    (found : (cache.group heap bundle slot range).result = .ok group)
    (rest : List (Option DescriptorRange)) :
    (cache.groupsFrom heap bundle slot (some range :: rest)).result =
      ((cache.group heap bundle slot range).state.groupsFrom heap bundle (slot + 1)
        rest).result.map (group :: ·) := by
  rw [BindGroupCache.groupsFrom]
  simp only [Outcome.andThen, found]
  cases ((cache.group heap bundle slot range).state.groupsFrom heap bundle (slot + 1)
    rest).result <;> rfl

theorem result_groupsFrom_of_failed {slot : Nat} {range : DescriptorRange} {error : Error}
    (failed : (cache.group heap bundle slot range).result = .error error)
    (rest : List (Option DescriptorRange)) :
    (cache.groupsFrom heap bundle slot (some range :: rest)).result = .error error := by
  rw [BindGroupCache.groupsFrom]
  simp only [Outcome.andThen, failed]

/-- Groups from genuine ones are genuine in turn, and a call fails only where a range is not
resolved. -/
theorem Kept.groupsFrom (kept : Kept used heap cache) (isUsed : used bundle) (slot : Nat)
    (tables : List (Option DescriptorRange)) :
    Kept used heap (cache.groupsFrom heap bundle slot tables).state ∧
      (cache.groupsFrom heap bundle slot tables).result.map (List.map BindGroup.resources) =
        resolvedFrom heap slot tables ∧
      ∀ groups, (cache.groupsFrom heap bundle slot tables).result = .ok groups →
        ∀ group ∈ groups,
          ∃ other, used other ∧ other.kernel = bundle.kernel ∧ group.bundle = other.key := by
  -- Over the tables, for any kept groups: the group of a table is kept for the tables after it.
  induction tables generalizing cache slot with
  | nil =>
      refine ⟨kept, rfl, ?_⟩
      intro groups same
      cases same
      simp
  | cons table rest inductionHypothesis =>
      cases table with
      | none => exact inductionHypothesis kept (slot + 1)
      | some range =>
          obtain ⟨grown, answer⟩ := kept.group isUsed slot range
          obtain ⟨final, results, origins⟩ := inductionHypothesis grown (slot + 1)
          refine ⟨Outcome.state_andThen grown fun _ => Outcome.state_andThen final fun _ => final,
            ?_⟩
          rcases answer with ⟨group, found, genuine⟩ | ⟨error, failed, unresolved⟩
          · have whole := result_groupsFrom_of_found found rest
            rw [whole, resolvedFrom, genuine.buffers, ← results]
            generalize ((cache.group heap bundle slot range).state.groupsFrom heap bundle (slot + 1)
              rest).result = others at origins ⊢
            cases others with
            | error error => exact ⟨rfl, nofun⟩
            | ok groups =>
                refine ⟨?_, ?_⟩
                · change Except.ok (group.resources :: groups.map BindGroup.resources) = _
                  rw [BindGroup.resources, genuine.slot]
                  rfl
                · intro all same
                  cases same
                  exact List.forall_mem_cons.mpr ⟨genuine.origin, origins groups rfl⟩
          · have whole := result_groupsFrom_of_failed failed rest
            rw [whole, resolvedFrom, unresolved]
            exact ⟨rfl, nofun⟩

/-- Without a second bundle of the name, groups are those that would be built anew. -/
theorem Kept.result_groups (kept : Kept used heap cache) (isUsed : used bundle)
    (alone : ∀ other, used other → other.kernel = bundle.kernel → other.key = bundle.key)
    (tables : List (Option DescriptorRange)) :
    (cache.groups heap bundle tables).result =
      (resolvedFrom heap 0 (tables.take bundle.slots)).map
        (List.map fun each => ⟨bundle.key, each.1, each.2⟩) := by
  obtain ⟨_, results, origins⟩ := kept.groupsFrom isUsed 0 (tables.take bundle.slots)
  rw [← results]
  change ∀ groups, (cache.groups heap bundle tables).result = .ok groups → _ at origins
  change _ = ((cache.groups heap bundle tables).result.map _).map _
  cases answer : (cache.groups heap bundle tables).result with
  | error error => rfl
  | ok groups =>
      have rebuilt : (groups.map BindGroup.resources).map
          (fun each => (⟨bundle.key, each.1, each.2⟩ : BindGroup)) = groups.map id := by
        rw [List.map_map]
        apply List.map_congr_left
        intro group member
        obtain ⟨other, otherUsed, name, built⟩ := origins groups answer group member
        rw [Function.comp_apply, ← alone other otherUsed name, ← built]
        rfl
      rw [List.map_id] at rebuilt
      exact congrArg Except.ok rebuilt.symm

/-- The commands bind no other bundles than those used. -/
def BindsOnly (used : Bundle → Prop) (commands : List Command) : Prop :=
  ∀ bundle, .setPipeline bundle ∈ commands → used bundle

theorem Kept.encode (kept : Kept used heap cache) {bindings : Bindings}
    (bound : ∀ bundle, bindings.pipeline = some bundle → used bundle) {commands : List Command}
    (only : BindsOnly used commands) :
    Kept used heap (cache.encode heap bindings commands).state := by
  induction commands generalizing cache bindings with
  | nil => exact kept
  | cons command rest inductionHypothesis =>
      have others : BindsOnly used rest :=
        fun bundle member => only bundle (List.mem_cons_of_mem command member)
      cases command with
      | setPipeline bundle =>
          refine inductionHypothesis kept ?_ others
          intro other same
          cases same
          exact only bundle List.mem_cons_self
      | setTable slot range => exact inductionHypothesis kept bound others
      | copyRegion region =>
          have final := inductionHypothesis kept bound others
          exact Outcome.state_andThen final fun _ => final
      | dispatch grid =>
          rw [BindGroupCache.encode]
          cases piped : bindings.pipeline with
          | none => exact kept
          | some bundle =>
              have grown := (kept.groupsFrom (bound bundle piped) 0
                (bindings.tables.take bundle.slots)).1
              have final := inductionHypothesis grown bound others
              exact Outcome.state_andThen grown fun _ =>
                Outcome.state_andThen final fun _ => final

theorem Kept.encode_none (kept : Kept used heap cache) {commands : List Command}
    (only : BindsOnly used commands) :
    Kept used heap (cache.encode heap Bindings.none commands).state := by
  refine kept.encode ?_ only
  intro bundle bound
  cases bound

theorem Kept.encodeAll (kept : Kept used heap cache) {streams : List Stream}
    (only : ∀ stream ∈ streams, BindsOnly used stream.commands) :
    Kept used heap (cache.encodeAll heap streams).state := by
  induction streams generalizing cache with
  | nil => exact kept
  | cons stream rest inductionHypothesis =>
      obtain ⟨first, others⟩ := List.forall_mem_cons.mp only
      have grown := kept.encode_none first
      have final := inductionHypothesis grown others
      exact Outcome.state_andThen grown fun _ => Outcome.state_andThen final fun _ => final

/-- The groups kept when a queue comes to a dispatch of a submission, after the streams ahead and
the commands in front of it. -/
def reached (cache : BindGroupCache) (heap : DescriptorHeap) (ahead : List Stream)
    (front : List Command) : BindGroupCache :=
  ((cache.encodeAll heap ahead).state.encode heap Bindings.none front).state

/-- What a call for the groups of a dispatch returns, given the bundles used until then. -/
structure Transparent (used : Bundle → Prop) (cache : BindGroupCache) (heap : DescriptorHeap)
    (bundle : Bundle) (tables : List (Option DescriptorRange)) : Prop where
  resolved :
    (cache.groups heap bundle tables).result.map (List.map BindGroup.resources) =
      resolvedFrom heap 0 (tables.take bundle.slots)
  origin : ∀ groups, (cache.groups heap bundle tables).result = .ok groups →
    ∀ group ∈ groups,
      ∃ other, used other ∧ other.kernel = bundle.kernel ∧ group.bundle = other.key
  fresh :
    (groups [] heap bundle tables).result =
      (resolvedFrom heap 0 (tables.take bundle.slots)).map
        (List.map fun each => ⟨bundle.key, each.1, each.2⟩)
  uncached : (∀ other, used other → other.kernel = bundle.kernel → other.key = bundle.key) →
    (cache.groups heap bundle tables).result = (groups [] heap bundle tables).result

theorem Kept.transparent (kept : Kept used heap cache) (isUsed : used bundle)
    (tables : List (Option DescriptorRange)) : Transparent used cache heap bundle tables := by
  obtain ⟨_, resolved, origin⟩ := kept.groupsFrom isUsed 0 (tables.take bundle.slots)
  have fresh := (kept_nil (· = bundle) heap).result_groups rfl
    (fun other same _ => congrArg Bundle.key same) tables
  refine ⟨resolved, origin, fresh, ?_⟩
  intro alone
  rw [fresh]
  exact kept.result_groups isUsed alone tables

end BindGroupCache

namespace GpuQueue

variable {used : Bundle → Prop} {queue : GpuQueue} {heap : DescriptorHeap}

/-- A queue and the heap of its device after submissions that use no other bundles than these,
with anything written to the heap in between. -/
inductive History (used : Bundle → Prop) : GpuQueue → DescriptorHeap → Prop
  | new (label : String) (capacity : Nat) : History used (new label) (DescriptorHeap.new capacity)
  | submits {queue : GpuQueue} {heap : DescriptorHeap} (history : History used queue heap)
      (fence : Fence) {submission : Submission}
      (only : ∀ stream ∈ submission.streams, BindGroupCache.BindsOnly used stream.commands) :
      History used (queue.submit fence heap submission).state.queue heap
  | drains {queue : GpuQueue} {heap : DescriptorHeap} (history : History used queue heap)
      (carry : Carrier) (fence : Fence) (scene : Scene) :
      History used (queue.drain carry fence heap scene).queue heap
  | allocates {queue : GpuQueue} {heap after : DescriptorHeap} (history : History used queue heap)
      {count : Nat} {range : DescriptorRange}
      (allocated : heap.allocate count = .ok (after, range)) : History used queue after
  | writes {queue : GpuQueue} {heap after : DescriptorHeap} (history : History used queue heap)
      {index : Nat} {buffer : Buffer} (written : heap.write index buffer = .ok after) :
      History used queue after
  | publishes {queue : GpuQueue} {heap : DescriptorHeap} (history : History used queue heap)
      (buffers : List Buffer) : History used queue (heap.publish buffers).1

theorem cache_submit (queue : GpuQueue) (fence : Fence) (heap : DescriptorHeap)
    (submission : Submission) :
    (queue.submit fence heap submission).state.queue.cache =
      (queue.cache.encodeAll heap submission.streams).state := by
  unfold submit
  dsimp only
  cases (queue.cache.encodeAll heap submission.streams).result <;> rfl

/-- All groups that a queue keeps are genuine. -/
theorem History.kept (history : History used queue heap) :
    BindGroupCache.Kept used heap queue.cache := by
  induction history with
  | new label capacity => exact BindGroupCache.kept_nil used _
  | @submits queue heap _ fence submission only inductionHypothesis =>
      rw [cache_submit]
      exact inductionHypothesis.encodeAll only
  | drains _ carry fence scene inductionHypothesis => exact inductionHypothesis
  | allocates _ allocated inductionHypothesis =>
      exact inductionHypothesis.grown (DescriptorHeap.grows_allocate allocated)
  | writes _ written inductionHypothesis =>
      exact inductionHypothesis.grown (DescriptorHeap.grows_write written)
  | @publishes queue heap _ buffers inductionHypothesis =>
      exact inductionHypothesis.grown (heap.grows_publish buffers)

/-- Keeping groups is invisible at every dispatch, apart from the layouts of bundles that share a
name. -/
theorem transparent_of_history (history : History used queue heap) {ahead : List Stream}
    {front : List Command}
    (aheadOnly : ∀ stream ∈ ahead, BindGroupCache.BindsOnly used stream.commands)
    (frontOnly : BindGroupCache.BindsOnly used front) {bundle : Bundle} (isUsed : used bundle)
    (tables : List (Option DescriptorRange)) :
    BindGroupCache.Transparent used (queue.cache.reached heap ahead front) heap bundle tables := by
  have reached : BindGroupCache.Kept used heap (queue.cache.reached heap ahead front) :=
    (history.kept.encodeAll aheadOnly).encode_none frontOnly
  exact reached.transparent isUsed tables

/-! ## Two bundles of one name -/

def published : DescriptorHeap := ((DescriptorHeap.new 4).publish [⟨0, 4⟩]).1

def named (key : Nat) : Bundle := ⟨key, "kernel", 1, Catalogue.noop⟩

def dispatching (key : Nat) : List Command :=
  [.setPipeline (named key), .setTable 0 ⟨0, 1⟩, .dispatch ⟨1, 1, 1⟩]

def keeping : GpuQueue :=
  ((GpuQueue.new defaultLabel).submit ⟨1, 0⟩ published
    ⟨1, [⟨⟨1⟩, .compute, dispatching 0⟩]⟩).state.queue

theorem bindsOnly_dispatching (key : Nat) :
    BindGroupCache.BindsOnly (· = named key) (dispatching key) := by
  intro bundle member
  simpa [dispatching] using member

theorem history_keeping {used : Bundle → Prop} (isUsed : used (named 0)) :
    History used keeping published := by
  refine History.submits (History.publishes (History.new defaultLabel 4) [⟨0, 4⟩]) ⟨1, 0⟩ ?_
  intro stream member bundle bound
  rw [List.mem_singleton.mp member] at bound
  rw [bindsOnly_dispatching 0 bundle bound]
  exact isUsed

/-- A second dispatch of the bundle gets the group that would be built for it. -/
theorem transparent_of_keeping :
    History (· = named 0) keeping published ∧
      BindGroupCache.Transparent (· = named 0)
        (keeping.cache.reached published [] (dispatching 0)) published (named 0)
        [some ⟨0, 1⟩] ∧
      ((keeping.cache.reached published [] (dispatching 0)).groups published (named 0)
        [some ⟨0, 1⟩]).result = (BindGroupCache.groups [] published (named 0)
          [some ⟨0, 1⟩]).result := by
  have history : History (· = named 0) keeping published := history_keeping rfl
  have none : ∀ stream ∈ ([] : List Stream),
      BindGroupCache.BindsOnly (· = named 0) stream.commands := nofun
  have transparent : BindGroupCache.Transparent (· = named 0)
      (keeping.cache.reached published [] (dispatching 0)) published (named 0)
      [some ⟨0, 1⟩] :=
    transparent_of_history history none (bindsOnly_dispatching 0) rfl _
  exact ⟨history, transparent, transparent.uncached fun _ same _ => congrArg Bundle.key same⟩

/-- A bundle of the same name gets that group too, where one of its own would be built. -/
theorem groups_of_shared_name :
    History (fun _ => True) keeping published ∧
      (keeping.cache.groups published (named 1) [some ⟨0, 1⟩]).result =
        .ok [⟨(named 0).key, 0, [⟨0, 4⟩]⟩] ∧
      (BindGroupCache.groups [] published (named 1) [some ⟨0, 1⟩]).result =
        .ok [⟨(named 1).key, 0, [⟨0, 4⟩]⟩] ∧
      (named 0).key ≠ (named 1).key :=
  ⟨history_keeping trivial, rfl, rfl, by decide⟩

end GpuQueue

end CommandQueue
