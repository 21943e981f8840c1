import CommandQueue.Proofs.Atomicity
import CommandQueue.Proofs.Sizes

/-!
# Recordings without dispatches

A recording that only binds and copies means the same to both queues: the soft
queue interprets it, the GPU queue encodes it, and either way the bytes move as
the copies say, in the order in which they were recorded.  The device behind the
GPU queue is known by how it copies (`Copier`).  Nothing is assumed of copies
that it need not carry out: those inside one storage, and those that do not fall
on whole words.
-/

namespace CommandQueue

/-! ## Copies -/

namespace Memory

/-- Every device carries out such a copy: between two storages of the memory, inside both of them,
and by whole words. -/
structure Permits (memory : Memory) (region : CopyRegion) : Prop where
  source : memory.Holds region.source
  target : memory.Holds region.target
  distinct : region.source.storage ≠ region.target.storage
  inBounds : region.InBounds
  aligned : region.sourceOffset % 4 = 0 ∧ region.targetOffset % 4 = 0 ∧ region.size % 4 = 0

theorem Permits.extended {memory after : Memory} {region : CopyRegion}
    (permits : memory.Permits region) (extended : memory.Extends after) : after.Permits region :=
  { permits with
    source := extended _ permits.source
    target := extended _ permits.target }

end Memory

namespace Copier

/-- The device carries out every copy that all devices carry out. -/
def Faithful (copier : Copier) : Prop :=
  ∀ (memory : Memory) (region : CopyRegion), memory.Permits region →
    copier memory region = memory.copy region

variable {copier : Copier} {memory current : Memory} {regions : List CopyRegion}

theorem extends_foldl_copy (permitted : ∀ region ∈ regions, memory.Permits region)
    (extended : memory.Extends current) : memory.Extends (regions.foldl Memory.copy current) := by
  induction regions generalizing current with
  | nil => exact extended
  | cons region rest inductionHypothesis =>
      obtain ⟨first, others⟩ := List.forall_mem_cons.mp permitted
      have now := first.extended extended
      exact inductionHypothesis others
        (extended.trans (Memory.extends_copy now.target now.inBounds))

theorem Faithful.foldl_eq (faithful : copier.Faithful)
    (permitted : ∀ region ∈ regions, memory.Permits region) (extended : memory.Extends current) :
    regions.foldl copier current = regions.foldl Memory.copy current := by
  induction regions generalizing current with
  | nil => rfl
  | cons region rest inductionHypothesis =>
      obtain ⟨first, others⟩ := List.forall_mem_cons.mp permitted
      have now := first.extended extended
      rw [List.foldl_cons, List.foldl_cons, faithful current region now]
      exact inductionHypothesis others
        (extended.trans (Memory.extends_copy now.target now.inBounds))

end Copier

/-! ## Commands -/

namespace Command

/-- The command binds something, or it is a copy that every device carries out. -/
def Plain (memory : Memory) : Command → Prop
  | .setPipeline _ | .setTable .. => True
  | .copyRegion region => memory.Permits region
  | .dispatch _ => False

def regions (commands : List Command) : List CopyRegion := commands.filterMap Command.region?

theorem permits_of_plain {memory : Memory} {commands : List Command}
    (plain : ∀ command ∈ commands, command.Plain memory) :
    ∀ region ∈ regions commands, memory.Permits region := by
  intro region member
  obtain ⟨command, chosen, copies⟩ := List.mem_filterMap.mp member
  have allowed := plain command chosen
  cases command with
  | copyRegion own =>
      cases copies
      exact allowed
  | _ => cases copies

end Command

namespace Stream

def regions (streams : List Stream) : List CopyRegion :=
  streams.flatMap fun stream => Command.regions stream.commands

def Plain (memory : Memory) (streams : List Stream) : Prop :=
  ∀ stream ∈ streams, ∀ command ∈ stream.commands, command.Plain memory

theorem Plain.permits {memory : Memory} {streams : List Stream} (plain : Plain memory streams) :
    ∀ region ∈ regions streams, memory.Permits region := by
  intro region member
  obtain ⟨stream, chosen, own⟩ := List.mem_flatMap.mp member
  exact Command.permits_of_plain (plain stream chosen) region own

end Stream

/-! ## The soft queue -/

theorem Execution.run_of_plain {memory : Memory} {commands : List Command}
    (plain : ∀ command ∈ commands, command.Plain memory) (heap : DescriptorHeap)
    (execution : Execution) :
    (execution.run heap commands).scene =
        { execution.scene with
          memory := (Command.regions commands).foldl Memory.copy execution.scene.memory } ∧
      (execution.run heap commands).failures = execution.failures := by
  induction commands generalizing execution with
  | nil => exact ⟨rfl, rfl⟩
  | cons command rest inductionHypothesis =>
      obtain ⟨first, others⟩ := List.forall_mem_cons.mp plain
      rw [Execution.run_cons]
      obtain ⟨scene, failures⟩ := inductionHypothesis others (execution.step heap command)
      rw [scene, failures]
      cases command with
      | dispatch grid => exact first.elim
      | _ => exact ⟨rfl, rfl⟩

theorem Stream.runAll_of_plain {memory : Memory} {streams : List Stream}
    (plain : Stream.Plain memory streams) (heap : DescriptorHeap) (scene : Scene) :
    Stream.runAll heap streams scene =
      ⟨{ scene with memory := (Stream.regions streams).foldl Memory.copy scene.memory }, []⟩ := by
  induction streams generalizing scene with
  | nil => rfl
  | cons stream rest inductionHypothesis =>
      obtain ⟨first, others⟩ := List.forall_mem_cons.mp plain
      obtain ⟨ran, failures⟩ := Execution.run_of_plain first heap (Execution.start scene)
      rw [Stream.runAll, Stream.run, ran, failures, inductionHypothesis others]
      simp [Stream.regions, Execution.start, List.foldl_append]

/-- Of an idle queue the next submission is run at once. -/
theorem SoftQueue.drain_accept {queue : SoftQueue} (idle : queue.pending = [])
    (submission : Submission) (fence : Fence) (heap : DescriptorHeap) (scene : Scene) :
    let ran := (queue.accept submission).drain fence heap scene
    ran.queue.pending = [] ∧ ran.fence = (fence.complete? submission.signal).getD fence ∧
      ran.scene = (Stream.runAll heap submission.streams scene).scene := by
  simp [drain, accept, idle, runMany, runNext]

/-! ## The GPU queue -/

namespace BindGroupCache

variable {memory : Memory}

/-- Without dispatches nothing is refused and no group is built. -/
theorem encode_of_plain {commands : List Command}
    (plain : ∀ command ∈ commands, command.Plain memory) (cache : BindGroupCache)
    (heap : DescriptorHeap) (bindings : Bindings) :
    cache.encode heap bindings commands =
      .done cache ((Command.regions commands).map Encoded.copy) [] := by
  induction commands generalizing bindings with
  | nil => rfl
  | cons command rest inductionHypothesis =>
      obtain ⟨first, others⟩ := List.forall_mem_cons.mp plain
      have behind := inductionHypothesis others (bindings.apply command)
      cases command with
      | dispatch grid => exact first.elim
      | copyRegion region =>
          rw [encode, behind, Outcome.done_andThen]
          rfl
      | setPipeline bundle =>
          rw [encode]
          exact behind
      | setTable slot range =>
          rw [encode]
          exact behind

theorem encodeAll_of_plain {streams : List Stream} (plain : Stream.Plain memory streams)
    (cache : BindGroupCache) (heap : DescriptorHeap) :
    cache.encodeAll heap streams =
      .done cache ((Stream.regions streams).map Encoded.copy) [] := by
  induction streams with
  | nil => rfl
  | cons stream rest inductionHypothesis =>
      obtain ⟨first, others⟩ := List.forall_mem_cons.mp plain
      rw [encodeAll, encode_of_plain first, Outcome.done_andThen, inductionHypothesis others,
        Outcome.done_andThen]
      simp [Stream.regions]

end BindGroupCache

namespace GpuQueue

theorem submit_of_plain {memory : Memory} {submission : Submission}
    (plain : Stream.Plain memory submission.streams) (queue : GpuQueue) (fence : Fence)
    (heap : DescriptorHeap) :
    queue.submit fence heap submission =
      .done ⟨{ queue with
        pending := queue.pending ++
          [⟨submission.signal, (Stream.regions submission.streams).map Encoded.copy⟩] }, fence⟩ ()
        [] := by
  rw [submit, BindGroupCache.encodeAll_of_plain plain]
  rfl

theorem drain_of_idle {queue : GpuQueue} (idle : queue.pending = [])
    (carry : Carrier) (fence : Fence) (heap : DescriptorHeap) (scene : Scene) :
    queue.drain carry fence heap scene = ⟨queue, fence, scene, []⟩ := by
  have same : { queue with pending := [] } = queue := by rw [← idle]
  rw [drain, idle, carryOutAll, same]

theorem drain_of_copies {queue : GpuQueue} {signal : FenceValue} {regions : List CopyRegion}
    (pending : queue.pending = [⟨signal, regions.map Encoded.copy⟩]) (copier : Copier)
    (fence : Fence) (heap : DescriptorHeap) (scene : Scene) :
    queue.drain (carryOut copier) fence heap scene =
      ⟨{ queue with pending := [] }, (fence.complete? signal).getD fence,
        { scene with memory := regions.foldl copier scene.memory }, []⟩ := by
  have copies : (regions.map Encoded.copy).filterMap Encoded.region? = regions := by
    rw [List.filterMap_map]
    exact List.filterMap_some
  rw [drain, pending, carryOutAll, foldl_carryOut, copies]
  rfl

end GpuQueue

/-- A GPU queue on a device that copies in its own way. -/
def CopyingQueue (_ : Copier) : Type := GpuQueue

instance (copier : Copier) : Queue (CopyingQueue copier) where
  label := GpuQueue.label
  commandWidth _ := GpuQueue.commandWidth
  holds _ _ := false
  submit := GpuQueue.submit
  settle := GpuQueue.drain (GpuQueue.carryOut copier)

def CopyingQueue.new (copier : Copier) (label : String) : CopyingQueue copier := GpuQueue.new label

end CommandQueue
