import CommandQueue.Queue

/-!
# The GPU queue

The GPU queue encodes a whole submission before it takes any of it.  For each
dispatch it builds a bind group from every bound table that the kernel reads,
and keeps the groups for later dispatches of the same kernel name, slot and
range.  A table that cannot be resolved refuses the submission, and then nothing
of it takes effect; the groups built until then are kept.  The device behind
the queue is known by what it makes of each encoded command.  The one that runs
here copies at once, and its passes run no work group.
-/

namespace CommandQueue

/-- What tells kept bind groups apart. -/
structure BindGroupKey where
  kernel : KernelId
  slot : Nat
  range : DescriptorRange
  deriving DecidableEq, Repr

/-- Buffers bound together for one table slot of one pipeline. -/
structure BindGroup where
  /-- The bundle whose layout the group was built for. -/
  bundle : Nat
  slot : Nat
  buffers : List Buffer
  deriving DecidableEq, Repr

/-- The bind groups kept, the last built first. -/
abbrev BindGroupCache := List (BindGroupKey × BindGroup)

inductive Encoded where
  | copy (region : CopyRegion)
  | pass (bundle : Nat) (groups : List BindGroup) (grid : Extent)
  deriving DecidableEq, Repr

/-- How a device copies. -/
abbrev Copier := Memory → CopyRegion → Memory

/-- What a device makes of an encoded command. -/
abbrev Carrier := Memory → Encoded → Memory

/-- Encoded commands with the value to complete after them. -/
structure EncodedSubmission where
  signal : FenceValue
  commands : List Encoded
  deriving DecidableEq, Repr

structure GpuQueue where
  label : String
  cache : BindGroupCache
  /-- The submissions not yet carried out, the oldest first. -/
  pending : List EncodedSubmission
  deriving DecidableEq, Repr

namespace BindGroupCache

/-- The group of one table slot, kept or built. -/
def group (cache : BindGroupCache) (heap : DescriptorHeap) (bundle : Bundle) (slot : Nat)
    (range : DescriptorRange) : Outcome BindGroupCache BindGroup :=
  let key : BindGroupKey := ⟨bundle.kernel, slot, range⟩
  match cache.lookup key with
  -- The key holds the name of the kernel only: the group may be that of another bundle.
  | some kept => .done cache kept []
  | none =>
      match heap.resolve range with
      | .error error => .refused cache error []
      | .ok buffers =>
          let built : BindGroup := ⟨bundle.key, slot, buffers⟩
          .done ((key, built) :: cache) built [.bindGroupCreated bundle.kernel slot range]

/-- The groups of table slots in a row; a slot without a range has none. -/
def groupsFrom (cache : BindGroupCache) (heap : DescriptorHeap) (bundle : Bundle) (slot : Nat) :
    List (Option DescriptorRange) → Outcome BindGroupCache (List BindGroup)
  | [] => .done cache [] []
  | none :: rest => cache.groupsFrom heap bundle (slot + 1) rest
  | some range :: rest =>
      (cache.group heap bundle slot range).andThen fun grown first =>
        (grown.groupsFrom heap bundle (slot + 1) rest).andThen fun final others =>
          .done final (first :: others) []

def groups (cache : BindGroupCache) (heap : DescriptorHeap) (bundle : Bundle)
    (tables : List (Option DescriptorRange)) : Outcome BindGroupCache (List BindGroup) :=
  cache.groupsFrom heap bundle 0 (tables.take bundle.slots)

def encode (cache : BindGroupCache) (heap : DescriptorHeap) (bindings : Bindings) :
    List Command → Outcome BindGroupCache (List Encoded)
  | [] => .done cache [] []
  | command :: rest =>
      let next := bindings.apply command
      match command with
      | .setPipeline _ | .setTable .. => cache.encode heap next rest
      | .copyRegion region =>
          (cache.encode heap next rest).andThen fun final others =>
            .done final (.copy region :: others) []
      | .dispatch grid =>
          match bindings.pipeline with
          | none => .refused cache (.backend "dispatch without pipeline") []
          | some bundle =>
              (cache.groups heap bundle bindings.tables).andThen fun grown groups =>
                (grown.encode heap next rest).andThen fun final others =>
                  .done final (.pass bundle.key groups grid :: others) []

/-- Encode streams in order, each beginning with nothing bound. -/
def encodeAll (cache : BindGroupCache) (heap : DescriptorHeap) :
    List Stream → Outcome BindGroupCache (List Encoded)
  | [] => .done cache [] []
  | stream :: rest =>
      (cache.encode heap Bindings.none stream.commands).andThen fun grown first =>
        (grown.encodeAll heap rest).andThen fun final others =>
          .done final (first ++ others) []

end BindGroupCache

namespace GpuQueue

def defaultLabel : String := "wgpu"

/-- The number of bytes that a command takes: a copy holds two buffers of four words each. -/
def commandWidth : Nat := 96

def new (label : String) : GpuQueue := ⟨label, [], []⟩

/-- Encode a submission and take it, if all of it can be encoded. -/
def submit (queue : GpuQueue) (fence : Fence) (heap : DescriptorHeap)
    (submission : Submission) : Outcome (Clocked GpuQueue) Unit :=
  let encoded := queue.cache.encodeAll heap submission.streams
  -- Groups that were built before a refusal are kept too.
  let kept := { queue with cache := encoded.state }
  match encoded.result with
  | .error error => .refused ⟨kept, fence⟩ error encoded.events
  | .ok commands =>
      let taken := { kept with pending := kept.pending ++ [⟨submission.signal, commands⟩] }
      .done ⟨taken, fence⟩ () encoded.events

/-- The device copies in its own way, and its passes run no work group. -/
def carryOut (copier : Copier) : Carrier
  | memory, .copy region => copier memory region
  | memory, .pass .. => memory

/-- Carry out encoded submissions in order and complete their signals. -/
def carryOutAll (carry : Carrier) : List EncodedSubmission → Fence → Scene → Fence × Scene
  | [], fence, scene => (fence, scene)
  | submission :: rest, fence, scene =>
      carryOutAll carry rest ((fence.complete? submission.signal).getD fence)
        { scene with memory := submission.commands.foldl carry scene.memory }

def drain (carry : Carrier) (queue : GpuQueue) (fence : Fence) (_ : DescriptorHeap)
    (scene : Scene) : Settled GpuQueue :=
  let (completed, final) := carryOutAll carry queue.pending fence scene
  ⟨{ queue with pending := [] }, completed, final, []⟩

/-- An encoded submission no longer refers to the streams it was made from. -/
instance : Queue GpuQueue where
  label := label
  commandWidth _ := commandWidth
  holds _ _ := false
  submit := submit
  settle := drain (carryOut Memory.copy)

end GpuQueue

end CommandQueue
