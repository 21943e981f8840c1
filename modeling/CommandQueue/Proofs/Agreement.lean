import CommandQueue.Proofs.Descriptors
import CommandQueue.Proofs.Recasting

/-!
# Agreement of the two queues

A `Client` works through a script of operations on one device, and the queue of
the device runs whatever it took before the next operation.  As long as nothing
but binding calls and copies is recorded, the answers and the memory at the end
are the same on a soft queue and on a GPU queue, if new storages are set aside in
the same way on both.  `Client.Agrees` is what one operation keeps.
-/

namespace CommandQueue

/-! ## Scripts -/

/-- A list in an operation: one of the device by its identity, or one of another device. -/
inductive Named where
  | own (list : ListId)
  | foreign (list : CommandList)

inductive Operation where
  | opens (category : Category)
  | records (list : ListId) (call : Call)
  | closes (list : ListId)
  | executes (slice : List Named)
  | executesAndWaits (list : ListId)
  | drops (list : ListId)
  | inspects (list : ListId)
  /-- Hand out places of the heap or write to them. -/
  | arranges (call : HeapCall)
  | looksUp (index : Nat)
  | resolves (range : DescriptorRange)
  | asks (value : FenceValue)
  | waits (value : FenceValue)
  | waitsForAll
  | counts
  | surveys (category : Category)

inductive Answer where
  | done
  | failed (error : Error)
  /-- The operation names no list. -/
  | unknown
  /-- The wait would not end. -/
  | blocked
  | opened (list : ListId) (allocator : AllocatorId)
  | signalled (value : FenceValue)
  | inspected (list : CommandList)
  | arranged (range : Option DescriptorRange)
  | found (buffer : Option Buffer)
  | resolved (buffers : List Buffer)
  | flag (reached : Bool)
  | counted (stats : DeviceStats)
  /-- The idle allocators of a pool with their stamps, and how many allocators there are. -/
  | surveyed (live : Nat) (idle : List (AllocatorId × FenceValue))

def Answer.of {α : Type} (result : Except Error α) (reply : α → Answer) : Answer :=
  match result with
  | .error error => .failed error
  | .ok value => reply value

/-- A device in use with the memory of its buffers. -/
structure Client (σ : Type) where
  world : World σ
  scene : Scene

namespace Client

variable {σ : Type}

/-- The list that a name stands for; a list of another device has that device's key. -/
def named? (client : Client σ) : Named → Option CommandList
  | .own list => client.world.lists.find? fun each => each.id == list
  | .foreign list => if list.device = client.world.device.key then none else some list

def onList (client : Client σ) (list : ListId)
    (work : CommandList → Client σ × Answer) : Client σ × Answer :=
  match client.named? (.own list) with
  | none => (client, .unknown)
  | some found => work found

section Queued

variable [Queue σ]

def settled (client : Client σ) : Client σ :=
  let (device, scene, _) := client.world.device.settle client.scene
  ⟨{ client.world with device := device }, scene⟩

/-- Put back what came of handing lists over, and let the queue run. -/
def handOver (client : Client σ) (slice : List CommandList) (executed : Device.Executed σ) :
    Client σ × Answer :=
  (settled { client with world := client.world.handOver slice executed },
    .of executed.result .signalled)

def waitFor (client : Client σ) (value : FenceValue) : Client σ × Answer :=
  (client, .of (client.world.device.fence.reached value) fun reached =>
    if reached then .done else .blocked)

def perform (client : Client σ) : Operation → Client σ × Answer
  | .opens category =>
      ({ client with world := client.world.openList category },
        .of (client.world.device.openList category).result fun list =>
          .opened list.id list.allocator.id)
  | .records list call => client.onList list fun found =>
      ({ client with world := client.world.record found call },
        .of (found.record call) fun _ => .done)
  | .closes list => client.onList list fun found =>
      ({ client with world := client.world.close found }, .of found.close fun _ => .done)
  | .executes slice =>
      match slice.mapM client.named? with
      | none => (client, .unknown)
      | some lists => client.handOver lists (client.world.device.execute lists)
  | .executesAndWaits list => client.onList list fun found =>
      client.handOver [found] (client.world.device.executeOpen found)
  | .drops list => client.onList list fun found =>
      ({ client with world := client.world.drop found }, .done)
  | .inspects list => client.onList list fun found => (client, .inspected found)
  | .arranges call =>
      let (heap, result) := client.world.device.heap.call call
      ({ client with
          world := { client.world with device := { client.world.device with heap := heap } } },
        .of result .arranged)
  | .looksUp index => (client, .found (client.world.device.heap.get? index))
  | .resolves range => (client, .of (client.world.device.heap.resolve range) .resolved)
  | .asks value => (client, .of (client.world.device.fence.reached value) .flag)
  | .waits value => client.waitFor value
  | .waitsForAll => client.waitFor client.world.device.fence.issued
  | .counts => (client, .counted client.world.device.stats)
  | .surveys category =>
      let pool := client.world.device.pool category
      (client, .surveyed pool.live pool.available)

def run (client : Client σ) : List Operation → Client σ × List Answer
  | [] => (client, [])
  | operation :: rest =>
      let (next, answer) := client.perform operation
      let (last, answers) := next.run rest
      (last, answer :: answers)

def new (key : Nat) (queue : σ) (config : DeviceConfig) (memory : Memory) :
    Except Error (Client σ) :=
  (Device.create key queue config).1.map fun device => ⟨World.start device, ⟨memory, []⟩⟩

/-- What a script is answered on a new device, and what it leaves in the memory. -/
def serve (key : Nat) (queue : σ) (config : DeviceConfig) (memory : Memory)
    (script : List Operation) : Except Error (List Answer × Memory) :=
  (new key queue config memory).map fun client =>
    let (last, answers) := client.run script
    (answers, last.scene.memory)

/-- If the operation records a command, then a plain one. -/
def Records (memory : Memory) (client : Client σ) : Operation → Prop
  | .records list call => ∀ found next, client.named? (.own list) = some found →
      found.record call = .ok next → call.command.Plain memory
  | _ => True

/-- Whatever the script records is plain. -/
def RecordsAll (memory : Memory) (client : Client σ) : List Operation → Prop
  | [] => True
  | operation :: rest =>
      client.Records memory operation ∧ (client.perform operation).1.RecordsAll memory rest

end Queued

end Client

/-! ## The same client on the other queue -/

variable {copier : Copier}

namespace World

def onGpu (world : World SoftQueue) (queue : CopyingQueue copier) : World (CopyingQueue copier) :=
  ⟨world.device.onGpu queue, world.lists, world.journal, world.entries⟩

variable {world : World SoftQueue}

theorem openList_onGpu (alike : world.device.StoresAlike) (idle : world.device.queue.pending = [])
    (queue : CopyingQueue copier) (category : Category) :
    (world.onGpu queue).openList category = (world.openList category).onGpu queue := by
  have same : (world.onGpu queue).device.openList category = _ :=
    Device.openList_onGpu alike idle category
  unfold openList
  rw [same]
  generalize world.device.openList category = opened
  obtain ⟨_, result, _⟩ := opened
  cases result <;> rfl

theorem record_onGpu (world : World SoftQueue) (queue : CopyingQueue copier) (list : CommandList)
    (call : Call) : (world.onGpu queue).record list call = (world.record list call).onGpu queue := by
  unfold record
  cases list.record call <;> rfl

theorem close_onGpu (world : World SoftQueue) (queue : CopyingQueue copier) (list : CommandList) :
    (world.onGpu queue).close list = (world.close list).onGpu queue := by
  unfold close
  cases list.close <;> rfl

theorem drop_onGpu (idle : world.device.queue.pending = []) (queue : CopyingQueue copier)
    (list : CommandList) : (world.onGpu queue).drop list = (world.drop list).onGpu queue := by
  have same : (world.onGpu queue).device.retire list = _ := Device.retire_onGpu idle list
  unfold drop
  rw [same]
  rfl

theorem mem_keep {lists returned : List CommandList} {list : CommandList}
    (member : list ∈ keep lists returned) :
    list ∈ lists ∨ list ∈ returned ∧ ∃ before ∈ lists, list.device = before.device := by
  obtain ⟨before, known, shape⟩ := List.mem_map.mp member
  cases found : returned.find? before.isSame with
  | none =>
      rw [found] at shape
      rw [← shape]
      exact Or.inl known
  | some other =>
      rw [found] at shape
      rw [← shape]
      have same := (CommandList.isSame_iff.mp (List.find?_some found)).1
      exact Or.inr ⟨List.mem_of_find?_eq_some found, before, known, same.symm⟩

end World

namespace Client

def onGpu (client : Client SoftQueue) (queue : CopyingQueue copier) :
    Client (CopyingQueue copier) :=
  ⟨client.world.onGpu queue, client.scene⟩

def Idle (queue : CopyingQueue copier) : Prop := GpuQueue.pending queue = []

/-- The list is one of the device, and what it has recorded is plain. -/
structure Fit (key : Nat) (memory : Memory) (list : CommandList) : Prop where
  own : list.device = key
  plain : ∀ command ∈ list.recorded, command.Plain memory

/-- What holds between the operations of a script. -/
structure Tidy (memory : Memory) (client : Client SoftQueue) : Prop where
  idle : client.world.device.queue.pending = []
  alike : client.world.device.StoresAlike
  extended : memory.Extends client.scene.memory
  lists : ∀ list ∈ client.world.lists, Fit client.world.device.key memory list

variable {memory : Memory} {client : Client SoftQueue} {queue : CopyingQueue copier}

/-- An operation leads to the same client on both queues, and to the same answer. -/
def Agrees (copier : Copier) (memory : Memory) (soft : Client SoftQueue × Answer)
    (gpu : Client (CopyingQueue copier) × Answer) : Prop :=
  soft.1.Tidy memory ∧ ∃ next : CopyingQueue copier, Idle next ∧ gpu = (soft.1.onGpu next, soft.2)

theorem Fit.append {key : Nat} {list : CommandList} (fit : Fit key memory list) {command : Command}
    (plain : command.Plain memory) : Fit key memory (list.append command) := by
  refine ⟨fit.own, ?_⟩
  rw [CommandList.recorded_append, List.forall_mem_append]
  exact ⟨fit.plain, List.forall_mem_singleton.mpr plain⟩

theorem Tidy.fit_keep (tidy : client.Tidy memory) {returned : List CommandList}
    (fit : ∀ list ∈ returned, list.device = client.world.device.key →
      Fit client.world.device.key memory list) :
    ∀ list ∈ World.keep client.world.lists returned, Fit client.world.device.key memory list := by
  intro list member
  rcases World.mem_keep member with same | ⟨new, before, known, own⟩
  · exact tidy.lists list same
  · exact fit list new (own.trans (tidy.lists before known).own)

theorem Tidy.fit_of_named (tidy : client.Tidy memory) {name : Named} {list : CommandList}
    (found : client.named? name = some list) (own : list.device = client.world.device.key) :
    Fit client.world.device.key memory list := by
  cases name with
  | own id => exact tidy.lists list (List.mem_of_find?_eq_some found)
  | foreign other =>
      rw [named?] at found
      split at found
      · cases found
      · rename_i apart
        cases found
        exact absurd own apart

theorem settled_of_ran {σ : Type} [Queue σ] {client : Client σ} {after : Settled σ}
    (ran : Queue.settle client.world.device.queue client.world.device.fence
      client.world.device.heap client.scene = after) :
    client.settled =
      ⟨{ client.world with
          device := { client.world.device with queue := after.queue, fence := after.fence } },
        after.scene⟩ := by
  rw [settled, Device.settle, ran]

theorem settled_of_idle (idle : client.world.device.queue.pending = []) :
    client.settled = client := by
  have still : Queue.settle client.world.device.queue client.world.device.fence
      client.world.device.heap client.scene =
        ⟨client.world.device.queue, client.world.device.fence, client.scene, []⟩ := by
    change SoftQueue.drain _ _ _ _ = _
    rw [SoftQueue.drain, idle]
    rfl
  rw [settled_of_ran still]

theorem settled_onGpu (client : Client SoftQueue) (idle : Idle queue) :
    (client.onGpu queue).settled = client.onGpu queue := by
  have still : Queue.settle (client.onGpu queue).world.device.queue
      (client.onGpu queue).world.device.fence (client.onGpu queue).world.device.heap
      (client.onGpu queue).scene = ⟨queue, client.world.device.fence, client.scene, []⟩ :=
    GpuQueue.drain_of_idle idle (GpuQueue.carryOut copier) client.world.device.fence
      client.world.device.heap client.scene
  rw [settled_of_ran still]
  rfl

/-- Lists that are refused come back, and the queue has nothing to do. -/
theorem Tidy.refused (tidy : client.Tidy memory) (idle : Idle queue) {slice : List CommandList}
    (fit : ∀ list ∈ slice, list.device = client.world.device.key →
      Fit client.world.device.key memory list) (error : Error) :
    Agrees copier memory (client.handOver slice ⟨client.world.device, slice, .error error, []⟩)
      ((client.onGpu queue).handOver slice
        ⟨client.world.device.onGpu queue, slice, .error error, []⟩) := by
  let kept : Client SoftQueue :=
    { client with world := { client.world with lists := World.keep client.world.lists slice } }
  have soft : client.handOver slice ⟨client.world.device, slice, .error error, []⟩ =
      (kept, .failed error) := by
    change (kept.settled, _) = _
    rw [@settled_of_idle kept tidy.idle]
    rfl
  have gpu : (client.onGpu queue).handOver slice
      ⟨client.world.device.onGpu queue, slice, .error error, []⟩ =
        (kept.onGpu queue, .failed error) := by
    change ((kept.onGpu queue).settled, _) = _
    rw [settled_onGpu kept idle]
    rfl
  rw [soft, gpu]
  exact ⟨⟨tidy.idle, tidy.alike, tidy.extended, tidy.fit_keep fit⟩, queue, idle, rfl⟩

def served {σ : Type} (client : Client σ) (slice : List CommandList) (after : Settled σ) :
    Client σ where
  world :=
    { device :=
        { client.world.device with
          queue := after.queue
          fence := after.fence
          submissions := client.world.device.submissions + 1 }
      lists := World.keep client.world.lists
        (slice.map fun list => list.freeze.markSubmitted client.world.device.fence.signalNext.2)
      journal := client.world.journal ++
        [.accepted client.world.device.fence.signalNext.2 (slice.map CommandList.id)]
      entries := client.world.entries ++
        [client.world.device.submission (slice.map CommandList.freeze)] }
  scene := after.scene

theorem handOver_of_taken {σ : Type} [Queue σ] {client : Client σ} {slice : List CommandList}
    {given : σ} {after : Settled σ} (own : client.world.device.ensureAllOwn slice = .ok ())
    (taken : client.world.device.offered slice =
      .done ⟨given, client.world.device.fence.signalNext.1⟩ () [])
    (ran : Queue.settle given client.world.device.fence.signalNext.1 client.world.device.heap
      client.scene = after) :
    client.handOver slice (client.world.device.execute slice) =
      (client.served slice after, .signalled client.world.device.fence.signalNext.2) := by
  have accepted : (client.world.device.offered slice).result = .ok () := by
    rw [taken]
    rfl
  obtain ⟨device, lists, result⟩ := Device.execute_of_taken own accepted
  rw [taken] at device
  generalize client.world.device.execute slice = executed at device lists result ⊢
  obtain ⟨_, _, _, _⟩ := executed
  subst device lists result
  rw [handOver, World.handOver]
  dsimp only
  rw [settled_of_ran ran]
  rfl

/-- Lists that are taken are run at once, and their copies move the same bytes. -/
theorem Tidy.taken (tidy : client.Tidy memory) (idle : Idle queue) (faithful : copier.Faithful)
    {slice : List CommandList} (own : client.world.device.ensureAllOwn slice = .ok ())
    (fit : ∀ list ∈ slice, Fit client.world.device.key memory list) :
    Agrees copier memory (client.handOver slice (client.world.device.execute slice))
      ((client.onGpu queue).handOver slice
        ((client.onGpu queue).world.device.execute slice)) := by
  let submission := client.world.device.submission (slice.map CommandList.freeze)
  let reserved := client.world.device.fence.signalNext.1
  have plain : Stream.Plain memory submission.streams := by
    intro stream member
    obtain ⟨frozen, frozenMember, rfl⟩ := List.mem_map.mp member
    obtain ⟨list, known, rfl⟩ := List.mem_map.mp frozenMember
    exact (fit list known).plain
  have copies := Stream.Plain.permits plain
  -- The soft queue interprets the submission.
  obtain ⟨left, completed, played⟩ := SoftQueue.drain_accept tidy.idle submission reserved
    client.world.device.heap client.scene
  rw [Stream.runAll_of_plain plain] at played
  generalize shape : (client.world.device.queue.accept submission).drain reserved
    client.world.device.heap client.scene = ran at left completed played
  obtain ⟨_, _, _, _⟩ := ran
  subst completed played
  have soft := @handOver_of_taken SoftQueue _ client slice
    (client.world.device.queue.accept submission) _ own rfl shape
  -- The GPU queue encodes it and carries out its copies.
  let given : GpuQueue :=
    { (queue : GpuQueue) with
      pending := [⟨submission.signal, (Stream.regions submission.streams).map Encoded.copy⟩] }
  have offered : (client.onGpu queue).world.device.offered slice =
      .done ⟨(given : CopyingQueue copier), reserved⟩ () [] := by
    have empty : GpuQueue.pending queue = [] := idle
    have taken := GpuQueue.submit_of_plain plain queue reserved client.world.device.heap
    rw [empty] at taken
    exact taken
  have drained := @GpuQueue.drain_of_copies given submission.signal
    (Stream.regions submission.streams) rfl copier reserved client.world.device.heap client.scene
  rw [faithful.foldl_eq copies tidy.extended] at drained
  have gpuOwn := (client.world.device.ensureAllOwn_onGpu queue slice).trans own
  have gpu := @handOver_of_taken _ _ (client.onGpu queue) slice given _ gpuOwn offered drained
  rw [soft]
  refine ⟨⟨left, ?_, Copier.extends_foldl_copy copies tidy.extended, ?_⟩,
    { given with pending := [] }, rfl, gpu.trans rfl⟩
  · intro category
    cases category with
    | compute => exact tidy.alike .compute
    | copy => exact tidy.alike .copy
  · refine tidy.fit_keep ?_
    intro list member _
    obtain ⟨before, known, rfl⟩ := List.mem_map.mp member
    exact ⟨(fit before known).own, (fit before known).plain⟩

theorem Tidy.still (tidy : client.Tidy memory) (idle : Idle queue) (answer : Answer) :
    Agrees copier memory (client, answer) (client.onGpu queue, answer) :=
  ⟨tidy, queue, idle, rfl⟩

theorem Tidy.onList (tidy : client.Tidy memory) (idle : Idle queue) {list : ListId}
    {soft : CommandList → Client SoftQueue × Answer}
    {gpu : CommandList → Client (CopyingQueue copier) × Answer}
    (each : ∀ found, client.named? (.own list) = some found →
      Fit client.world.device.key memory found → Agrees copier memory (soft found) (gpu found)) :
    Agrees copier memory (client.onList list soft) ((client.onGpu queue).onList list gpu) := by
  have same : (client.onGpu queue).named? (.own list) = client.named? (.own list) := rfl
  unfold Client.onList
  rw [same]
  cases named : client.named? (.own list) with
  | none => exact tidy.still idle .unknown
  | some found => exact each found named (tidy.lists found (List.mem_of_find?_eq_some named))

theorem Tidy.openList (tidy : client.Tidy memory) (category : Category) :
    Tidy memory { client with world := client.world.openList category } := by
  have reserve := (client.world.device.lends_requested category).reserve
  have alike := Device.storesAlike_withPool tidy.alike reserve
  obtain ⟨key, _, _, _, _, _, _, queue⟩ := client.world.device.withPool_frame category
    (client.world.device.requested category).state
  cases result : (client.world.device.requested category).result with
  | error error =>
      rw [World.openList_of_refused result]
      refine ⟨?_, alike, tidy.extended, ?_⟩
      · change (client.world.device.withPool category _).queue.pending = []
        rw [queue]
        exact tidy.idle
      · change ∀ list ∈ client.world.lists, Fit (client.world.device.withPool category _).key _ _
        rw [key]
        exact tidy.lists
  | ok allocator =>
      have unused : allocator.recorded = [] := Pool.recorded_of_acquire result
      rw [World.openList_of_lent result]
      refine ⟨?_, ?_, tidy.extended, ?_⟩
      · change (client.world.device.withPool category _).queue.pending = []
        rw [queue]
        exact tidy.idle
      · intro read
        cases read with
        | compute => exact alike .compute
        | copy => exact alike .copy
      · change ∀ list ∈ client.world.lists ++ [_],
          Fit (client.world.device.withPool category _).key _ _
        rw [key, List.forall_mem_append]
        refine ⟨tidy.lists, List.forall_mem_singleton.mpr ⟨rfl, ?_⟩⟩
        change ∀ command ∈ allocator.recorded, command.Plain memory
        rw [unused]
        exact fun _ none => nomatch none

theorem Tidy.keep (tidy : client.Tidy memory) {list : CommandList}
    (fit : Fit client.world.device.key memory list) (journal : Journal) :
    Tidy memory
      { client with
        world :=
          { client.world with
            lists := World.keep client.world.lists [list]
            journal := journal } } :=
  ⟨tidy.idle, tidy.alike, tidy.extended,
    tidy.fit_keep (List.forall_mem_singleton.mpr fun _ => fit)⟩

theorem Tidy.record (tidy : client.Tidy memory) {list : CommandList} {call : Call}
    (fit : Fit client.world.device.key memory list)
    (plain : ∀ next, list.record call = .ok next → call.command.Plain memory) :
    Tidy memory { client with world := client.world.record list call } := by
  unfold World.record
  cases result : list.record call with
  | error error => exact tidy
  | ok next =>
      have shape := CommandList.eq_append_of_record result
      have appended := fit.append (plain next result)
      rw [← shape] at appended
      exact tidy.keep appended _

theorem Tidy.close (tidy : client.Tidy memory) {list : CommandList}
    (fit : Fit client.world.device.key memory list) :
    Tidy memory { client with world := client.world.close list } := by
  unfold World.close
  cases result : list.close with
  | error error => exact tidy
  | ok closed =>
      obtain ⟨_, rfl⟩ := CommandList.close_eq_ok_iff.mp result
      have closed : Fit client.world.device.key memory { list with state := .closed } :=
        ⟨fit.own, fit.plain⟩
      exact tidy.keep closed client.world.journal

theorem Tidy.drop (tidy : client.Tidy memory) (list : CommandList) :
    Tidy memory { client with world := client.world.drop list } := by
  obtain ⟨key, _, _, _, _, _, queue⟩ := client.world.drop_frame list
  refine ⟨?_, ?_, tidy.extended, ?_⟩
  · change (client.world.drop list).device.queue.pending = []
    rw [queue]
    exact tidy.idle
  · intro read
    have alike := Device.storesAlike_withPool tidy.alike
      (rfl : ((client.world.device.pool list.allocator.category).putBack
        (list.allocator.givenBack list.retirementStamp client.world.device.held)).reserve =
          (client.world.device.pool list.allocator.category).reserve)
    change ((client.world.drop list).device.pool read).StoresAlike _
    rw [World.pool_drop]
    exact alike read
  · intro other member
    change Fit (client.world.drop list).device.key memory other
    rw [key]
    exact tidy.lists other (List.mem_of_mem_eraseP member)

theorem Tidy.handOver (tidy : client.Tidy memory) (idle : Idle queue) (faithful : copier.Faithful)
    {slice : List CommandList}
    (fit : ∀ list ∈ slice, list.device = client.world.device.key →
      Fit client.world.device.key memory list) :
    Agrees copier memory (client.handOver slice (client.world.device.execute slice))
      ((client.onGpu queue).handOver slice ((client.onGpu queue).world.device.execute slice)) := by
  cases own : client.world.device.ensureAllOwn slice with
  | error error =>
      have gpuOwn : (client.onGpu queue).world.device.ensureAllOwn slice = .error error :=
        (client.world.device.ensureAllOwn_onGpu queue slice).trans own
      rw [Device.execute_of_refused own, Device.execute_of_refused gpuOwn]
      exact tidy.refused idle fit error
  | ok _ =>
      refine tidy.taken idle faithful own ?_
      intro list member
      exact fit list member (Device.ensureAllOwn_eq_ok_iff.mp own list member).1

theorem Tidy.handOverOpen (tidy : client.Tidy memory) (idle : Idle queue)
    (faithful : copier.Faithful) {list : CommandList}
    (fit : Fit client.world.device.key memory list) :
    Agrees copier memory (client.handOver [list] (client.world.device.executeOpen list))
      ((client.onGpu queue).handOver [list]
        ((client.onGpu queue).world.device.executeOpen list)) := by
  have alone : ∀ each ∈ [list], each.device = client.world.device.key →
      Fit client.world.device.key memory each :=
    List.forall_mem_singleton.mpr fun _ => fit
  unfold Device.executeOpen
  cases list.ensureOpen "execute_and_wait" with
  | error error => exact tidy.refused idle alone error
  | ok _ => exact tidy.handOver idle faithful alone

theorem mem_named {names : List Named} {slice : List CommandList}
    (found : names.mapM client.named? = some slice) :
    ∀ list ∈ slice, ∃ name, client.named? name = some list := by
  induction names generalizing slice with
  | nil =>
      cases found
      exact fun _ none => nomatch none
  | cons name rest inductionHypothesis =>
      rw [List.mapM_cons] at found
      obtain ⟨first, named, others⟩ := Option.bind_eq_some_iff.mp found
      obtain ⟨behind, namedBehind, shape⟩ := Option.bind_eq_some_iff.mp others
      cases shape
      exact List.forall_mem_cons.mpr ⟨⟨name, named⟩, inductionHypothesis namedBehind⟩

theorem Tidy.perform (tidy : client.Tidy memory) (idle : Idle queue) (faithful : copier.Faithful)
    {operation : Operation} (records : client.Records memory operation) :
    Agrees copier memory (client.perform operation) ((client.onGpu queue).perform operation) := by
  cases operation with
  | opens category =>
      have device : (client.onGpu queue).world.device.openList category = _ :=
        Device.openList_onGpu tidy.alike tidy.idle category
      have world : (client.onGpu queue).world.openList category = _ :=
        World.openList_onGpu tidy.alike tidy.idle queue category
      refine ⟨tidy.openList category, queue, idle, ?_⟩
      simp only [Client.perform, device, world]
      rfl
  | records list call =>
      refine tidy.onList idle ?_
      intro found named fit
      refine ⟨tidy.record fit fun next => records found next named, queue, idle, ?_⟩
      exact congrArg (fun world => (Client.mk world _, _)) (World.record_onGpu _ queue found call)
  | closes list =>
      refine tidy.onList idle ?_
      intro found _ fit
      refine ⟨tidy.close fit, queue, idle, ?_⟩
      exact congrArg (fun world => (Client.mk world _, _)) (World.close_onGpu _ queue found)
  | executes slice =>
      have same : (client.onGpu queue).named? = client.named? := rfl
      simp only [Client.perform, same]
      cases named : slice.mapM client.named? with
      | none => exact tidy.still idle .unknown
      | some lists =>
          refine tidy.handOver idle faithful ?_
          intro list member
          obtain ⟨name, found⟩ := mem_named named list member
          exact tidy.fit_of_named found
  | executesAndWaits list =>
      refine tidy.onList idle ?_
      intro found _ fit
      exact tidy.handOverOpen idle faithful fit
  | drops list =>
      refine tidy.onList idle ?_
      intro found _ fit
      refine ⟨tidy.drop found, queue, idle, ?_⟩
      exact congrArg (fun world => (Client.mk world _, _)) (World.drop_onGpu tidy.idle queue found)
  | inspects list =>
      refine tidy.onList idle ?_
      intro found _ _
      exact tidy.still idle _
  | arranges call => exact ⟨⟨tidy.idle, tidy.alike, tidy.extended, tidy.lists⟩, queue, idle, rfl⟩
  | looksUp index => exact tidy.still idle _
  | resolves range => exact tidy.still idle _
  | asks value => exact tidy.still idle _
  | waits value => exact tidy.still idle _
  | waitsForAll => exact tidy.still idle _
  | counts => exact tidy.still idle _
  | surveys category =>
      cases category with
      | compute => exact tidy.still idle _
      | copy => exact tidy.still idle _

variable {script : List Operation}

-- What the rest of a script records is asked of the client on the soft queue, which the induction
-- therefore runs on; the GPU queue follows.
theorem Tidy.run (tidy : client.Tidy memory) (idle : Idle queue) (faithful : copier.Faithful)
    (records : client.RecordsAll memory script) :
    ∃ next : CopyingQueue copier, Idle next ∧
      (client.onGpu queue).run script = ((client.run script).1.onGpu next, (client.run script).2) := by
  induction script generalizing client queue with
  | nil => exact ⟨queue, idle, rfl⟩
  | cons operation rest inductionHypothesis =>
      obtain ⟨now, others⟩ := records
      obtain ⟨tidyNext, between, idleNext, first⟩ := tidy.perform idle faithful now
      obtain ⟨last, idleLast, behind⟩ := inductionHypothesis tidyNext idleNext others
      refine ⟨last, idleLast, ?_⟩
      rw [Client.run, first]
      dsimp only
      rw [behind]
      rfl

theorem tidy_new {key : Nat} {label : String} {config : DeviceConfig} (alike : config.StoresAlike)
    (new : Client.new key (SoftQueue.new label) config memory = .ok client) :
    client.Tidy memory := by
  unfold Client.new at new
  cases created : (Device.create key (SoftQueue.new label) config).1 with
  | error error =>
      rw [created] at new
      cases new
  | ok device =>
      rw [created] at new
      cases new
      obtain ⟨stores, queue⟩ := Device.storesAlike_create alike created
      refine ⟨?_, stores, Memory.Extends.refl _, fun _ none => nomatch none⟩
      change device.queue.pending = []
      rw [queue]
      rfl

theorem new_onGpu {key : Nat} {label : String} {config : DeviceConfig}
    (alike : config.StoresAlike) (queue : CopyingQueue copier) :
    Client.new key queue config memory =
      (Client.new key (SoftQueue.new label) config memory).map fun client => client.onGpu queue := by
  unfold Client.new
  rw [Device.create_onGpu alike queue]
  cases (Device.create key (SoftQueue.new label) config).1 <;> rfl

/-- A device that carries out every copy is the one that the GPU queue runs on. -/
theorem serve_copyingQueue (key : Nat) (label : String) (config : DeviceConfig) (memory : Memory)
    (script : List Operation) :
    serve key (CopyingQueue.new Memory.copy label) config memory script =
      serve key (GpuQueue.new label) config memory script :=
  rfl

/-- A script that records nothing but binding calls and copies has the same answers on both
queues, and leaves the same bytes behind. -/
theorem serve_eq_of_storesAlike (faithful : copier.Faithful) {config : DeviceConfig}
    (alike : config.StoresAlike) {key : Nat} {softLabel gpuLabel : String}
    (records : ∀ client, new key (SoftQueue.new softLabel) config memory = .ok client →
      client.RecordsAll memory script) :
    serve key (SoftQueue.new softLabel) config memory script =
      serve key (CopyingQueue.new copier gpuLabel) config memory script := by
  unfold serve
  rw [@new_onGpu copier memory key softLabel config alike (CopyingQueue.new copier gpuLabel)]
  cases new : Client.new key (SoftQueue.new softLabel) config memory with
  | error error => rfl
  | ok client =>
      have idle : Idle (CopyingQueue.new copier gpuLabel) := rfl
      obtain ⟨last, _, ran⟩ := (tidy_new alike new).run idle faithful (records client new)
      simp only [Except.map, ran]
      rfl

/-- If all calls of a script are for plain commands, then it records nothing else. -/
theorem recordsAll_of_plain {σ : Type} [Queue σ]
    (plain : ∀ list call, Operation.records list call ∈ script → call.command.Plain memory)
    (client : Client σ) : client.RecordsAll memory script := by
  induction script generalizing client with
  | nil => trivial
  | cons operation rest inductionHypothesis =>
      refine ⟨?_, inductionHypothesis
        (fun list call member => plain list call (List.mem_cons_of_mem _ member)) _⟩
      cases operation with
      | records list call => exact fun _ _ _ _ => plain list call List.mem_cons_self
      | _ => trivial

/-- A device that refuses to copy inside one storage and anything but whole words. -/
def wordwise : Copier := fun memory region =>
  if region.source.storage = region.target.storage ∨ region.sourceOffset % 4 ≠ 0 ∨
      region.targetOffset % 4 ≠ 0 ∨ region.size % 4 ≠ 0 then
    memory
  else
    memory.copy region

theorem faithful_wordwise : Copier.Faithful wordwise := by
  intro memory region permits
  obtain ⟨source, target, size⟩ := permits.aligned
  simp [wordwise, permits.distinct, source, target, size]

def lastWord : CopyRegion := ⟨⟨0, 8⟩, 4, ⟨1, 12⟩, 8, 4⟩

def twoBuffers : Memory := ⟨[[1, 2, 3, 4, 5, 6, 7, 8], List.replicate 12 0]⟩

/-- A copy is recorded and handed over twice; the second time it is refused. -/
def copyTwice : List Operation :=
  [.opens .copy, .records ⟨1⟩ (.copyRegion lastWord), .executes [.own ⟨1⟩], .executes [.own ⟨1⟩],
    .drops ⟨1⟩, .counts]

theorem serve_eq_of_storesAlike_copyTwice :
    Copier.Faithful wordwise ∧ DeviceConfig.standard.StoresAlike ∧
      (∀ client, new 0 (SoftQueue.new "soft") DeviceConfig.standard twoBuffers = .ok client →
        client.RecordsAll twoBuffers copyTwice) ∧
      serve 0 (CopyingQueue.new wordwise "gpu") DeviceConfig.standard twoBuffers copyTwice =
        .ok ([.opened ⟨1⟩ ⟨.copy, 0⟩, .done, .signalled 1,
            .failed (.invalidState ⟨1⟩ .copy .submitted "submit"), .done,
            .counted ⟨1, 0, 1, 1, 0, [⟨.compute, 0, 0⟩, ⟨.copy, 1, 1⟩]⟩],
          ⟨[[1, 2, 3, 4, 5, 6, 7, 8], [0, 0, 0, 0, 0, 0, 0, 0, 5, 6, 7, 8]]⟩) := by
  have alike : DeviceConfig.standard.StoresAlike := by
    intro category
    cases category <;> decide
  have permits : twoBuffers.Permits lastWord := by
    refine ⟨rfl, rfl, by decide, by decide, by decide⟩
  have records : ∀ client,
      new 0 (SoftQueue.new "soft") DeviceConfig.standard twoBuffers = .ok client →
        client.RecordsAll twoBuffers copyTwice := by
    intro client _
    refine recordsAll_of_plain ?_ client
    intro list call member
    simp [copyTwice] at member
    rw [member.2]
    exact permits
  refine ⟨faithful_wordwise, alike, records, ?_⟩
  exact (serve_eq_of_storesAlike faithful_wordwise alike records).symm.trans rfl

/-! ## Where the queues part -/

/-- The storage for so many commands is larger than any storage on the GPU queue; on the soft
queue there is only no memory for it. -/
def vast : DeviceConfig :=
  { DeviceConfig.standard with initialCommandCapacity := 96076792050570582 }

theorem serve_vast :
    serve 0 (SoftQueue.new SoftQueue.defaultLabel) vast Memory.empty [.opens .copy] =
        .ok ([.failed (.resourceExhausted .copy 0 Pool.memoryReason)], Memory.empty) ∧
      serve 0 (GpuQueue.new GpuQueue.defaultLabel) vast Memory.empty [.opens .copy] =
        .ok ([.failed (.resourceExhausted .copy 0 Pool.capacityReason)], Memory.empty) ∧
      serve 0 (SoftQueue.new SoftQueue.defaultLabel) vast Memory.empty [.opens .copy] ≠
        serve 0 (GpuQueue.new GpuQueue.defaultLabel) vast Memory.empty [.opens .copy] := by
  have soft : serve 0 (SoftQueue.new SoftQueue.defaultLabel) vast Memory.empty [.opens .copy] =
      .ok ([.failed (.resourceExhausted .copy 0 Pool.memoryReason)], Memory.empty) := rfl
  have gpu : serve 0 (GpuQueue.new GpuQueue.defaultLabel) vast Memory.empty [.opens .copy] =
      .ok ([.failed (.resourceExhausted .copy 0 Pool.capacityReason)], Memory.empty) := rfl
  refine ⟨soft, gpu, ?_⟩
  rw [soft, gpu]
  intro same
  have reasons : Pool.memoryReason = Pool.capacityReason := by
    injection same with answers
    injection answers with told
    injection told with first
    injection first with error
    injection error
  exact absurd reasons (by decide)

end Client

end CommandQueue
