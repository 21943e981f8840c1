import CommandQueue.Proofs.BindGroups
import CommandQueue.Proofs.Turns

/-!
# Footprints

What a computation on a scene does to memory is confined when it depends on the
storages that it touches and changes only those among them that it writes
(`Scene.Confined`).  A kernel is local when each of its runs is confined to the
buffers of its tables; then every command is confined to its footprint, whether it
succeeds, faults or gives up midway, and so is every recording.

Two recordings are apart when neither writes what the other touches.  Lists with
such recordings can be handed over in either order.
-/

namespace CommandQueue

/-- Both memories have the same bytes in these storages. -/
def Memory.SameOn (storages : List Nat) (left right : Memory) : Prop :=
  ∀ storage ∈ storages, left.storages[storage]? = right.storages[storage]?

theorem Memory.SameOn.bytesAt {storages : List Nat} {left right : Memory}
    (same : Memory.SameOn storages left right) {storage : Nat} (member : storage ∈ storages) :
    left.bytesAt storage = right.bytesAt storage := by
  rw [Memory.bytesAt, Memory.bytesAt, same storage member]

/-- A write shows in no other storage. -/
theorem Memory.getElem?_overwrite_of_ne (memory : Memory) {storage queried : Nat}
    (different : queried ≠ storage) (offset : Nat) (data : Bytes) :
    (memory.overwrite storage offset data).storages[queried]? = memory.storages[queried]? := by
  simp [overwrite, Ne.symm different]

/-! ## Confined computations -/

namespace Scene

/-- The computation depends on the storages that it touches, and changes only those that it
writes. -/
structure Confined {α : Type} (written touched : List Nat) (compute : Scene → Scene × α) :
    Prop where
  inside : written ⊆ touched
  keeps : ∀ scene, ∀ storage, storage ∉ written →
    (compute scene).1.memory.storages[storage]? = scene.memory.storages[storage]?
  determined : ∀ left right, Memory.SameOn touched left.memory right.memory →
    (compute left).2 = (compute right).2 ∧
      Memory.SameOn touched (compute left).1.memory (compute right).1.memory

variable {α β : Type} {written touched : List Nat}

/-- A computation that changes no memory is confined when its result depends on the storages
touched. -/
theorem Confined.of_reads {value : Scene → α} (visits : Scene → List Visit)
    (inside : written ⊆ touched)
    (reads : ∀ left right, Memory.SameOn touched left.memory right.memory →
      value left = value right) :
    Confined written touched fun scene => (⟨scene.memory, visits scene⟩, value scene) :=
  ⟨inside, fun _ _ _ => rfl, fun left right same => ⟨reads left right same, same⟩⟩

theorem Confined.still (value : α) (inside : written ⊆ touched) :
    Confined written touched fun scene => (scene, value) :=
  Confined.of_reads Scene.visits inside fun _ _ _ => rfl

/-- Bytes that depend on the storages touched are written to one of those written. -/
theorem Confined.overwrite {data : Scene → Bytes} {storage : Nat} (inside : written ⊆ touched)
    (reads : ∀ left right, Memory.SameOn touched left.memory right.memory →
      data left = data right)
    (member : storage ∈ written) (offset : Nat) (value : α) :
    Confined written touched fun scene =>
      ({ scene with memory := scene.memory.overwrite storage offset (data scene) }, value) := by
  refine ⟨inside, ?_, ?_⟩
  · intro scene queried unwritten
    refine scene.memory.getElem?_overwrite_of_ne ?_ offset _
    rintro rfl
    exact unwritten member
  · intro left right same
    refine ⟨rfl, ?_⟩
    intro queried touching
    dsimp only
    rw [reads left right same]
    by_cases equal : queried = storage
    · rw [equal, Memory.overwrite, Memory.overwrite, List.getElem?_modify_eq,
        List.getElem?_modify_eq, ← equal, same queried touching]
    · rw [left.memory.getElem?_overwrite_of_ne equal, right.memory.getElem?_overwrite_of_ne equal]
      exact same queried touching

/-- A larger footprint confines as well. -/
theorem Confined.widen {compute : Scene → Scene × α} (confined : Confined written touched compute)
    {moreWritten moreTouched : List Nat} (writes : written ⊆ moreWritten)
    (touches : touched ⊆ moreTouched) (inside : moreWritten ⊆ moreTouched) :
    Confined moreWritten moreTouched compute := by
  refine ⟨inside, fun scene storage unwritten =>
    confined.keeps scene storage fun member => unwritten (writes member), ?_⟩
  intro left right same
  obtain ⟨result, after⟩ :=
    confined.determined left right fun storage member => same storage (touches member)
  refine ⟨result, ?_⟩
  intro storage member
  by_cases within : storage ∈ touched
  · exact after storage within
  · have unwritten : storage ∉ written := fun new => within (confined.inside new)
    rw [confined.keeps left storage unwritten, confined.keeps right storage unwritten]
    exact same storage member

/-- One computation after another, which may depend on what the first one returned. -/
theorem Confined.andThen {first : Scene → Scene × α} {next : α → Scene → Scene × β}
    (ahead : Confined written touched first) (behind : ∀ value, Confined written touched (next value)) :
    Confined written touched fun scene => next (first scene).2 (first scene).1 := by
  refine ⟨ahead.inside, ?_, ?_⟩
  · intro scene storage unwritten
    exact ((behind _).keeps _ storage unwritten).trans (ahead.keeps scene storage unwritten)
  · intro left right same
    obtain ⟨result, after⟩ := ahead.determined left right same
    rw [result]
    exact (behind _).determined _ _ after

/-- A computation after a look at the storages touched. -/
theorem Confined.afterReading {value : Scene → α} {next : α → Scene → Scene × β}
    (reads : ∀ left right, Memory.SameOn touched left.memory right.memory →
      value left = value right)
    (behind : ∀ value, Confined written touched (next value)) :
    Confined written touched fun scene => next (value scene) scene := by
  have inside := (behind (value Scene.empty)).inside
  exact (Confined.of_reads Scene.visits inside reads).andThen behind

theorem Confined.map {compute : Scene → Scene × α} (confined : Confined written touched compute)
    (change : α → β) :
    Confined written touched fun scene => ((compute scene).1, change (compute scene).2) :=
  ⟨confined.inside, confined.keeps, fun left right same =>
    (confined.determined left right same).imp_left (congrArg change)⟩

/-- Confined computations commute if neither writes what the other touches. -/
theorem Confined.commute {otherWritten otherTouched : List Nat} {left : Scene → Scene × α}
    {right : Scene → Scene × β} (leftConfined : Confined written touched left)
    (rightConfined : Confined otherWritten otherTouched right)
    (leftApart : ∀ storage ∈ written, storage ∉ otherTouched)
    (rightApart : ∀ storage ∈ otherWritten, storage ∉ touched) (scene : Scene) :
    (right (left scene).1).1.memory = (left (right scene).1).1.memory ∧
      (right (left scene).1).2 = (right scene).2 ∧ (left (right scene).1).2 = (left scene).2 := by
  have afterLeft : Memory.SameOn otherTouched (left scene).1.memory scene.memory :=
    fun storage member => leftConfined.keeps scene storage fun new => leftApart storage new member
  have afterRight : Memory.SameOn touched (right scene).1.memory scene.memory :=
    fun storage member => rightConfined.keeps scene storage fun new => rightApart storage new member
  obtain ⟨rightResult, rightMemory⟩ := rightConfined.determined _ _ afterLeft
  obtain ⟨leftResult, leftMemory⟩ := leftConfined.determined _ _ afterRight
  refine ⟨?_, rightResult, leftResult⟩
  -- A storage is written by one of the two at most.
  have storages : (right (left scene).1).1.memory.storages =
      (left (right scene).1).1.memory.storages := by
    apply List.ext_getElem?
    intro storage
    by_cases byRight : storage ∈ otherWritten
    · have unwritten : storage ∉ written :=
        fun member => rightApart storage byRight (leftConfined.inside member)
      rw [rightMemory storage (rightConfined.inside byRight),
        leftConfined.keeps _ storage unwritten]
    · rw [rightConfined.keeps _ storage byRight]
      by_cases byLeft : storage ∈ written
      · exact (leftMemory storage (leftConfined.inside byLeft)).symm
      · rw [leftConfined.keeps _ storage byLeft, leftConfined.keeps _ storage byLeft,
          rightConfined.keeps _ storage byRight]
  exact congrArg Memory.mk storages

end Scene

/-! ## Local kernels -/

/-- The storages of the buffers that are bound for the invocation. -/
def Invocation.storages (invocation : Invocation) : List Nat :=
  invocation.tables.flatten.map Buffer.storage

/-- The scene that a kernel leaves, and whether it ran to its end. -/
def KernelRun.outcome (run : KernelRun) : Scene × Bool := (run.scene, run.finished)

namespace Program

/-- The program reads and changes only the buffers of its tables. -/
def Local (program : Program) : Prop :=
  ∀ invocation : Invocation, Scene.Confined invocation.storages invocation.storages
    fun scene => (program invocation scene).outcome

/-- A dispatch of a local kernel is confined to the buffers of its tables, even if a group gives
up. -/
theorem Local.visitFrom {program : Program} (isLocal : program.Local) (grid : Extent)
    (tables : List (List Buffer)) (index count : Nat) :
    Scene.Confined (tables.flatten.map Buffer.storage) (tables.flatten.map Buffer.storage)
      (program.visitFrom grid tables index count) := by
  induction count generalizing index with
  | zero => exact Scene.Confined.still none (List.Subset.refl _)
  | succ count inductionHypothesis =>
      let next (finished : Bool) (scene : Scene) : Scene × Option Extent :=
        if finished then program.visitFrom grid tables (index + 1) count scene
        else (scene, some (grid.groupAt index))
      have behind : ∀ finished, Scene.Confined (tables.flatten.map Buffer.storage)
          (tables.flatten.map Buffer.storage) (next finished) := by
        intro finished
        cases finished with
        | true => exact inductionHypothesis (index + 1)
        | false => exact Scene.Confined.still _ (List.Subset.refl _)
      exact (isLocal ⟨grid, grid.groupAt index, tables⟩).andThen behind

end Program

namespace Catalogue

open Scene

variable {storages : List Nat}

theorem readAt?_of_sameOn {α : Type} (element : Element α) {left right : Memory}
    (same : Memory.SameOn storages left right) {buffer : Buffer}
    (member : buffer.storage ∈ storages) (index : Nat) :
    left.readAt? element buffer index = right.readAt? element buffer index := by
  rw [Memory.readAt?, Memory.readAt?, Memory.bytes, Memory.bytes, same.bytesAt member]

theorem confined_stop (finished : Bool) :
    Confined storages storages fun scene => (⟨scene, finished⟩ : KernelRun).outcome :=
  Confined.still finished (List.Subset.refl _)

/-- A run that looks at memory first is confined if it is with all that it can have found. -/
theorem confined_reading {α : Type} {read : Scene → Option α} {body : α → Scene → KernelRun}
    {fallback run : Scene → KernelRun}
    (reads : ∀ left right, Memory.SameOn storages left.memory right.memory →
      read left = read right)
    (missing : ∀ scene, read scene = none → run scene = fallback scene)
    (present : ∀ scene value, read scene = some value → run scene = body value scene)
    (without : Confined storages storages fun scene => (fallback scene).outcome)
    (onward : ∀ value, Confined storages storages fun scene => (body value scene).outcome) :
    Confined storages storages fun scene => (run scene).outcome := by
  have behind : ∀ found : Option α, Confined storages storages fun scene =>
      (found.elim (fallback scene) fun value => body value scene).outcome := by
    intro found
    cases found with
    | none => exact without
    | some value => exact onward value
  have shape : (fun scene => (run scene).outcome) = fun scene =>
      ((read scene).elim (fallback scene) fun value => body value scene).outcome := by
    funext scene
    cases found : read scene with
    | none => rw [missing scene found, Option.elim]
    | some value => rw [present scene value found, Option.elim]
  rw [shape]
  exact Confined.afterReading reads behind

/-- A run after another one that did not give up. -/
theorem confined_ifFinished {first second : Scene → KernelRun}
    (ahead : Confined storages storages fun scene => (first scene).outcome)
    (behind : Confined storages storages fun scene => (second scene).outcome) :
    Confined storages storages fun scene =>
      (if (first scene).finished then second (first scene).scene else first scene).outcome := by
  have next : ∀ finished : Bool, Confined storages storages fun scene =>
      (if finished then second scene else (⟨scene, false⟩ : KernelRun)).outcome := by
    intro finished
    cases finished with
    | true => exact behind
    | false => exact confined_stop false
  have shape : (fun scene =>
      (if (first scene).finished then second (first scene).scene else first scene).outcome) =
        fun scene => (if (first scene).outcome.2 then second (first scene).outcome.1
          else (⟨(first scene).outcome.1, false⟩ : KernelRun)).outcome := by
    funext scene
    obtain ⟨after, finished⟩ := first scene
    cases finished <;> rfl
  rw [shape]
  exact ahead.andThen next

theorem confined_store {buffer : Buffer} (member : buffer.storage ∈ storages) (index : Nat)
    (value : UInt32) :
    Confined storages storages fun scene => (store scene buffer index value).outcome := by
  unfold store Memory.writeAll Memory.write
  by_cases fits : 4 * index + (Element.word.encodeAll [value]).length ≤ buffer.size
  · simp only [if_pos fits]
    exact Confined.overwrite (List.Subset.refl _) (fun _ _ _ => rfl) member _ true
  · simp only [if_neg fits]
    exact confined_stop false

theorem storage_mem_of_head? {invocation : Invocation} {buffer : Buffer}
    (first : (invocation.table 0).head? = some buffer) :
    buffer.storage ∈ invocation.storages := by
  unfold Invocation.table at first
  cases present : invocation.tables[0]? with
  | none => simp [present] at first
  | some table =>
      rw [present] at first
      exact List.mem_map_of_mem (List.mem_flatten.mpr
        ⟨table, List.mem_of_getElem? present, List.mem_of_head? first⟩)

theorem local_indexed {body : Invocation → Nat → Scene → KernelRun}
    (isLocal : ∀ (invocation : Invocation) (index : Nat),
      Confined invocation.storages invocation.storages
        fun scene => (body invocation index scene).outcome) :
    (indexed body).Local := by
  intro invocation
  cases numbered : invocation.index? with
  | none =>
      simp only [indexed, numbered]
      exact confined_stop false
  | some index =>
      simp only [indexed, numbered]
      exact isLocal invocation index

theorem confined_storeFirst (invocation : Invocation) (index : Nat) (value : UInt32) :
    Confined invocation.storages invocation.storages
      fun scene => (storeFirst invocation index value scene).outcome := by
  unfold storeFirst
  cases first : (invocation.table 0).head? with
  | none => exact confined_stop false
  | some buffer => exact confined_store (storage_mem_of_head? first) index value

theorem local_fill : fill.Local :=
  local_indexed fun invocation index => confined_storeFirst invocation index _

theorem local_panicAt (stop : Option Nat) : (panicAt stop).Local := by
  refine local_indexed fun invocation index => ?_
  by_cases stops : stop = some index
  · simp only [if_pos stops]
    exact confined_stop false
  · simp only [if_neg stops]
    exact confined_storeFirst invocation index _

theorem local_trace (limit : Option Nat) : (trace limit).Local := by
  refine local_indexed fun invocation index => ?_
  by_cases stops : limit.any (· ≤ index) = true
  · simp only [if_pos stops]
    exact confined_stop false
  · simp only [if_neg stops]
    exact Confined.of_reads _ (List.Subset.refl _) fun _ _ _ => rfl

theorem local_increment : increment.Local := by
  refine local_indexed fun invocation index => ?_
  cases first : (invocation.table 0).head? with
  | none => exact confined_stop false
  | some buffer =>
      have member := storage_mem_of_head? first
      refine confined_reading (fun _ _ same => readAt?_of_sameOn Element.word same member index) ?_ ?_
        (confined_stop false) fun value => confined_store member index (value + 1)
      · intro scene missing
        simp only [missing]
      · intro scene value present
        simp only [present]

theorem confined_addToEach (index : Nat) (amount : UInt32) {buffers : List Buffer}
    (members : ∀ buffer ∈ buffers, buffer.storage ∈ storages) :
    Confined storages storages fun scene => (addToEach index amount buffers scene).outcome := by
  induction buffers with
  | nil => exact confined_stop true
  | cons buffer rest inductionHypothesis =>
      obtain ⟨member, others⟩ := List.forall_mem_cons.mp members
      have rest := inductionHypothesis others
      refine confined_reading (fun _ _ same => readAt?_of_sameOn Element.word same member index) ?_ ?_ rest
        fun value => confined_ifFinished (confined_store member index (value + amount)) rest
      · intro scene missing
        simp only [addToEach, missing]
      · intro scene value present
        simp only [addToEach, present]

theorem local_addAll (amount : Nat) : (addAll amount).Local :=
  local_indexed fun _ index => confined_addToEach index _
    fun _ member => List.mem_map_of_mem member

theorem sum?_of_sameOn {left right : Scene}
    (same : Memory.SameOn storages left.memory right.memory) (index : Nat) {buffers : List Buffer}
    (members : ∀ buffer ∈ buffers, buffer.storage ∈ storages) :
    sum? left index buffers = sum? right index buffers := by
  induction buffers with
  | nil => rfl
  | cons buffer rest inductionHypothesis =>
      obtain ⟨member, others⟩ := List.forall_mem_cons.mp members
      rw [sum?, sum?, readAt?_of_sameOn Element.word same member, inductionHypothesis others]

theorem local_gather : gather.Local := by
  refine local_indexed fun invocation index => ?_
  have members : ∀ buffer ∈ invocation.tables.tail.flatten,
      buffer.storage ∈ invocation.storages := by
    intro buffer member
    obtain ⟨table, tableMember, chosen⟩ := List.mem_flatten.mp member
    exact List.mem_map_of_mem
      (List.mem_flatten.mpr ⟨table, List.mem_of_mem_tail tableMember, chosen⟩)
  refine confined_reading (fun _ _ same => sum?_of_sameOn same index members) ?_ ?_
    (confined_stop false) fun total => confined_storeFirst invocation index total
  · intro scene missing
    simp only [missing]
  · intro scene total present
    simp only [present]

/-- Every kernel of the catalogue is local. -/
theorem local_of_find? {name : String} {argument : Option Nat} {program : Program}
    (found : find? name argument = some program) : program.Local := by
  unfold find? at found
  split at found
  · cases found
    exact fun _ => confined_stop true
  · cases found
    exact local_increment
  · cases found
    exact local_fill
  · cases found
    exact local_addAll _
  · cases found
    exact local_gather
  · cases found
    exact local_panicAt _
  · cases found
    exact local_trace _
  · cases found

end Catalogue

/-! ## Footprints of commands -/

/-- The storages of the tables that a dispatch resolves.  A dispatch that cannot resolve its tables
reaches no buffer. -/
def Bindings.reached (bindings : Bindings) (heap : DescriptorHeap) : List Nat :=
  match bindings.pipeline with
  | .none => []
  | some bundle =>
      match Execution.resolveTables heap (bindings.tables.take bundle.slots) with
      | .error _ => []
      | .ok tables => tables.flatten.map Buffer.storage

namespace Command

/-- The storages that a command can write. -/
def written (heap : DescriptorHeap) (bindings : Bindings) : Command → List Nat
  | .copyRegion region => [region.target.storage]
  | .dispatch _ => bindings.reached heap
  | _ => []

/-- The storages that a command can read or write. -/
def touched (heap : DescriptorHeap) (bindings : Bindings) : Command → List Nat
  | .copyRegion region => [region.source.storage, region.target.storage]
  | .dispatch _ => bindings.reached heap
  | _ => []

/-- The storages that the commands of a recording can write. -/
def writtenBy (heap : DescriptorHeap) (commands : List Command) : List Nat :=
  along (written heap) Bindings.none commands

/-- The storages that the commands of a recording can read or write. -/
def touchedBy (heap : DescriptorHeap) (commands : List Command) : List Nat :=
  along (touched heap) Bindings.none commands

/-- Neither recording writes what the other one reads or writes. -/
structure Apart (heap : DescriptorHeap) (left right : List Command) : Prop where
  first : ∀ storage ∈ writtenBy heap left, storage ∉ touchedBy heap right
  second : ∀ storage ∈ writtenBy heap right, storage ∉ touchedBy heap left

theorem written_subset_touched (heap : DescriptorHeap) (bindings : Bindings) (command : Command) :
    command.written heap bindings ⊆ command.touched heap bindings := by
  cases command with
  | copyRegion region => exact List.subset_cons_self _ _
  | _ => exact List.Subset.refl _

theorem along_subset {α : Type} {first second : Bindings → Command → List α}
    (included : ∀ bindings command, first bindings command ⊆ second bindings command)
    (bindings : Bindings) (commands : List Command) :
    along first bindings commands ⊆ along second bindings commands := by
  induction commands generalizing bindings with
  | nil => exact List.nil_subset _
  | cons command rest inductionHypothesis =>
      exact List.append_subset.mpr
        ⟨List.subset_append_of_subset_left _ (included bindings command),
          List.subset_append_of_subset_right _ (inductionHypothesis (bindings.apply command))⟩

end Command

namespace Execution

open Scene

theorem confined_dispatch (heap : DescriptorHeap) {bindings : Bindings}
    (bound : ∀ bundle, bindings.pipeline = some bundle → bundle.program.Local) (grid : Extent) :
    Confined (bindings.reached heap) (bindings.reached heap) (dispatch heap bindings grid) := by
  unfold dispatch Bindings.reached
  cases piped : bindings.pipeline with
  | none => exact Confined.still _ (List.Subset.refl _)
  | some bundle =>
      dsimp only
      cases resolveTables heap (bindings.tables.take bundle.slots) with
      | error error => exact Confined.still _ (List.Subset.refl _)
      | ok tables =>
          exact ((bound bundle piped).visitFrom grid tables 0 grid.size).map
            fun stopped => stopped.map fun group => Failure.panicked bundle.kernel group

theorem confined_copy {written touched : List Nat} {region : CopyRegion}
    (inside : written ⊆ touched) (target : region.target.storage ∈ written)
    (source : region.source.storage ∈ touched) :
    Confined written touched fun scene =>
      ({ scene with memory := scene.memory.copy region }, ()) := by
  refine Confined.overwrite inside ?_ target region.targetOffset ()
  intro left right same
  rw [Memory.bytes, Memory.bytes, same.bytesAt source]

/-- Commands under way are confined to what they can write and read. -/
theorem confined_run (heap : DescriptorHeap) {written touched : List Nat}
    (inside : written ⊆ touched) {commands : List Command}
    (only : BindGroupCache.BindsOnly (fun bundle => bundle.program.Local) commands)
    {bindings : Bindings}
    (bound : ∀ bundle, bindings.pipeline = some bundle → bundle.program.Local)
    (writes : Command.along (Command.written heap) bindings commands ⊆ written)
    (touches : Command.along (Command.touched heap) bindings commands ⊆ touched)
    (failures : List (CommandKind × Failure)) :
    Confined written touched fun scene =>
      ((run heap ⟨bindings, scene, failures⟩ commands).scene,
        (run heap ⟨bindings, scene, failures⟩ commands).failures) := by
  induction commands generalizing bindings failures with
  | nil => exact Confined.still failures inside
  | cons command rest inductionHypothesis =>
      have others : BindGroupCache.BindsOnly (fun bundle => bundle.program.Local) rest :=
        fun bundle member => only bundle (List.mem_cons_of_mem command member)
      obtain ⟨written, writesLater⟩ := List.append_subset.mp writes
      obtain ⟨touched, touchesLater⟩ := List.append_subset.mp touches
      cases command with
      | setPipeline bundle =>
          refine inductionHypothesis others ?_ writesLater touchesLater failures
          intro other same
          cases same
          exact only bundle List.mem_cons_self
      | setTable slot range =>
          exact @inductionHypothesis others (bindings.apply (.setTable slot range)) bound writesLater
            touchesLater failures
      | copyRegion region =>
          have later := inductionHypothesis others bound writesLater touchesLater failures
          exact (confined_copy inside (written List.mem_cons_self)
            (touched List.mem_cons_self)).andThen fun _ => later
      | dispatch grid =>
          have first := (confined_dispatch heap bound grid).widen written touched inside
          exact first.andThen fun failure => inductionHypothesis others bound writesLater touchesLater
            (failures ++ failure.toList.map fun reason => (CommandKind.dispatch, reason))

end Execution

/-- A recording is confined to its footprint. -/
theorem Stream.confined_run {stream : Stream} (heap : DescriptorHeap)
    (only : BindGroupCache.BindsOnly (fun bundle => bundle.program.Local) stream.commands) :
    Scene.Confined (Command.writtenBy heap stream.commands)
      (Command.touchedBy heap stream.commands)
      fun scene => ((stream.run heap scene).scene, (stream.run heap scene).failures) := by
  refine Execution.confined_run heap
    (Command.along_subset (Command.written_subset_touched heap) Bindings.none stream.commands) only
    ?_ (List.Subset.refl _) (List.Subset.refl _) []
  intro bundle bound
  cases bound

/-! ## Submissions in either order -/

theorem World.Submittable.swap {σ : Type} {world : World σ} {left right : CommandList}
    (submittable : world.Submittable [left, right]) : world.Submittable [right, left] := by
  refine ⟨fun list chosen => submittable.own list (by simpa [or_comm] using chosen), ?_⟩
  have different := (List.pairwise_cons.mp submittable.once).1 right List.mem_cons_self
  refine List.pairwise_pair.mpr ?_
  by_contra same
  rw [Bool.not_eq_false, CommandList.isSame_iff] at same
  rw [CommandList.isSame_iff.mpr ⟨same.1.symm, same.2.symm⟩] at different
  cases different

namespace Stage

variable {stage : Stage} {start : World SoftQueue} {left right : CommandList}

/-- The stage at rest after two lists were handed over one after the other, with turns of the queue
in between. -/
def inOrder (stage : Stage) (first second : CommandList) (turns : Nat) : Stage :=
  (((stage.execute [first]).advancedBy turns).execute [second]).settled

theorem outcome_inOrder (service : stage.world.InService)
    (submittable : stage.world.Submittable [left, right]) (turns : Nat) :
    let heap := stage.world.device.heap
    let first := left.freeze.stream.run heap stage.settled.scene
    let second := right.freeze.stream.run heap first.scene
    (stage.inOrder left right turns).scene = second.scene ∧
      (stage.inOrder left right turns).world.device.queue.faults =
        stage.settled.world.device.queue.faults + first.failures.length +
          second.failures.length ∧
      (stage.inOrder left right turns).world.entries = stage.world.entries ++
        [⟨stage.world.device.fence.issued + 1, [left.freeze.stream]⟩,
          ⟨stage.world.device.fence.issued + 2, [right.freeze.stream]⟩] := by
  have ahead : stage.world.Submittable [left] :=
    @World.Submittable.left _ stage.world [left] [right] submittable
  have later := inService_execute service ahead
  have still : (stage.execute [left]).world.Submittable [right] :=
    @submittable_execute stage service [left] [right] submittable
  have handed := execute_eq service ahead
  have order : stage.inOrder left right turns =
      ((stage.execute [left]).execute [right]).settled :=
    settled_execute_advancedBy later still turns
  obtain ⟨firstScene, firstFaults⟩ := outcome_execute service ahead
  obtain ⟨secondScene, secondFaults⟩ := outcome_execute later still
  have heap : (stage.execute [left]).world.device.heap = stage.world.device.heap := by
    rw [handed]
    rfl
  rw [heap, firstScene] at secondScene secondFaults
  rw [firstFaults] at secondFaults
  refine ⟨?_, ?_, ?_⟩
  · rw [order, secondScene]
    rfl
  · rw [order, secondFaults]
    simp [Stream.runAll]
  · rw [order, settled_eq, execute_eq later still, handed]
    exact List.append_assoc _ [_] [_]

/-- Whatever two lists fault at, handing them over in either order leads to the same memory and the
same number of faults. -/
structure Commutes (stage : Stage) (left right : CommandList) (turns others : Nat) : Prop where
  taken : (stage.inOrder left right turns).world.entries = stage.world.entries ++
    [⟨stage.world.device.fence.issued + 1, [⟨left.id, left.category, left.recorded⟩]⟩,
      ⟨stage.world.device.fence.issued + 2, [⟨right.id, right.category, right.recorded⟩]⟩]
  alsoTaken : (stage.inOrder right left others).world.entries = stage.world.entries ++
    [⟨stage.world.device.fence.issued + 1, [⟨right.id, right.category, right.recorded⟩]⟩,
      ⟨stage.world.device.fence.issued + 2, [⟨left.id, left.category, left.recorded⟩]⟩]
  memory : (stage.inOrder left right turns).scene.memory =
    (stage.inOrder right left others).scene.memory
  faults : (stage.inOrder left right turns).world.device.queue.faults =
    (stage.inOrder right left others).world.device.queue.faults

/-- Lists of local kernels whose recordings are apart commute, with any work waiting before them. -/
theorem commutes_of_leads (begun : start.Begins) (idle : start.device.queue.pending = [])
    (leads : World.Leads SoftQueue.Advances start stage.world)
    (submittable : stage.world.Submittable [left, right])
    (locals : ∀ list ∈ [left, right],
      BindGroupCache.BindsOnly (fun bundle => bundle.program.Local) list.recorded)
    (apart : Command.Apart stage.world.device.heap left.recorded right.recorded)
    (turns others : Nat) : stage.Commutes left right turns others := by
  have service := World.inService_of_leads begun idle leads
  have booked := World.Leads.booked begun leads
  have leftStream := booked.stream_freeze (submittable.own left (by simp)).1
  have rightStream := booked.stream_freeze (submittable.own right (by simp)).1
  obtain ⟨forthScene, forthFaults, forthEntries⟩ := outcome_inOrder service submittable turns
  obtain ⟨backScene, backFaults, backEntries⟩ := outcome_inOrder service submittable.swap others
  have leftConfined := @Stream.confined_run left.freeze.stream stage.world.device.heap
    (locals left (by simp))
  have rightConfined := @Stream.confined_run right.freeze.stream stage.world.device.heap
    (locals right (by simp))
  obtain ⟨memory, rightFailures, leftFailures⟩ := leftConfined.commute rightConfined apart.first
    apart.second stage.settled.scene
  dsimp only at rightFailures leftFailures
  refine ⟨?_, ?_, ?_, ?_⟩
  · rw [forthEntries, leftStream, rightStream]
  · rw [backEntries, leftStream, rightStream]
  · rw [forthScene, backScene]
    exact memory
  · rw [forthFaults, backFaults, rightFailures, leftFailures]
    exact Nat.add_right_comm _ _ _

/-- A kernel that gives up at its third group. -/
def givingUp : Bundle := ⟨0, "panic_at", 1, Catalogue.panicAt (some 2)⟩

/-- A dispatch of it over one table. -/
def failing : List Call := [.bindPipeline givingUp, .bindTable 0 ⟨0, 1⟩, .dispatch ⟨4, 1, 1⟩]

/-- The compute list after these calls. -/
def failingList : CommandList :=
  failing.foldl (fun list call => list.append call.command)
    (CommandList.opened ⟨2⟩ 0 .compute (Allocator.new ⟨.compute, 0⟩) (some 1024))

/-- A copy inside one buffer and a dispatch over another one are recorded. -/
def independent : Stage :=
  let small := World.small (SoftQueue.new SoftQueue.defaultLabel)
  let heap := (small.device.heap.publish [⟨1, 16⟩]).1
  let furnished := { small with device := { small.device with heap := heap } }
  let copying := (furnished.openList .copy).record World.firstCopy World.shift
  let opened := copying.openList .compute
  let first := CommandList.opened ⟨2⟩ 0 .compute (Allocator.new ⟨.compute, 0⟩) (some 1024)
  let memory : Memory := ⟨[(List.range 16).map UInt8.ofNat, List.replicate 16 0]⟩
  ⟨opened.recordAll first failing, ⟨memory, []⟩⟩

theorem leads_independent {moves : Clocked SoftQueue → Clocked SoftQueue → Prop} :
    World.Leads moves (World.small (SoftQueue.new SoftQueue.defaultLabel))
      independent.world := by
  let small := World.small (SoftQueue.new SoftQueue.defaultLabel)
  let heap := (small.device.heap.publish [⟨1, 16⟩]).1
  let furnished := { small with device := { small.device with heap := heap } }
  let copying := (furnished.openList .copy).record World.firstCopy World.shift
  let copied := World.firstCopy.append World.shift.command
  let first := CommandList.opened ⟨2⟩ 0 .compute (Allocator.new ⟨.compute, 0⟩) (some 1024)
  have preparing : World.Step moves small furnished :=
    World.Step.prepares small.device.library rfl
  have steps : World.Leads moves small (copying.openList .compute) :=
    (((Relation.ReflTransGen.single preparing).tail (World.Step.opens furnished .copy)).tail
      (World.Step.records (List.mem_singleton_self World.firstCopy) World.shift)).tail
      (World.Step.opens copying .compute)
  have second : ∀ list, list ∈ [copied, list] := fun list =>
    List.mem_cons_of_mem copied (List.mem_singleton_self list)
  let piped := first.append (.setPipeline givingUp)
  let bound := piped.append (.setTable 0 ⟨0, 1⟩)
  let binding := (copying.openList .compute).record first (.bindPipeline givingUp)
  let dispatching := binding.record piped (.bindTable 0 ⟨0, 1⟩)
  have last : World.Step moves dispatching independent.world :=
    @World.Step.records _ _ _ dispatching bound (second bound) (.dispatch ⟨4, 1, 1⟩)
  exact ((steps.tail (World.Step.records (second first) (.bindPipeline givingUp))).tail
    (@World.Step.records _ _ _ binding piped (second piped) (.bindTable 0 ⟨0, 1⟩))).tail last

theorem submittable_independent :
    independent.world.Submittable [World.firstCopy.append World.shift.command, failingList] := by
  have lists : independent.world.lists =
      [World.firstCopy.append World.shift.command, failingList] := rfl
  refine ⟨?_, List.pairwise_pair.mpr rfl⟩
  intro list chosen
  rw [lists]
  refine ⟨chosen, ?_⟩
  rcases List.mem_cons.mp chosen with rfl | last
  · exact nofun
  · rw [List.mem_singleton.mp last]
    exact nofun

/-- The dispatch gives up in either order, after it wrote two words. -/
theorem commutes_of_leads_givingUp :
    let copied := World.firstCopy.append World.shift.command
    (World.small (SoftQueue.new SoftQueue.defaultLabel)).Begins ∧
      World.Leads SoftQueue.Advances (World.small (SoftQueue.new SoftQueue.defaultLabel))
        independent.world ∧
      independent.world.Submittable [copied, failingList] ∧
      independent.Commutes copied failingList 0 1 ∧
      (independent.inOrder copied failingList 0).world.device.queue.faults = 1 ∧
      (independent.inOrder copied failingList 0).scene.memory =
        ⟨[[0, 1, 2, 3, 4, 5, 6, 7, 0, 1, 2, 3, 4, 5, 6, 7],
          [1, 0, 0, 0, 2, 0, 0, 0, 0, 0, 0, 0, 0, 0, 0, 0]]⟩ := by
  let copied := World.firstCopy.append World.shift.command
  have locals : ∀ list ∈ [copied, failingList],
      BindGroupCache.BindsOnly (fun bundle => bundle.program.Local) list.recorded := by
    intro list chosen bundle bound
    rcases List.mem_cons.mp chosen with rfl | last
    · cases List.mem_singleton.mp bound
    · rw [List.mem_singleton.mp last] at bound
      change Command.setPipeline bundle ∈
        [.setPipeline givingUp, .setTable 0 ⟨0, 1⟩, .dispatch ⟨4, 1, 1⟩] at bound
      have same : bundle = givingUp := by simpa using bound
      rw [same]
      exact @Catalogue.local_of_find? "panic_at" (some 2) _ rfl
  have apart : Command.Apart independent.world.device.heap copied.recorded failingList.recorded :=
    ⟨by decide, by decide⟩
  exact ⟨World.begins_soft, leads_independent, submittable_independent,
    commutes_of_leads World.begins_soft rfl leads_independent submittable_independent locals apart
      0 1,
    rfl, rfl⟩

end Stage

end CommandQueue
