import CommandQueue.Kernel.Catalogue

/-!
# Sizes of buffers

A buffer that a memory holds has its size for good: storages are added, and what
is written into them fits.  `Memory.Extends` says so of two states of a memory.
A kernel is tame when it changes the memory in no other way, given buffers that
the memory holds; the kernels of the catalogue are tame.
-/

namespace CommandQueue

namespace Memory

/-- The later memory holds every buffer of the earlier one. -/
def Extends (before after : Memory) : Prop :=
  ∀ buffer, before.Holds buffer → after.Holds buffer

theorem Extends.refl (memory : Memory) : memory.Extends memory := fun _ held => held

theorem Extends.trans {before middle after : Memory} (first : before.Extends middle)
    (second : middle.Extends after) : before.Extends after :=
  fun buffer held => second buffer (first buffer held)

theorem storage_lt_of_holds {memory : Memory} {buffer : Buffer} (held : memory.Holds buffer) :
    buffer.storage < memory.storages.length := by
  obtain ⟨contents, present, _⟩ := Option.map_eq_some_iff.mp held
  exact (List.getElem?_eq_some_iff.mp present).1

theorem length_bytes_of_holds {memory : Memory} {buffer : Buffer} (held : memory.Holds buffer) :
    (memory.bytes buffer).length = buffer.size := by
  obtain ⟨contents, present, size⟩ := Option.map_eq_some_iff.mp held
  rw [bytes, bytesAt, present]
  exact size

theorem extends_allocate (memory : Memory) (contents : Bytes) :
    memory.Extends (memory.allocate contents).1 := by
  intro buffer held
  obtain ⟨old, present, size⟩ := Option.map_eq_some_iff.mp held
  refine Option.map_eq_some_iff.mpr ⟨old, ?_, size⟩
  exact (List.getElem?_append_left (storage_lt_of_holds held)).trans present

/-- Writing inside a buffer leaves all sizes as they are. -/
theorem extends_overwrite {memory : Memory} {target : Buffer} {offset : Nat} {data : Bytes}
    (held : memory.Holds target) (fits : offset + data.length ≤ target.size) :
    memory.Extends (memory.overwrite target.storage offset data) := by
  intro buffer bufferHeld
  obtain ⟨contents, present, size⟩ := Option.map_eq_some_iff.mp bufferHeld
  unfold Holds overwrite
  rw [List.getElem?_modify, present]
  by_cases same : target.storage = buffer.storage
  · have inside : offset + data.length ≤ contents.length := by
      have targetSize := length_bytes_of_holds held
      rw [bytes, bytesAt, same, present] at targetSize
      change contents.length = target.size at targetSize
      rw [targetSize]
      exact fits
    simp [same, Bytes.length_splice inside, size]
  · simp [same, size]

theorem extends_write {memory after : Memory} {buffer : Buffer} {offset : Nat} {data : Bytes}
    (held : memory.Holds buffer) (written : memory.write buffer offset data = .ok after) :
    memory.Extends after := by
  unfold write at written
  by_cases fits : offset + data.length ≤ buffer.size
  · rw [if_pos fits] at written
    cases written
    exact extends_overwrite held fits
  · rw [if_neg fits] at written
    cases written

theorem extends_copy {memory : Memory} {region : CopyRegion} (target : memory.Holds region.target)
    (inBounds : region.InBounds) : memory.Extends (memory.copy region) := by
  refine extends_overwrite target ?_
  have taken := Nat.min_le_left region.size
    ((memory.bytes region.source).length - region.sourceOffset)
  rw [← Bytes.length_window] at taken
  exact Nat.le_trans (Nat.add_le_add_left taken _) inBounds.2

end Memory

/-- All buffers bound for the invocation are held by the memory. -/
def Invocation.Held (invocation : Invocation) (memory : Memory) : Prop :=
  ∀ table ∈ invocation.tables, ∀ buffer ∈ table, memory.Holds buffer

namespace Program

/-- The program leaves all sizes as they are. -/
def Tame (program : Program) : Prop :=
  ∀ (invocation : Invocation) (scene : Scene), invocation.Held scene.memory →
    scene.memory.Extends (program invocation scene).scene.memory

theorem Tame.visitFrom {program : Program} (tame : program.Tame) (grid : Extent)
    {tables : List (List Buffer)} (index count : Nat) {scene : Scene}
    (held : ∀ table ∈ tables, ∀ buffer ∈ table, scene.memory.Holds buffer) :
    scene.memory.Extends (program.visitFrom grid tables index count scene).1.memory := by
  induction count generalizing index scene with
  | zero => exact Memory.Extends.refl _
  | succ count inductionHypothesis =>
      have first := tame ⟨grid, grid.groupAt index, tables⟩ scene held
      rw [Program.visitFrom]
      split
      · refine first.trans (inductionHypothesis (index + 1) ?_)
        exact fun table member buffer chosen => first buffer (held table member buffer chosen)
      · exact first

end Program

namespace Catalogue

theorem extends_store {scene : Scene} {buffer : Buffer} (held : scene.memory.Holds buffer)
    (index : Nat) (value : UInt32) :
    scene.memory.Extends (store scene buffer index value).scene.memory := by
  unfold store
  split
  · rename_i memory written
    exact Memory.extends_write held written
  · exact Memory.Extends.refl _

theorem tame_indexed {body : Invocation → Nat → Scene → KernelRun}
    (keeps : ∀ (invocation : Invocation) (index : Nat) (scene : Scene),
      invocation.Held scene.memory →
        scene.memory.Extends (body invocation index scene).scene.memory) :
    (indexed body).Tame := by
  intro invocation scene held
  unfold indexed
  split
  · exact keeps _ _ _ held
  · exact Memory.Extends.refl _

theorem holds_of_head? {invocation : Invocation} {memory : Memory} {buffer : Buffer}
    (held : invocation.Held memory) (first : (invocation.table 0).head? = some buffer) :
    memory.Holds buffer := by
  unfold Invocation.table at first
  cases present : invocation.tables[0]? with
  | none => simp [present] at first
  | some table =>
      rw [present] at first
      exact held table (List.mem_of_getElem? present) buffer (List.mem_of_head? first)

theorem extends_storeFirst {invocation : Invocation} {scene : Scene}
    (held : invocation.Held scene.memory) (index : Nat) (value : UInt32) :
    scene.memory.Extends (storeFirst invocation index value scene).scene.memory := by
  unfold storeFirst
  split
  · rename_i buffer first
    exact extends_store (holds_of_head? held first) index value
  · exact Memory.Extends.refl _

theorem extends_addToEach (index : Nat) (amount : UInt32) {buffers : List Buffer} {scene : Scene}
    (held : ∀ buffer ∈ buffers, scene.memory.Holds buffer) :
    scene.memory.Extends (addToEach index amount buffers scene).scene.memory := by
  induction buffers generalizing scene with
  | nil => exact Memory.Extends.refl _
  | cons buffer rest inductionHypothesis =>
      obtain ⟨bufferHeld, restHeld⟩ := List.forall_mem_cons.mp held
      unfold addToEach
      split
      · exact inductionHypothesis restHeld
      · rename_i value _
        have first := extends_store bufferHeld index (value + amount)
        dsimp only
        split
        · exact first.trans
            (inductionHypothesis fun other member => first other (restHeld other member))
        · exact first

theorem tame_fill : fill.Tame :=
  tame_indexed fun _ _ _ held => extends_storeFirst held _ _

theorem tame_increment : increment.Tame := by
  refine tame_indexed fun invocation index scene held => ?_
  split
  · exact Memory.Extends.refl _
  · rename_i buffer first
    split
    · exact extends_store (holds_of_head? held first) index _
    · exact Memory.Extends.refl _

theorem tame_addAll (amount : Nat) : (addAll amount).Tame := by
  refine tame_indexed fun invocation index scene held => extends_addToEach _ _ ?_
  intro buffer member
  obtain ⟨table, tableMember, chosen⟩ := List.mem_flatten.mp member
  exact held table tableMember buffer chosen

theorem tame_gather : gather.Tame := by
  refine tame_indexed fun invocation index scene held => ?_
  split
  · exact extends_storeFirst held _ _
  · exact Memory.Extends.refl _

theorem tame_panicAt (stop : Option Nat) : (panicAt stop).Tame := by
  refine tame_indexed fun invocation index scene held => ?_
  split
  · exact Memory.Extends.refl _
  · exact extends_storeFirst held _ _

theorem tame_trace (limit : Option Nat) : (trace limit).Tame := by
  refine tame_indexed fun invocation index scene held => ?_
  split <;> exact Memory.Extends.refl _

/-- Every kernel of the catalogue is tame. -/
theorem tame_of_find? {name : String} {argument : Option Nat} {program : Program}
    (found : find? name argument = some program) : program.Tame := by
  unfold find? at found
  split at found
  · cases found
    exact fun _ _ _ => Memory.Extends.refl _
  · cases found
    exact tame_increment
  · cases found
    exact tame_fill
  · cases found
    exact tame_addAll _
  · cases found
    exact tame_gather
  · cases found
    exact tame_panicAt _
  · cases found
    exact tame_trace _
  · cases found

end Catalogue

end CommandQueue
