import CommandQueue.Demo.Simulation
import CommandQueue.Proofs.Footprints
import CommandQueue.Proofs.Sizes

/-!
# Moving batches of particles

The kernel that moves particles reads and writes the one buffer of its table.
So a batch that is moved depends on no other batch and changes none, and the
batches of a frame can be moved in any order (`movedAll_perm`).  What is moved
are bytes; nothing is assumed of the numbers that they stand for.
-/

namespace CommandQueue.Demo

open Scene

theorem Particle.length_encode (particle : Particle) :
    (Particle.element.encode particle).length = 16 := by
  rw [Particle.element, Element.length_encodeAll Element.word_lawful]
  rfl

theorem Particle.length_encodeAll (particles : List Particle) :
    (Particle.element.encodeAll particles).length = 16 * particles.length :=
  Element.length_encodeAll_of_width fun particle _ => particle.length_encode

/-! ## The kernel -/

/-- Where there is a particle, its bytes are overwritten if they are inside the buffer. -/
theorem advanceAt_of_present {scene : Scene} {buffer : Buffer} {index : Nat} {particle : Particle}
    (present : scene.memory.readAt? Particle.element buffer index = some particle) :
    advanceAt buffer index scene =
      if index * Particle.element.width + (Particle.element.encodeAll [particle.advance]).length ≤
          buffer.size then
        { scene with
          memory := scene.memory.overwrite buffer.storage (index * Particle.element.width)
            (Particle.element.encodeAll [particle.advance]) }
      else
        scene := by
  simp only [advanceAt, present, Memory.writeAll, Memory.write]
  by_cases fits : index * Particle.element.width +
      (Particle.element.encodeAll [particle.advance]).length ≤ buffer.size
  · simp only [if_pos fits]
  · simp only [if_neg fits]

theorem confined_advanceAt {storages : List Nat} {buffer : Buffer}
    (member : buffer.storage ∈ storages) (index : Nat) :
    Confined storages storages
      fun scene => (⟨advanceAt buffer index scene, true⟩ : KernelRun).outcome := by
  let bytes (particle : Particle) : Bytes := Particle.element.encodeAll [particle.advance]
  let write (particle : Particle) (scene : Scene) : KernelRun :=
    if index * Particle.element.width + (bytes particle).length ≤ buffer.size then
      ⟨{ scene with
        memory := scene.memory.overwrite buffer.storage (index * Particle.element.width)
          (bytes particle) }, true⟩
    else
      ⟨scene, true⟩
  have confinedWrite : ∀ particle,
      Confined storages storages fun scene => (write particle scene).outcome := by
    intro particle
    unfold write
    by_cases fits : index * Particle.element.width + (bytes particle).length ≤ buffer.size
    · simp only [if_pos fits]
      exact Confined.overwrite (List.Subset.refl _) (fun _ _ _ => rfl) member _ true
    · simp only [if_neg fits]
      exact Catalogue.confined_stop true
  refine Catalogue.confined_reading
    (fun _ _ same => Catalogue.readAt?_of_sameOn Particle.element same member index)
    ?_ ?_ (Catalogue.confined_stop true) confinedWrite
  · intro scene missing
    simp only [advanceAt, missing]
  · intro scene particle present
    rw [advanceAt_of_present present]
    unfold write
    split <;> rfl

/-- The kernel reads and changes only the buffers of its tables. -/
theorem local_integrate : integrate.Local := by
  intro invocation
  cases first : (invocation.table 0).head? with
  | none =>
      simp only [integrate, first]
      exact Catalogue.confined_stop true
  | some buffer =>
      cases numbered : invocation.index? with
      | none =>
          simp only [integrate, first, numbered]
          exact Catalogue.confined_stop false
      | some index =>
          simp only [integrate, first, numbered]
          exact confined_advanceAt (Catalogue.storage_mem_of_head? first) index

theorem extends_advanceAt {scene : Scene} {buffer : Buffer} (held : scene.memory.Holds buffer)
    (index : Nat) : scene.memory.Extends (advanceAt buffer index scene).memory := by
  unfold advanceAt
  split
  · exact Memory.Extends.refl _
  · dsimp only
    split
    · rename_i memory written
      exact Memory.extends_write held written
    · exact Memory.Extends.refl _

/-- The kernel leaves all sizes as they are. -/
theorem tame_integrate : integrate.Tame := by
  intro invocation scene held
  unfold integrate
  split
  · exact Memory.Extends.refl _
  · rename_i buffer first
    split
    · exact Memory.Extends.refl _
    · exact extends_advanceAt (Catalogue.holds_of_head? held first) _

namespace Simulation

/-! ## Batches -/

def batchBytes : Nat := 1024

def batchBuffer (number : Nat) : Buffer := ⟨number, batchBytes⟩

/-- The groups of a move, one for each particle of a batch. -/
def grid : Extent := ⟨batchSize, 1, 1⟩

/-- The visit of a batch. -/
@[irreducible]
def visitBatch (number : Nat) (scene : Scene) : Scene × Option Extent :=
  integrate.visit grid [[batchBuffer number]] scene

def moved (memory : Memory) (number : Nat) : Memory := (visitBatch number ⟨memory, []⟩).1.memory

def movedAll (memory : Memory) (numbers : List Nat) : Memory := numbers.foldl moved memory

theorem visitBatch_eq (number : Nat) (scene : Scene) :
    visitBatch number scene = integrate.visit grid [[batchBuffer number]] scene := by
  rw [visitBatch]

theorem movedAll_nil (memory : Memory) : movedAll memory [] = memory := rfl

theorem confined_visitBatch (number : Nat) : Confined [number] [number] (visitBatch number) := by
  rw [funext (visitBatch_eq number)]
  exact local_integrate.visitFrom grid [[batchBuffer number]] 0 grid.size

/-- What was reported before makes no difference to the memory. -/
theorem memory_visitBatch (number : Nat) (scene : Scene) :
    (visitBatch number scene).1.memory = moved scene.memory number := by
  have confined := confined_visitBatch number
  have same := (confined.determined scene ⟨scene.memory, []⟩ fun _ _ => rfl).2
  refine congrArg Memory.mk (List.ext_getElem? ?_)
  intro storage
  by_cases own : storage ∈ [number]
  · exact same storage own
  · rw [confined.keeps scene storage own, confined.keeps ⟨scene.memory, []⟩ storage own]

/-- Two batches can be moved in either order. -/
theorem moved_comm (memory : Memory) {first second : Nat} (different : first ≠ second) :
    moved (moved memory first) second = moved (moved memory second) first := by
  have apart : ∀ storage ∈ [first], storage ∉ [second] := by
    intro storage own other
    exact different ((List.mem_singleton.mp own).symm.trans (List.mem_singleton.mp other))
  have alsoApart : ∀ storage ∈ [second], storage ∉ [first] :=
    fun storage own other => apart storage other own
  have commuted := ((confined_visitBatch first).commute (confined_visitBatch second) apart
    alsoApart ⟨memory, []⟩).1
  calc moved (moved memory first) second
      = (visitBatch second (visitBatch first ⟨memory, []⟩).1).1.memory :=
        (memory_visitBatch second _).symm
    _ = (visitBatch first (visitBatch second ⟨memory, []⟩).1).1.memory := commuted
    _ = moved (moved memory second) first := memory_visitBatch first _

/-- The order in which batches are moved makes no difference. -/
theorem movedAll_perm (memory : Memory) {left right : List Nat} (perm : left.Perm right) :
    movedAll memory left = movedAll memory right := by
  refine perm.foldl_eq' ?_ memory
  intro first _ second _ each
  by_cases same : first = second
  · rw [same]
  · exact moved_comm each same

theorem extends_moved {memory : Memory} {number : Nat} (held : memory.Holds (batchBuffer number)) :
    memory.Extends (moved memory number) := by
  rw [moved, visitBatch_eq]
  refine @Program.Tame.visitFrom integrate tame_integrate grid [[batchBuffer number]] 0 grid.size
    ⟨memory, []⟩ ?_
  intro table tableMember buffer chosen
  rw [List.mem_singleton.mp tableMember] at chosen
  rw [List.mem_singleton.mp chosen]
  exact held

theorem extends_movedAll {memory : Memory} {numbers : List Nat}
    (held : ∀ number ∈ numbers, memory.Holds (batchBuffer number)) :
    memory.Extends (movedAll memory numbers) := by
  induction numbers generalizing memory with
  | nil => exact Memory.Extends.refl _
  | cons number rest inductionHypothesis =>
      obtain ⟨first, others⟩ := List.forall_mem_cons.mp held
      have extended := extends_moved first
      exact extended.trans (inductionHypothesis fun other member =>
        extended _ (others other member))

end Simulation

end CommandQueue.Demo
