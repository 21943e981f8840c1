import CommandQueue.Kernel

/-!
# A catalogue of kernels

Small programs on buffers of 32-bit words, found by name.  Each of them uses the
number of its group as an index into the bound buffers and gives up where a
buffer or an element that it needs is missing.
-/

namespace CommandQueue.Catalogue

/-- A program that needs the number of its group. -/
def indexed (body : Invocation → Nat → Scene → KernelRun) : Program :=
  fun invocation scene =>
    match invocation.index? with
    | some index => body invocation index scene
    | none => ⟨scene, false⟩

/-- Put a word into the place of number `index` of a buffer, or give up. -/
def store (scene : Scene) (buffer : Buffer) (index : Nat) (value : UInt32) : KernelRun :=
  match scene.memory.writeAll Element.word buffer (4 * index) [value] with
  | .ok memory => ⟨{ scene with memory := memory }, true⟩
  | .error _ => ⟨scene, false⟩

def storeFirst (invocation : Invocation) (index : Nat) (value : UInt32) (scene : Scene) :
    KernelRun :=
  match (invocation.table 0).head? with
  | some buffer => store scene buffer index value
  | none => ⟨scene, false⟩

def noop : Program := fun _ scene => ⟨scene, true⟩

/-- Add one to the group's word of the first buffer. -/
def increment : Program :=
  indexed fun invocation index scene =>
    match (invocation.table 0).head? with
    | none => ⟨scene, false⟩
    | some buffer =>
        match scene.memory.readAt? Element.word buffer index with
        | some value => store scene buffer index (value + 1)
        | none => ⟨scene, false⟩

/-- Write the group's number, counted from one, into the first buffer. -/
def fill : Program :=
  indexed fun invocation index scene =>
    storeFirst invocation index (UInt32.ofNat (index + 1)) scene

/-- Add an amount to the group's word of each buffer in turn; buffers without that word are
passed over. -/
def addToEach (index : Nat) (amount : UInt32) : List Buffer → Scene → KernelRun
  | [], scene => ⟨scene, true⟩
  | buffer :: rest, scene =>
      match scene.memory.readAt? Element.word buffer index with
      | none => addToEach index amount rest scene
      | some value =>
          let run := store scene buffer index (value + amount)
          if run.finished then addToEach index amount rest run.scene else run

def addAll (amount : Nat) : Program :=
  indexed fun invocation index scene =>
    addToEach index (UInt32.ofNat amount) invocation.tables.flatten scene

/-- The sum of the group's words of some buffers, if each has one. -/
def sum? (scene : Scene) (index : Nat) : List Buffer → Option UInt32
  | [] => some 0
  | buffer :: rest => do
      let value ← scene.memory.readAt? Element.word buffer index
      let others ← sum? scene index rest
      return value + others

/-- Sum the group's words of all buffers outside the first table into its first buffer. -/
def gather : Program :=
  indexed fun invocation index scene =>
    match sum? scene index invocation.tables.tail.flatten with
    | some total => storeFirst invocation index total scene
    | none => ⟨scene, false⟩

/-- Give up at one group and fill at the others. -/
def panicAt (stop : Option Nat) : Program :=
  indexed fun invocation index scene =>
    if stop = some index then
      ⟨scene, false⟩
    else
      storeFirst invocation index (UInt32.ofNat (index + 1)) scene

/-- Report the visit of each group below a limit and give up from there on. -/
def trace (limit : Option Nat) : Program :=
  indexed fun invocation index scene =>
    if limit.any (· ≤ index) then
      ⟨scene, false⟩
    else
      let sizes := shownSlots.map fun slot => (invocation.table slot).map Buffer.size
      let visit : Visit := ⟨invocation.group, invocation.grid, index, sizes⟩
      ⟨{ scene with visits := visit :: scene.visits }, true⟩

/-- The program of a name, with its argument. -/
def find? (name : String) (argument : Option Nat) : Option Program :=
  match name with
  | "noop" => some noop
  | "increment" => some increment
  | "fill" => some fill
  | "add_all" => some (addAll (argument.getD 0))
  | "gather" => some gather
  | "panic_at" => some (panicAt argument)
  | "trace" => some (trace argument)
  | _ => none

end CommandQueue.Catalogue
