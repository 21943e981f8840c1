import CommandQueue.Proofs.Faults
import Mathlib.Data.Set.Function
import Mathlib.Order.Interval.Set.Defs

/-!
# Sweeps over grids

A dispatch takes the groups of its grid plane by plane, in each plane row by row
and in each row place by place (`Program.loops`).  Counted in this order, a group
has the number that it computes for itself (`Extent.Numbers`), and none of the
products and sums on the way leaves the word, as long as the grid has no more
groups than there are words.  So the program sees the numbers from zero on
without a gap, up to the last group or to the first one in which it gives up
(`Program.Counts`).
-/

namespace CommandQueue

/-! ## Numbers of groups -/

namespace Extent

variable {grid group : Extent}

/-- The number of a group: rows and planes before it count in full. -/
def number (grid group : Extent) : Nat := group.x + grid.x * (group.y + grid.y * group.z)

/-- The groups of a grid, plane by plane, in each plane row by row. -/
def sweep (grid : Extent) : List Extent :=
  (List.range grid.z).flatMap fun z =>
    (List.range grid.y).flatMap fun y =>
      (List.range grid.x).map fun x => ⟨x, y, z⟩

theorem number_groupAt (grid : Extent) (index : Nat) :
    grid.number (grid.groupAt index) = index := by
  have rows : index / grid.x % grid.y + grid.y * (index / grid.x / grid.y) = index / grid.x :=
    Nat.mod_add_div _ _
  have places : index % grid.x + grid.x * (index / grid.x) = index := Nat.mod_add_div _ _
  simp only [number, groupAt, rows, places]

theorem groupAt_number (contains : grid.Contains group) :
    grid.groupAt (grid.number group) = group := by
  obtain ⟨x, y, z⟩ := group
  obtain ⟨xInside, yInside, zInside⟩ := contains
  dsimp only at xInside yInside zInside
  have xPositive : 0 < grid.x := by omega
  have yPositive : 0 < grid.y := by omega
  simp only [groupAt, number, Nat.add_mul_mod_self_left, Nat.mod_eq_of_lt xInside,
    Nat.add_mul_div_left _ _ xPositive, Nat.div_eq_of_lt xInside, Nat.zero_add,
    Nat.mod_eq_of_lt yInside, Nat.add_mul_div_left _ _ yPositive, Nat.div_eq_of_lt yInside]

theorem number_lt_size (contains : grid.Contains group) : grid.number group < grid.size := by
  obtain ⟨xInside, yInside, zInside⟩ := contains
  have rows : group.y + grid.y * group.z < grid.y * grid.z := by
    calc group.y + grid.y * group.z < grid.y + grid.y * group.z := by omega
      _ = grid.y * (group.z + 1) := by rw [Nat.mul_succ, Nat.add_comm]
      _ ≤ grid.y * grid.z := Nat.mul_le_mul_left _ zInside
  calc grid.number group < grid.x + grid.x * (group.y + grid.y * group.z) := by
        unfold number
        omega
    _ = grid.x * (group.y + grid.y * group.z + 1) := by rw [Nat.mul_succ, Nat.add_comm]
    _ ≤ grid.x * (grid.y * grid.z) := Nat.mul_le_mul_left _ rows
    _ = grid.size := by rw [size, Nat.mul_assoc]

theorem word?_of_lt {number : Nat} (small : number < longBound) :
    word? number = some number := if_pos small

/-- A group of a grid finds its number: what is computed on the way is never greater. -/
theorem linearIndex?_of_contains (fits : grid.size ≤ longBound) (contains : grid.Contains group) :
    grid.linearIndex? group = some (grid.number group) := by
  have whole : grid.number group < longBound := Nat.lt_of_lt_of_le (number_lt_size contains) fits
  have xPositive : 0 < grid.x := Nat.lt_of_le_of_lt (Nat.zero_le _) contains.1
  have wide : group.y + grid.y * group.z ≤ grid.x * (group.y + grid.y * group.z) :=
    Nat.le_mul_of_pos_left _ xPositive
  unfold number at whole ⊢
  have planes := word?_of_lt (show grid.y * group.z < longBound by omega)
  have rows := word?_of_lt (show group.y + grid.y * group.z < longBound by omega)
  have ahead := word?_of_lt (show grid.x * (group.y + grid.y * group.z) < longBound by omega)
  simp only [linearIndex?, planes, rows, ahead, Option.bind_eq_bind, Option.bind_some]
  exact word?_of_lt whole

/-- The numbers that groups compute for themselves are those below the size of the grid, each
the number of one group. -/
structure Numbers (grid : Extent) : Prop where
  exact : ∀ group, grid.Contains group → grid.linearIndex? group = some (grid.number group)
  bijective : Set.BijOn grid.number {group | grid.Contains group} (Set.Iio grid.size)

theorem numbers_of_fits (fits : grid.size ≤ longBound) : grid.Numbers where
  exact _ contains := linearIndex?_of_contains fits contains
  bijective := by
    have inverse : Set.InvOn grid.groupAt grid.number {group | grid.Contains group}
        (Set.Iio grid.size) :=
      ⟨fun group contains => groupAt_number contains, fun index _ => grid.number_groupAt index⟩
    apply inverse.bijOn
    · exact fun group contains => number_lt_size contains
    · exact fun index within => groupAt_contained within

/-- Numbers in rows of one length. -/
theorem range_mul (width count : Nat) :
    List.range (width * count) =
      (List.range count).flatMap fun row =>
        (List.range width).map fun column => column + width * row := by
  induction count with
  | zero => simp
  | succ count inductionHypothesis =>
      rw [Nat.mul_succ, List.range_add, inductionHypothesis, List.range_succ,
        List.flatMap_append, List.flatMap_singleton]
      simp only [Nat.add_comm]

/-- The sweep comes to the groups in the order of their numbers. -/
theorem sweep_eq_map (grid : Extent) : grid.sweep = (List.range grid.size).map grid.groupAt := by
  rw [size, Nat.mul_assoc, range_mul, range_mul, List.flatMap_assoc, List.map_flatMap, sweep]
  apply List.flatMap_congr
  intro z zMember
  rw [List.flatMap_map, List.map_flatMap]
  apply List.flatMap_congr
  intro y yMember
  rw [List.map_map]
  apply List.map_congr_left
  intro x xMember
  rw [List.mem_range] at xMember yMember zMember
  exact (@groupAt_number grid ⟨x, y, z⟩ ⟨xMember, yMember, zMember⟩).symm

end Extent

/-! ## Sweeps -/

/-- A sweep over a grid under way. -/
structure Sweep where
  scene : Scene
  /-- What the program was invoked for so far, in order. -/
  invoked : List Invocation

namespace Program

variable {program : Program} {grid : Extent} {tables : List (List Buffer)} {scene : Scene}

/-- Invoke the program for one group.  If it gives up there, the sweep ends. -/
def turn (program : Program) (grid : Extent) (tables : List (List Buffer)) (group : Extent) :
    ExceptT Extent (StateM Sweep) Unit := do
  let sweep ← get
  let invocation : Invocation := ⟨grid, group, tables⟩
  let run := program invocation sweep.scene
  set (Sweep.mk run.scene (sweep.invoked ++ [invocation]))
  unless run.finished do throw group

/-- Three loops: over the planes, over the rows of a plane, and over the places of a row. -/
def loops (program : Program) (grid : Extent) (tables : List (List Buffer)) :
    ExceptT Extent (StateM Sweep) Unit :=
  forM (List.range grid.z) fun z =>
    forM (List.range grid.y) fun y =>
      forM (List.range grid.x) fun x => program.turn grid tables ⟨x, y, z⟩

/-- The end of a whole sweep: the group in which the program gave up, if it did, and the sweep. -/
def swept (program : Program) (grid : Extent) (tables : List (List Buffer)) (scene : Scene) :
    Except Extent Unit × Sweep :=
  (program.loops grid tables).run.run ⟨scene, []⟩

theorem forM_flatMap {m : Type → Type} [Monad m] [LawfulMonad m] {α β : Type} (items : List α)
    (parts : α → List β) (act : β → m Unit) :
    forM (items.flatMap parts) act = forM items fun item => forM (parts item) act := by
  induction items with
  | nil => simp
  | cons item rest inductionHypothesis =>
      rw [List.flatMap_cons, List.forM_append, inductionHypothesis, List.forM_cons]

theorem loops_eq_forM (program : Program) (grid : Extent) (tables : List (List Buffer)) :
    program.loops grid tables = forM grid.sweep (program.turn grid tables) := by
  rw [Extent.sweep, forM_flatMap]
  simp only [forM_flatMap, List.forM_map, loops]

theorem run_turn (program : Program) (grid : Extent) (tables : List (List Buffer))
    (group : Extent) (sweep : Sweep) :
    (program.turn grid tables group).run.run sweep =
      let run := program ⟨grid, group, tables⟩ sweep.scene
      (if run.finished then .ok () else .error group,
        ⟨run.scene, sweep.invoked ++ [⟨grid, group, tables⟩]⟩) := by
  dsimp only
  change (if (program ⟨grid, group, tables⟩ sweep.scene).finished = true then pure ()
    else throw group : ExceptT Extent (StateM Sweep) Unit).run.run _ = _
  by_cases finished : (program ⟨grid, group, tables⟩ sweep.scene).finished = true
  · rw [if_pos finished, if_pos finished]
    rfl
  · rw [if_neg finished, if_neg finished]
    rfl

/-- How a sweep ends that was stopped in a group, or was not stopped. -/
def ending : Option Extent → Except Extent Unit
  | none => .ok ()
  | some group => .error group

theorem run_forM_turn (program : Program) (grid : Extent) (tables : List (List Buffer))
    (index count : Nat) (sweep : Sweep) :
    (forM ((List.range' index count).map grid.groupAt) (program.turn grid tables)).run.run sweep =
      (ending (program.visitFrom grid tables index count sweep.scene).2,
        ⟨(program.visitFrom grid tables index count sweep.scene).1,
          sweep.invoked ++ program.invocationsFrom grid tables index count sweep.scene⟩) := by
  -- By induction on the groups that are left; the sweep so far is carried along.
  induction count generalizing index sweep with
  | zero =>
      rw [invocationsFrom, List.append_nil]
      rfl
  | succ count inductionHypothesis =>
      rw [List.range'_succ, List.map_cons, List.forM_cons, visitFrom, invocationsFrom,
        ExceptT.run_bind, StateT.run_bind, run_turn]
      by_cases finished : (program ⟨grid, grid.groupAt index, tables⟩ sweep.scene).finished = true
      · simp only [if_pos finished]
        refine (inductionHypothesis (index + 1) _).trans ?_
        rw [List.append_assoc, List.singleton_append]
      · simp only [if_neg finished]
        rfl

/-- The three loops visit the groups as the program's visit does. -/
theorem swept_eq (program : Program) (grid : Extent) (tables : List (List Buffer))
    (scene : Scene) :
    program.swept grid tables scene =
      (ending (program.visit grid tables scene).2,
        ⟨(program.visit grid tables scene).1,
          program.invocationsFrom grid tables 0 grid.size scene⟩) := by
  rw [swept, loops_eq_forM, Extent.sweep_eq_map, List.range_eq_range', run_forM_turn,
    List.nil_append, visit]

theorem visits_visit (program : Program) (grid : Extent) (tables : List (List Buffer))
    (scene : Scene) :
    Visits program grid tables scene 0 grid.size (program.visit grid tables scene)
      (program.invocationsFrom grid tables 0 grid.size scene) :=
  program.visits_visitFrom grid tables scene 0 grid.size

theorem visit_of_finishes
    (finishes : ∀ index < grid.size, program.FinishesAt grid tables scene index) :
    (program.visit grid tables scene).2 = none ∧
      program.invocationsFrom grid tables 0 grid.size scene = groups grid tables 0 grid.size := by
  have visits := program.visits_visit grid tables scene
  generalize program.visit grid tables scene = final at visits ⊢
  generalize program.invocationsFrom grid tables 0 grid.size scene = invoked at visits ⊢
  cases visits with
  | finished => exact ⟨rfl, rfl⟩
  | @stopped stop within _ stops =>
      rw [Nat.zero_add] at stops
      exact absurd (finishes stop within) stops

theorem visit_of_stops {index : Nat} (within : index < grid.size)
    (earlier : ∀ place < index, program.FinishesAt grid tables scene place)
    (gaveUp : ¬ program.FinishesAt grid tables scene index) :
    (program.visit grid tables scene).2 = some (grid.groupAt index) ∧
      program.invocationsFrom grid tables 0 grid.size scene = groups grid tables 0 (index + 1) := by
  have visits := program.visits_visit grid tables scene
  generalize program.visit grid tables scene = final at visits ⊢
  generalize program.invocationsFrom grid tables 0 grid.size scene = invoked at visits ⊢
  cases visits with
  | finished finishes =>
      exact absurd (finishes index (Nat.zero_le index) (by omega)) gaveUp
  | @stopped stop _ finishes stops =>
      rw [Nat.zero_add] at finishes stops ⊢
      have same : stop = index := by
        apply Nat.le_antisymm
        · exact Nat.le_of_not_lt fun later => gaveUp (finishes index (Nat.zero_le index) later)
        · exact Nat.le_of_not_lt fun sooner => stops (earlier stop sooner)
      subst same
      exact ⟨rfl, rfl⟩

theorem length_groups (grid : Extent) (tables : List (List Buffer)) (index count : Nat) :
    (groups grid tables index count).length = count := by
  simp [groups]

theorem getElem_groups (grid : Extent) (tables : List (List Buffer)) {index count place : Nat}
    (inside : place < (groups grid tables index count).length) :
    (groups grid tables index count)[place] = ⟨grid, grid.groupAt (index + place), tables⟩ := by
  simp [groups]

/-- Whether or not the program gives up, its invocations are for the first groups of the grid. -/
theorem invocationsFrom_eq_groups (program : Program) (grid : Extent)
    (tables : List (List Buffer)) (scene : Scene) :
    ∃ count ≤ grid.size,
      program.invocationsFrom grid tables 0 grid.size scene = groups grid tables 0 count := by
  have visits := program.visits_visit grid tables scene
  generalize program.visit grid tables scene = final at visits
  generalize program.invocationsFrom grid tables 0 grid.size scene = invoked at visits ⊢
  cases visits with
  | finished => exact ⟨grid.size, Nat.le_refl _, rfl⟩
  | @stopped stop within => exact ⟨stop + 1, within, rfl⟩

/-- The program is invoked for the groups in the order of their numbers, from zero on without a
gap: for all of them, or for those up to the first one in which it gives up. -/
structure Counts (program : Program) (grid : Extent) (tables : List (List Buffer))
    (scene : Scene) : Prop where
  inOrder : ∀ place (inside : place < (program.swept grid tables scene).2.invoked.length),
    let invocation := (program.swept grid tables scene).2.invoked[place]
    invocation.index? = some place ∧ grid.Contains invocation.group ∧
      invocation.grid = grid ∧ invocation.tables = tables
  finished : (∀ index < grid.size, program.FinishesAt grid tables scene index) →
    (program.swept grid tables scene).1 = .ok () ∧
      (program.swept grid tables scene).2.invoked.length = grid.size
  stopped : ∀ index < grid.size,
    (∀ earlier < index, program.FinishesAt grid tables scene earlier) →
      ¬ program.FinishesAt grid tables scene index →
        (program.swept grid tables scene).1 = .error (grid.groupAt index) ∧
          (program.swept grid tables scene).2.invoked.length = index + 1
  empty : grid.x = 0 ∨ grid.y = 0 ∨ grid.z = 0 →
    program.swept grid tables scene = (.ok (), ⟨scene, []⟩)

theorem counts_of_fits (fits : grid.size ≤ longBound) (program : Program)
    (tables : List (List Buffer)) (scene : Scene) : program.Counts grid tables scene := by
  refine ⟨?_, ?_, ?_, ?_⟩
  · intro place inside invocation
    obtain ⟨count, most, shape⟩ := program.invocationsFrom_eq_groups grid tables scene
    have invoked : (program.swept grid tables scene).2.invoked = groups grid tables 0 count := by
      rw [swept_eq, shape]
    have same : invocation = ⟨grid, grid.groupAt place, tables⟩ := by
      simp only [invocation, invoked, getElem_groups, Nat.zero_add]
    rw [invoked, length_groups] at inside
    have contained : grid.Contains (grid.groupAt place) :=
      Extent.groupAt_contained (Nat.lt_of_lt_of_le inside most)
    rw [same, Invocation.index?, Extent.linearIndex?_of_contains fits contained,
      Extent.number_groupAt]
    exact ⟨rfl, contained, rfl, rfl⟩
  · intro finishes
    obtain ⟨whole, invoked⟩ := visit_of_finishes finishes
    rw [swept_eq, whole, invoked, length_groups]
    exact ⟨rfl, rfl⟩
  · intro index within earlier gaveUp
    obtain ⟨last, invoked⟩ := visit_of_stops within earlier gaveUp
    rw [swept_eq, last, invoked, length_groups]
    exact ⟨rfl, rfl⟩
  · intro flat
    have none : grid.size = 0 := by
      rw [Extent.size]
      rcases flat with flat | flat | flat <;> simp [flat]
    rw [swept_eq, visit, none]
    rfl

end Program

/-- The kernel that reports its visits gives up in the group whose number is its limit. -/
theorem Catalogue.finishesAt_trace {grid : Extent} {index : Nat} (fits : grid.size ≤ longBound)
    (within : index < grid.size) (limit : Nat) (tables : List (List Buffer)) (scene : Scene) :
    (trace (some limit)).FinishesAt grid tables scene index ↔ index < limit := by
  have numbered := Extent.linearIndex?_of_contains fits (Extent.groupAt_contained within)
  rw [Extent.number_groupAt] at numbered
  simp only [Program.FinishesAt, trace, indexed, Invocation.index?, numbered, Option.any_some,
    decide_eq_true_eq]
  by_cases beyond : limit ≤ index
  · simp [beyond]
  · simp [beyond, Nat.lt_of_not_le beyond]

/-! ## Dispatches -/

namespace Execution

/-- What a dispatch does with a kernel that runs with the given tables. -/
structure Sweeps (heap : DescriptorHeap) (bindings : Bindings) (grid : Extent) (scene : Scene)
    (bundle : Bundle) (tables : List (List Buffer)) : Prop where
  /-- A dispatch is three loops, and a kernel that gives up is its only failure. -/
  outcome : dispatch heap bindings grid scene =
    ((bundle.program.swept grid tables scene).2.scene,
      match (bundle.program.swept grid tables scene).1 with
      | .ok () => none
      | .error group => some (.panicked bundle.kernel group))
  counts : bundle.program.Counts grid tables scene
  numbers : grid.Numbers

/-- A dispatch takes the groups of its grid in the order of their numbers. -/
theorem sweeps_of_fits {heap : DescriptorHeap} {bindings : Bindings} {bundle : Bundle}
    {tables : List (List Buffer)} {grid : Extent} (piped : bindings.pipeline = some bundle)
    (resolved : resolveTables heap (bindings.tables.take bundle.slots) = .ok tables)
    (fits : grid.size ≤ longBound) (scene : Scene) :
    Sweeps heap bindings grid scene bundle tables := by
  refine ⟨?_, Program.counts_of_fits fits bundle.program tables scene,
    Extent.numbers_of_fits fits⟩
  rw [Program.swept_eq, dispatch, piped]
  dsimp only
  rw [resolved]
  dsimp only
  cases (bundle.program.visit grid tables scene).2 <;> rfl

/-- The grid has more than two to the thirty-fourth groups, three in a row and two rows in a plane.
The kernel gives up in its eighth group, which is the second one of the second plane. -/
theorem sweeps_of_fits_eighth :
    let bundle : Bundle := ⟨0, "trace", 0, Catalogue.trace (some 7)⟩
    let heap := DescriptorHeap.new 0
    let bindings := Bindings.replay [.setPipeline bundle]
    let grid : Extent := ⟨3, 2, 4294967295⟩
    bindings.pipeline = some bundle ∧
      resolveTables heap (bindings.tables.take bundle.slots) = .ok [] ∧
      grid.size ≤ longBound ∧
      Sweeps heap bindings grid Scene.empty bundle [] ∧
      (bundle.program.swept grid [] Scene.empty).2.invoked.length = 8 ∧
      (dispatch heap bindings grid Scene.empty).2 = some (.panicked "trace" ⟨1, 0, 1⟩) := by
  intro bundle heap bindings grid
  have fits : grid.size ≤ longBound := by decide
  have sweeps : Sweeps heap bindings grid Scene.empty bundle [] :=
    sweeps_of_fits rfl rfl fits Scene.empty
  have finishes : ∀ index < grid.size,
      (bundle.program.FinishesAt grid [] Scene.empty index ↔ index < 7) :=
    fun index within => Catalogue.finishesAt_trace fits within 7 [] Scene.empty
  have within : 7 < grid.size := by decide
  have stopped := sweeps.counts.stopped 7 within
    (fun earlier before => (finishes earlier (Nat.lt_trans before within)).mpr before)
    (fun finished => Nat.lt_irrefl 7 ((finishes 7 within).mp finished))
  refine ⟨rfl, rfl, fits, sweeps, stopped.2, ?_⟩
  have eighth : grid.groupAt 7 = ⟨1, 0, 1⟩ := by decide
  rw [sweeps.outcome, stopped.1, eighth]

end Execution

end CommandQueue
