import CommandQueue.Command
import CommandQueue.FenceValue

/-!
# Journals

A journal holds what the callers of a device achieved, the first deed first:
lists opened, commands recorded, and batches accepted.  It is read in four ways,
which know nothing of allocators' storage, of the queue or of the timeline.
-/

namespace CommandQueue

/-- What a caller achieved. -/
inductive Deed where
  | opened (list : ListId) (allocator : AllocatorId)
  | recorded (list : ListId) (command : Command)
  | accepted (signal : FenceValue) (lists : List ListId)

abbrev Journal := List Deed

namespace Journal

/-- The commands recorded by a list after one more deed. -/
def noted (list : ListId) (commands : List Command) : Deed → List Command
  | .opened opened _ => if opened = list then [] else commands
  | .recorded recorder command => if recorder = list then commands ++ [command] else commands
  | .accepted .. => commands

/-- The commands of all accepted recording calls on a list since it was opened, in the order of
the calls. -/
def commandsOf (journal : Journal) (list : ListId) : List Command :=
  journal.foldl (noted list) []

/-- The values under which batches were accepted, with the lists of each batch. -/
def acceptances (journal : Journal) : List (FenceValue × List ListId) :=
  journal.filterMap fun
    | .accepted signal lists => some (signal, lists)
    | _ => none

/-- What the queue has to execute: for each accepted batch the commands of its lists. -/
def submissions (journal : Journal) : List (FenceValue × List (ListId × List Command)) :=
  journal.acceptances.map fun acceptance =>
    (acceptance.1, acceptance.2.map fun list => (list, journal.commandsOf list))

/-- The allocator that a list was opened on. -/
def openedOn (journal : Journal) (list : ListId) : Option AllocatorId :=
  journal.findSome? fun
    | .opened opened allocator => if opened = list then some allocator else none
    | _ => none

section Append

variable (journal : Journal) (list other : ListId) (allocator : AllocatorId)
  (command : Command) (signal : FenceValue) (lists : List ListId)

@[simp]
theorem commandsOf_opened_self :
    commandsOf (journal ++ [.opened list allocator]) list = [] := by
  simp [commandsOf, List.foldl_append, noted]

theorem commandsOf_opened_of_ne {list other : ListId} (different : other ≠ list) :
    commandsOf (journal ++ [.opened other allocator]) list = journal.commandsOf list := by
  simp [commandsOf, List.foldl_append, noted, different]

@[simp]
theorem commandsOf_accepted :
    commandsOf (journal ++ [.accepted signal lists]) list = journal.commandsOf list := by
  simp [commandsOf, List.foldl_append, noted]

@[simp]
theorem commandsOf_recorded_self :
    commandsOf (journal ++ [.recorded list command]) list =
      journal.commandsOf list ++ [command] := by
  simp [commandsOf, List.foldl_append, noted]

theorem commandsOf_recorded_of_ne {list other : ListId} (different : other ≠ list) :
    commandsOf (journal ++ [.recorded other command]) list = journal.commandsOf list := by
  simp [commandsOf, List.foldl_append, noted, different]

@[simp]
theorem acceptances_opened :
    acceptances (journal ++ [.opened other allocator]) = journal.acceptances := by
  simp [acceptances, List.filterMap_append]

@[simp]
theorem acceptances_recorded :
    acceptances (journal ++ [.recorded other command]) = journal.acceptances := by
  simp [acceptances, List.filterMap_append]

@[simp]
theorem acceptances_accepted :
    acceptances (journal ++ [.accepted signal lists]) =
      journal.acceptances ++ [(signal, lists)] := by
  simp [acceptances, List.filterMap_append]

theorem mem_acceptances_iff {journal : Journal} {signal : FenceValue} {lists : List ListId} :
    (signal, lists) ∈ journal.acceptances ↔ .accepted signal lists ∈ journal := by
  rw [acceptances, List.mem_filterMap]
  constructor
  · rintro ⟨deed, member, shape⟩
    cases deed with
    | opened | recorded => cases shape
    | accepted =>
        cases shape
        exact member
  · exact fun member => ⟨_, member, rfl⟩

@[simp]
theorem openedOn_recorded :
    openedOn (journal ++ [.recorded other command]) list = journal.openedOn list := by
  simp [openedOn, List.findSome?_append]

@[simp]
theorem openedOn_accepted :
    openedOn (journal ++ [.accepted signal lists]) list = journal.openedOn list := by
  simp [openedOn, List.findSome?_append]

/-- What a list was opened on stays so. -/
theorem openedOn_append_of_some {journal : Journal} {list : ListId} {allocator : AllocatorId}
    (deed : Deed) (known : journal.openedOn list = some allocator) :
    openedOn (journal ++ [deed]) list = some allocator := by
  unfold openedOn at known ⊢
  rw [List.findSome?_append, known]
  rfl

theorem openedOn_opened_self {journal : Journal} {list : ListId}
    (new : journal.openedOn list = none) :
    openedOn (journal ++ [.opened list allocator]) list = some allocator := by
  unfold openedOn at new
  simp [openedOn, List.findSome?_append, new]

theorem openedOn_opened_of_ne {list other : ListId} (different : other ≠ list) :
    openedOn (journal ++ [.opened other allocator]) list = journal.openedOn list := by
  simp [openedOn, List.findSome?_append, different]

theorem submissions_accepted :
    submissions (journal ++ [.accepted signal lists]) =
      journal.submissions ++
        [(signal, lists.map fun list => (list, journal.commandsOf list))] := by
  simp [submissions]

end Append

/-- What the queue has to execute depends only on the lists of the accepted batches. -/
theorem submissions_of_unchanged {journal after : Journal}
    (acceptances : after.acceptances = journal.acceptances)
    (commands : ∀ acceptance ∈ journal.acceptances, ∀ list ∈ acceptance.2,
      after.commandsOf list = journal.commandsOf list) :
    after.submissions = journal.submissions := by
  unfold submissions
  rw [acceptances]
  apply List.map_congr_left
  intro acceptance member
  have each : (acceptance.2.map fun list => (list, after.commandsOf list)) =
      acceptance.2.map fun list => (list, journal.commandsOf list) := by
    apply List.map_congr_left
    intro list chosen
    rw [commands acceptance member list chosen]
  rw [each]

end Journal

end CommandQueue
