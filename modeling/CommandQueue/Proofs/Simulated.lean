import CommandQueue.Demo.Simulation
import CommandQueue.Proofs.Effect

/-!
# What parts of the simulation do

`Simulation.Ends` says of a part of the simulation that it is not refused, and
how it ends.  Each part that works on the device has one lemma: it leaves the
device as the library leaves it, and the sentences of the demonstration itself
are those that were there before.
-/

namespace CommandQueue.Demo

/-- The record is a sentence of the demonstration, not of the library. -/
def LogRecord.isNote (entry : LogRecord) : Bool := entry.target == (note "").target

theorem LogRecord.isNote_ofEvent (event : Event) : (ofEvent event).isNote = false := by
  cases event <;> simp [isNote, ofEvent, note, Event.target]

/-- What the library did stands beside the sentences of the demonstration. -/
theorem LogRecord.filter_isNote_ofEvent (events : List Event) :
    (events.map ofEvent).filter isNote = [] := by
  rw [List.filter_eq_nil_iff]
  intro record member
  obtain ⟨event, _, rfl⟩ := List.mem_map.mp member
  simp [isNote_ofEvent]

theorem LogRecord.isNote_note (text : String) : (note text).isNote = true := by
  simp [isNote, note]

namespace Simulation

/-- The sentences of the demonstration so far. -/
def notes (simulation : Simulation) : List LogRecord :=
  simulation.log.reverse.filter LogRecord.isNote

def deskOf (lists : List (Option CommandList)) (worker : Nat) : Option CommandList :=
  lists[worker]?.join

/-- The part is not refused, and it ends with such a value and state. -/
def Ends {α : Type} (part : Simulated α) (before : Simulation)
    (post : α → Simulation → Prop) : Prop :=
  ∃ value after, part.run.run before = (.ok value, after) ∧ post value after

/-- The device was left like this, and nothing else was changed or told. -/
structure Works (device : Device SoftQueue) (before after : Simulation) : Prop where
  device : after.device = device
  scene : after.scene = before.scene
  lists : after.lists = before.lists
  notes : after.notes = before.notes

variable {α β : Type} {before : Simulation} {device : Device SoftQueue}

namespace Ends

theorem pure {value : α} {post : α → Simulation → Prop} (held : post value before) :
    Ends (pure value) before post :=
  ⟨value, before, rfl, held⟩

theorem bind {part : Simulated α} {next : α → Simulated β} {middle : α → Simulation → Prop}
    {post : β → Simulation → Prop} (first : Ends part before middle)
    (others : ∀ value between, middle value between → Ends (next value) between post) :
    Ends (part >>= next) before post := by
  obtain ⟨value, between, ran, held⟩ := first
  obtain ⟨last, after, also, ended⟩ := others value between held
  refine ⟨last, after, ?_, ended⟩
  simp only [ExceptT.run_bind, StateT.run_bind, ran]
  exact also

theorem mono {part : Simulated α} {strong weak : α → Simulation → Prop}
    (ends : Ends part before strong) (implied : ∀ value after, strong value after → weak value after) :
    Ends part before weak := by
  obtain ⟨value, after, ran, held⟩ := ends
  exact ⟨value, after, ran, implied value after held⟩

theorem get : Ends get before fun value after => value = before ∧ after = before :=
  ⟨before, before, rfl, rfl, rfl⟩

theorem modify (change : Simulation → Simulation) :
    Ends (modify change) before fun _ after => after = change before :=
  ⟨(), change before, rfl, rfl⟩

theorem set (state : Simulation) : Ends (set state) before fun _ after => after = state :=
  ⟨⟨⟩, state, rfl, rfl⟩

theorem ofExcept {result : Except Error α} {value : α} (succeeded : result = .ok value) :
    Ends (MonadExcept.ofExcept result) before
      fun given after => given = value ∧ after = before := by
  subst succeeded
  exact ⟨value, before, rfl, rfl, rfl⟩

/-- Steps are taken in order, and an invariant of them holds at the end. -/
theorem forM {steps : List α} {each : α → Simulated Unit} {γ : Type}
    {next : γ → α → Option γ} {invariant : γ → Simulation → Prop} {first last : γ}
    (goes : steps.foldlM next first = some last) (held : invariant first before)
    (step : ∀ {here there : γ} {element : α} {state : Simulation}, next here element = some there →
      invariant here state → Ends (each element) state fun _ after => invariant there after) :
    Ends (steps.forM each) before fun _ after => invariant last after := by
  induction steps generalizing first before with
  | nil =>
      cases goes
      exact pure held
  | cons element rest inductionHypothesis =>
      rw [List.foldlM_cons] at goes
      obtain ⟨there, taken, others⟩ := Option.bind_eq_some_iff.mp goes
      change Ends (each element >>= fun _ => rest.forM each) before _
      refine bind (step taken held) ?_
      intro _ between reached
      exact inductionHypothesis others reached

/-- The values of parts that run one after the other, by what holds after each of them. -/
theorem mapM {elements : List α} {each : α → Simulated β}
    (invariant : List α → List β → Simulation → Prop) (begun : invariant [] [] before)
    (step : ∀ {seen rest : List α} {element : α} {done : List β} {state : Simulation},
      elements = seen ++ element :: rest → invariant seen done state →
        Ends (each element) state fun value after =>
          invariant (seen ++ [element]) (done ++ [value]) after) :
    Ends (elements.mapM each) before fun values after => invariant elements values after := by
  suffices others : ∀ (rest seen : List α) (done : List β) (state : Simulation),
      elements = seen ++ rest → invariant seen done state →
        Ends (rest.mapM each) state fun values after => invariant elements (done ++ values) after by
    exact others elements [] [] before rfl begun
  intro rest
  induction rest with
  | nil =>
      intro seen done state whole held
      rw [List.append_nil] at whole
      rw [List.mapM_nil, whole]
      refine pure ?_
      rw [List.append_nil]
      exact held
  | cons element rest inductionHypothesis =>
      intro seen done state whole held
      rw [List.mapM_cons]
      refine bind (step whole held) ?_
      intro value between reached
      have further : elements = (seen ++ [element]) ++ rest := by
        rw [whole, List.append_assoc]
        rfl
      refine bind (inductionHypothesis _ _ between further reached) ?_
      intro values after ended
      refine pure ?_
      rw [List.append_assoc] at ended
      exact ended

end Ends

theorem Works.trans {first second : Device SoftQueue} {middle after : Simulation}
    (ahead : Works first before middle) (behind : Works second middle after) :
    Works second before after :=
  ⟨behind.device, behind.scene.trans ahead.scene, behind.lists.trans ahead.lists,
    behind.notes.trans ahead.notes⟩

/-! ## Reports -/

theorem ends_report (records : List LogRecord) :
    Ends (report records) before fun _ after =>
      after = { before with log := records.reverse ++ before.log } :=
  Ends.modify _

/-- Reports of the library are not sentences of the demonstration. -/
theorem ends_reportEvents (events : List Event) :
    Ends (reportEvents events) before fun _ after => Works before.device before after := by
  refine (ends_report _).mono ?_
  rintro _ after rfl
  refine ⟨rfl, rfl, rfl, ?_⟩
  simp [notes, List.reverse_append, LogRecord.filter_isNote_ofEvent]

theorem ends_tell (texts : List String) :
    Ends (report (texts.map LogRecord.note)) before fun _ after =>
      after.device = before.device ∧ after.scene = before.scene ∧ after.lists = before.lists ∧
        after.notes = before.notes ++ texts.map LogRecord.note := by
  refine (ends_report _).mono ?_
  rintro _ after rfl
  refine ⟨rfl, rfl, rfl, ?_⟩
  have own : (texts.map LogRecord.note).filter LogRecord.isNote = texts.map LogRecord.note := by
    rw [List.filter_eq_self, List.forall_mem_map]
    exact fun text _ => LogRecord.isNote_note text
  simp [notes, List.reverse_append, own]

/-! ## Work on the device -/

theorem ends_onDevice {work : Device SoftQueue → Outcome (Device SoftQueue) α} {value : α}
    (succeeded : (work before.device).result = .ok value) :
    Ends (onDevice work) before fun given after =>
      given = value ∧ Works (work before.device).state before after := by
  refine Ends.get.bind ?_
  rintro _ _ ⟨rfl, rfl⟩
  refine (Ends.modify _).bind ?_
  rintro _ _ rfl
  refine (ends_reportEvents _).bind ?_
  intro _ between reported
  refine (Ends.ofExcept succeeded).mono ?_
  rintro _ _ ⟨rfl, rfl⟩
  exact ⟨rfl, reported.device, reported.scene, reported.lists, reported.notes⟩

theorem ends_recordCalls {list last : CommandList} {calls : List Call}
    (accepted : calls.foldlM CommandList.record list = .ok last) :
    Ends (recordCalls list calls) before fun given after =>
      given = last ∧ Works before.device before after := by
  induction calls generalizing list before with
  | nil =>
      cases accepted
      exact Ends.pure ⟨rfl, rfl, rfl, rfl, rfl⟩
  | cons call rest inductionHypothesis =>
      rw [List.foldlM_cons] at accepted
      cases first : list.record call with
      | error error =>
          rw [first] at accepted
          cases accepted
      | ok next =>
          rw [first] at accepted
          refine (Ends.ofExcept first).bind ?_
          rintro _ _ ⟨rfl, rfl⟩
          refine (ends_reportEvents _).bind ?_
          intro _ between reported
          refine (inductionHypothesis accepted).mono ?_
          rintro _ after ⟨rfl, works⟩
          rw [reported.device] at works
          exact ⟨rfl, reported.trans works⟩

theorem ends_recordNew {category : Category} {calls : List Call} {list last : CommandList}
    (opened : (before.device.openList category).result = .ok list)
    (accepted : calls.foldlM CommandList.record list = .ok last) :
    Ends (recordNew category calls) before fun given after =>
      given = last ∧ Works (before.device.openList category).state before after := by
  refine (ends_onDevice opened).bind ?_
  rintro _ between ⟨rfl, lent⟩
  refine (ends_recordCalls accepted).mono ?_
  rintro _ after ⟨rfl, works⟩
  rw [lent.device] at works
  exact ⟨rfl, lent.trans works⟩

theorem ends_handOver {list : CommandList}
    {execute : Device SoftQueue → CommandList → Device.Executed SoftQueue} {value : FenceValue}
    (taken : (execute before.device list).result = .ok value) :
    Ends (handOver list execute) before fun given after =>
      given = (execute before.device list).lists.headD list ∧
        Works (execute before.device list).device before after := by
  refine Ends.get.bind ?_
  rintro _ _ ⟨rfl, rfl⟩
  refine (Ends.modify _).bind ?_
  rintro _ _ rfl
  refine (ends_reportEvents _).bind ?_
  intro _ between reported
  refine (Ends.ofExcept taken).bind ?_
  rintro _ _ ⟨rfl, rfl⟩
  exact Ends.pure ⟨rfl, reported.device, reported.scene, reported.lists, reported.notes⟩

theorem ends_letGo (list : CommandList) :
    Ends (letGo list) before fun _ after => Works (before.device.retire list).1 before after := by
  refine Ends.get.bind ?_
  rintro _ _ ⟨rfl, rfl⟩
  refine (Ends.modify _).bind ?_
  rintro _ _ rfl
  refine (ends_reportEvents _).mono ?_
  exact fun _ after reported =>
    ⟨reported.device, reported.scene, reported.lists, reported.notes⟩

theorem ends_wait :
    Ends wait before fun _ after =>
      let ran := before.device.queue.runNext before.device.fence before.device.heap before.scene
      after.device = { before.device with queue := ran.queue, fence := ran.fence } ∧
        after.scene = ran.scene ∧ after.lists = before.lists ∧ after.notes = before.notes := by
  refine Ends.get.bind ?_
  rintro _ _ ⟨rfl, rfl⟩
  refine (Ends.set _).bind ?_
  rintro _ _ rfl
  refine (ends_reportEvents _).mono ?_
  exact fun _ after reported =>
    ⟨reported.device, reported.scene, reported.lists, reported.notes⟩

/-- A worker that has a list goes on with it. -/
theorem ends_listOf? {worker : Nat} {list : CommandList}
    (present : deskOf before.lists worker = some list) {next : Option CommandList → Simulated α}
    {post : α → Simulation → Prop} (others : Ends (next (some list)) before post) :
    Ends (listOf? worker >>= next) before post := by
  obtain ⟨value, after, ran, held⟩ := others
  refine ⟨value, after, ?_, held⟩
  rw [← present] at ran
  exact ran

theorem ends_allocate (contents : Bytes) :
    Ends (allocate contents) before fun buffer after =>
      buffer = ⟨before.scene.memory.storages.length, contents.length⟩ ∧
        after = { before with
          scene := { before.scene with memory := ⟨before.scene.memory.storages ++ [contents]⟩ } } := by
  refine Ends.get.bind ?_
  rintro _ _ ⟨rfl, rfl⟩
  refine (Ends.modify _).bind ?_
  rintro _ _ rfl
  exact Ends.pure ⟨rfl, rfl⟩

theorem ends_assign (worker : Nat) (list : Option CommandList) :
    Ends (assign worker list) before fun _ after =>
      after = { before with lists := before.lists.set worker list } :=
  Ends.modify _

end Simulation

end CommandQueue.Demo
