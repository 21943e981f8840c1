import CommandQueue.Demo.Arguments
import CommandQueue.Demo.Simulation
import CommandQueue.Text.Lines

/-!
# The demonstration as a program

A run of the demonstration is told by its exit code and by the lines it writes
for its user and for its log.  It depends on its arguments and on the
specification of the log filter, if there is one.
-/

namespace CommandQueue.Demo

/-- What a run of the demonstration writes, and how it ends. -/
structure Transcript where
  code : Nat
  output : List String
  log : List String
  deriving DecidableEq, Repr

namespace Transcript

def filterFor (specification : Option String) : LogFilter × List String :=
  match specification with
  | some text => LogFilter.parse text
  | none => (LogFilter.upTo .info, [])

def logOpened : LogRecord := ⟨.debug, "ember_gpu::logging::init", "logging initialized"⟩

/-- The transcript of a run whose arguments were read: its records pass the filter, and a complaint
ends it with failure. -/
def ofRecords (specification : Option String) (records : List LogRecord)
    (complaint : Option String) : Transcript :=
  let (filter, warnings) := filterFor specification
  let admitted := (logOpened :: records).filter filter.admits
  let complaints := complaint.toList.map ("Error: " ++ ·)
  { code := if complaint.isSome then 1 else 0
    output := []
    log := (warnings ++ admitted.map LogRecord.line ++ complaints).flatMap Text.writtenLines }

/-- The complaint of a run on a GPU where there is none. -/
def gpuMissing : String := "failed to find a suitable GPU adapter"

def complaintOf : Except Error Unit → Option String
  | .ok () => none
  | .error error => some error.message

def ofArguments (arguments : List String) (specification : Option String) : Transcript :=
  match Order.ofArguments arguments with
  | .error error => ⟨2, [], error.lines.flatMap Text.writtenLines⟩
  | .ok .help => ⟨0, helpLines, []⟩
  | .ok .gpu => ofRecords specification [] (some gpuMissing)
  | .ok (.frames count) =>
      let report := simulate count (fun _ => Simulation.inTurn)
      ofRecords specification report.log (complaintOf report.result)

end Transcript

end CommandQueue.Demo
