import CommandQueue.Text.Similarity
import CommandQueue.Text.TerminalControl
import CommandQueue.Word

/-!
# Arguments of the demonstration

The demonstration takes a number of frames, a flag that asks for the GPU, and a
request for help.  Arguments are read from the first to the last.  The value of
`--frames` is looked at only when the next option or the end comes, so an
argument that fits nowhere is reported before a value that cannot be read.
-/

namespace CommandQueue.Demo

inductive Flag where
  | frames
  | gpu
  | help
  deriving DecidableEq, Repr

namespace Flag

def all : List Flag := [.frames, .gpu, .help]

/-- The name of an option, without its dashes. -/
def name : Flag → String
  | .frames => "frames"
  | .gpu => "wgpu"
  | .help => "help"

/-- The option with its dashes and the name of its value. -/
def shown : Flag → String
  | .frames => "--frames <N>"
  | .gpu => "--wgpu"
  | .help => "--help"

def ofName? (given : String) : Option Flag :=
  all.find? fun flag => flag.name == given

end Flag

inductive ArgumentError where
  /-- An argument fits nowhere; an option may be meant, and some options stand in the usage. -/
  | unexpected (argument : String) (meant : Option Flag) (usage : List String)
  | unexpectedValue (value : String) (flag : Flag) (usage : List String)
  | missingValue
  | invalidValue (value reason : String)
  | repeated (flag : Flag)
  deriving DecidableEq, Repr

namespace ArgumentError

def usageLine (parts : List String) : String :=
  " ".intercalate ("Usage: ember-demo" :: parts)

/-- The usage that names no option. -/
def plainUsage : List String := ["[OPTIONS]"]

def quoted (given : String) : String := "'" ++ Text.withoutControls given ++ "'"

def headline : ArgumentError → String
  | .unexpected argument _ _ => s!"unexpected argument {quoted argument} found"
  | .unexpectedValue value flag _ =>
      s!"unexpected value {quoted value} for '{flag.shown}' found; no more were expected"
  | .missingValue =>
      s!"a value is required for '{Flag.frames.shown}' but none was supplied"
  | .invalidValue value reason =>
      s!"invalid value {quoted value} for '{Flag.frames.shown}': {reason}"
  | .repeated flag => s!"the argument '{flag.shown}' cannot be used multiple times"

def tip : ArgumentError → List String
  | .unexpected _ (some meant) _ =>
      ["  tip: a similar argument exists: '--" ++ meant.name ++ "'", ""]
  | _ => []

/-- The usage that stands below what is wrong. -/
def usage : ArgumentError → List String
  | .unexpected _ _ parts | .unexpectedValue _ _ parts => [usageLine parts, ""]
  | .repeated _ => [usageLine plainUsage, ""]
  | .missingValue | .invalidValue .. => []

def lines (error : ArgumentError) : List String :=
  ["error: " ++ error.headline, ""] ++ error.tip ++ error.usage ++
    ["For more information, try '--help'."]

end ArgumentError

inductive Order where
  | help
  | gpu
  | frames (count : Nat)
  deriving DecidableEq, Repr

def greatestInteger : Nat := 0x7fffffffffffffff

/-- Read the digits of a number whose absolute value is at most `bound`.  The first character that
is no digit, or with which the number leaves its bounds, decides the error. -/
def readDigits (bound : Nat) (tooFar : String) : Nat → List Char → Except String Nat
  | value, [] => .ok value
  | value, character :: rest =>
      if character.isDigit then
        let next := value * 10 + (character.toNat - '0'.toNat)
        if bound < next then .error tooFar else readDigits bound tooFar next rest
      else
        .error "invalid digit found in string"

def readInteger (text : String) : Except String Int :=
  let upward (digits : List Char) : Except String Int :=
    (readDigits greatestInteger "number too large to fit in target type" 0 digits).map
      fun value => (value : Int)
  let downward (digits : List Char) : Except String Int :=
    (readDigits (greatestInteger + 1) "number too small to fit in target type" 0 digits).map
      fun value => -(value : Int)
  match text.toList with
  | [] => .error "cannot parse integer from empty string"
  | '-' :: [] | '+' :: [] => .error "invalid digit found in string"
  | '-' :: digits => downward digits
  | '+' :: digits => upward digits
  | digits => upward digits

def readFrames (text : String) : Except String Nat := do
  let value ← readInteger text
  if 0 ≤ value ∧ value < wordBound then
    return value.toNat
  else
    throw s!"{value} is not in 0..={wordBound - 1}"

structure Reading where
  frames : Nat
  framesGiven : Bool
  gpu : Bool
  /-- `--frames` was read and not looked at, with the value after it if there was one. -/
  pending : Option (Option String)
  /-- Options have ended. -/
  trailing : Bool
  deriving DecidableEq, Repr

namespace Reading

def start : Reading := ⟨8, false, false, none, false⟩

def setFrames (reading : Reading) (text : String) : Reading × Except ArgumentError Unit :=
  if reading.framesGiven then
    (reading, .error (.repeated .frames))
  else
    let given := { reading with framesGiven := true }
    match readFrames text with
    | .ok count => ({ given with frames := count }, .ok ())
    | .error reason => (given, .error (.invalidValue text reason))

def resolve (reading : Reading) : Reading × Except ArgumentError Unit :=
  let settled := { reading with pending := none }
  match reading.pending with
  | none => (settled, .ok ())
  | some none => (settled, .error .missingValue)
  | some (some text) => settled.setFrames text

/-- Look at the value that is pending, and fail if it cannot be read. -/
def resolved (reading : Reading) : Except ArgumentError Reading :=
  match reading.resolve with
  | (settled, .ok ()) => .ok settled
  | (_, .error error) => .error error

/-- The options that stand in the usage of an error that also names some by itself. -/
def usage (reading : Reading) (named : List Flag) : List String :=
  let help := if Flag.help ∈ named then [Flag.help.shown] else []
  let group := "<" ++ Flag.frames.shown ++ "|" ++ Flag.gpu.shown ++ ">"
  let own := if reading.framesGiven || reading.gpu then [group] else []
  help ++ own

def has (reading : Reading) : Flag → Bool
  | .frames => reading.framesGiven
  | .gpu => reading.gpu
  | .help => false

/-- The usage of an argument that no option is called: the options that were given and the one that
may be meant. -/
def unknownUsage (reading : Reading) (meant : Option Flag) : List String :=
  let given := Flag.all.filter reading.has
  match given ++ meant.toList.filter (!given.contains ·) with
  | [] => ArgumentError.plainUsage
  | named => named.map Flag.shown

/-- The usage of an option that has a value it does not take. -/
def valueUsage (reading : Reading) (flag : Flag) : List String :=
  match flag, reading.framesGiven || reading.gpu with
  | .help, _ => reading.usage [.help]
  | _, true => reading.usage []
  | other, false => [other.shown]

inductive Next where
  | reading (reading : Reading)
  | help
  deriving DecidableEq, Repr

/-- Read an option, with the value after its equals sign if there is one. -/
def readFlag (reading : Reading) (flag : Flag) (value : Option String) :
    Except ArgumentError Next := do
  match flag, value with
  | .frames, none => return .reading { ← reading.resolved with pending := some none }
  | .frames, some text =>
      let settled ← reading.resolved
      return .reading (← { settled with pending := some (some text) }.resolved)
  | other, some text => throw (.unexpectedValue text other (reading.valueUsage other))
  | .gpu, none =>
      let settled ← reading.resolved
      if settled.gpu then throw (.repeated .gpu)
      return .reading { settled with gpu := true }
  | .help, none =>
      let _ ← reading.resolved
      return .help

/-- Read an argument that begins with two dashes. -/
def readLong (reading : Reading) (body : List Char) : Except ArgumentError Next :=
  let name := String.ofList (body.takeWhile (· != '='))
  let value :=
    match body.dropWhile (· != '=') with
    | [] => none
    | _ :: text => some (String.ofList text)
  match Flag.ofName? name with
  | some flag => reading.readFlag flag value
  | none =>
      let meant := (Text.mostSimilar? name (Flag.all.map Flag.name)).bind Flag.ofName?
      .error (.unexpected ("--" ++ name) meant (reading.resolve.1.unknownUsage meant))

/-- The error of an argument that is no option and no value. -/
def misplaced (argument : String) : ArgumentError :=
  .unexpected argument none ArgumentError.plainUsage

def readShort (reading : Reading) (letter : Char) : Except ArgumentError Next :=
  if letter = 'h' then
    reading.readFlag .help none
  else
    .error (misplaced (String.ofList ['-', letter]))

def readPlain (reading : Reading) (argument : String) : Except ArgumentError Next :=
  if reading.pending = some none then
    .ok (.reading { reading with pending := some (some argument) })
  else
    .error (misplaced argument)

def readArgument (reading : Reading) (argument : String) : Except ArgumentError Next :=
  if reading.trailing then
    .error (misplaced argument)
  else
    match argument.toList with
    | ['-', '-'] => .ok (.reading { reading with trailing := true })
    | '-' :: '-' :: body => reading.readLong body
    | '-' :: letter :: _ => reading.readShort letter
    | _ => reading.readPlain argument

/-- What was asked for once all arguments are read. -/
def finish (reading : Reading) : Except ArgumentError Order := do
  let settled ← reading.resolved
  return if settled.gpu then .gpu else .frames settled.frames

def readAll (reading : Reading) : List String → Except ArgumentError Order
  | [] => reading.finish
  | argument :: rest =>
      match reading.readArgument argument with
      | .error error => .error error
      | .ok .help => .ok .help
      | .ok (.reading next) => next.readAll rest

end Reading

def Order.ofArguments (arguments : List String) : Except ArgumentError Order :=
  Reading.start.readAll arguments

def helpLines : List String :=
  ["Record command lists on several threads and submit them to one queue.",
    "",
    ArgumentError.usageLine ArgumentError.plainUsage,
    "",
    "Options:",
    "      --frames <N>  Frames to simulate on the CPU queue [default: 8]",
    "      --wgpu        Run a single compute pass on a wgpu adapter instead",
    "  -h, --help        Print help"]

end CommandQueue.Demo
