import CommandQueue.Event
import CommandQueue.Pattern

/-!
# Log filters

A filter is a list of directives, each a target with a level: `info`,
`queue=debug`, `queue::pool`.  Among the directives whose target begins the
target of a record, the one with the longest target decides.  After a slash
there may be a pattern that occurs in the text of every record that is written.
What cannot be read is left out with a warning.
-/

namespace CommandQueue.Demo

structure LogRecord where
  level : Level
  target : String
  text : String
  deriving DecidableEq, Repr

/-- The line as it is written: its level in five columns, its target and its text. -/
def LogRecord.line (entry : LogRecord) : String :=
  let level := entry.level.name
  let padding := String.ofList (List.replicate (5 - level.length) ' ')
  s!"[{level}{padding} {entry.target}] {entry.text}"

/-- The gravest levels that a directive lets pass, by their number: none for zero. -/
structure Directive where
  /-- The beginning of the targets that the directive speaks of, if not of all. -/
  target : Option String
  rank : Nat
  deriving DecidableEq, Repr

structure LogFilter where
  /-- The directives by the length of their targets. -/
  directives : List Directive
  /-- A pattern that must occur in the text of a record, if there is one. -/
  pattern : Option Pattern
  deriving Repr

namespace LogFilter

/-- The greatest rank that a word lets pass, whatever the case of its letters. -/
def rankOf? (word : String) : Option Nat :=
  match word.toLower with
  | "off" => some 0
  | "error" => some 1
  | "warn" => some 2
  | "info" => some 3
  | "debug" => some 4
  | "trace" => some 5
  | _ => none

def greatestRank : Nat := 5

/-- Read one part of a specification: a level, a target, or both with an equals sign between.
What cannot be read is returned as the error. -/
def parseDirective (part : String) : Except String Directive :=
  match part.splitOn "=" with
  | [single] =>
      match rankOf? single with
      | some rank => .ok ⟨none, rank⟩
      | none => .ok ⟨some single, greatestRank⟩
  | [target, level] =>
      let level := Text.trimmed level
      if level.isEmpty then
        .ok ⟨some target, greatestRank⟩
      else
        match rankOf? level with
        | some rank => .ok ⟨some target, rank⟩
        | none => .error level
  | _ => .error part

/-- The directives with one more, which takes the place of one with the same target. -/
def insert (directives : List Directive) (directive : Directive) : List Directive :=
  if directives.any fun old => old.target == directive.target then
    directives.map fun old => if old.target == directive.target then directive else old
  else
    directives ++ [directive]

/-- The length of a directive's target in bytes. -/
def reach (directive : Directive) : Nat :=
  (directive.target.map String.utf8ByteSize).getD 0

def parseParts : List String → List Directive × List String
  | [] => ([], [])
  | part :: rest =>
      let (directives, unread) := parseParts rest
      match parseDirective part with
      | .ok directive => (directive :: directives, unread)
      | .error text => (directives, text :: unread)

/-- A filter of the given directives; without any, errors pass. -/
def ofDirectives (directives : List Directive) (pattern : Option Pattern) : LogFilter :=
  let kept := directives.foldl insert []
  if kept.isEmpty then
    ⟨[⟨none, 1⟩], pattern⟩
  else
    ⟨kept.mergeSort fun left right => reach left ≤ reach right, pattern⟩

def upTo (level : Level) : LogFilter := ⟨[⟨none, level.rank⟩], none⟩

def warning (problem : String) : String :=
  s!"warning: invalid logging spec {problem}, ignoring it"

def inQuotes (text : String) : String := "'" ++ text ++ "'"

def patternWarning (problem : String) : String :=
  s!"warning: invalid regex filter - {problem}, ignoring it"

/-- The pattern of a text, if it can be read, and the warnings that reading it gives. -/
def readPattern (text : String) : Option Pattern × List String :=
  match Pattern.ofText text with
  | .ok pattern => (some pattern, [])
  | .error refusal => (none, [patternWarning (refusal.text text)])

def ofParts (parts : String) (pattern : Option Pattern) : LogFilter × List String :=
  let given := ((parts.splitOn ",").map Text.trimmed).filter fun part => !part.isEmpty
  let (directives, unread) := parseParts given
  (ofDirectives directives pattern, unread.map fun text => warning (inQuotes text))

/-- Read a specification: directives between commas, and after a slash a pattern. -/
def parse (specification : String) : LogFilter × List String :=
  match specification.splitOn "/" with
  | [parts] => ofParts parts none
  | [parts, text] =>
      let (pattern, patternWarnings) := readPattern text
      let (filter, warnings) := ofParts parts pattern
      (filter, warnings ++ patternWarnings)
  | _ =>
      (ofDirectives [] none, [warning (inQuotes specification ++ " (too many '/'s)")])

def covers (target : String) (directive : Directive) : Bool :=
  directive.target.all fun beginning => beginning.toList.isPrefixOf target.toList

def admits (filter : LogFilter) (entry : LogRecord) : Bool :=
  let decides := filter.directives.reverse.find? (covers entry.target)
  decides.any (fun directive => entry.level.rank ≤ directive.rank) &&
    filter.pattern.all fun pattern => pattern.occursIn entry.text

end LogFilter

end CommandQueue.Demo
