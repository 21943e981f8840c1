import CommandQueue.Pattern.Problem
import CommandQueue.Text.Lines

/-!
# Reports

A complaint is reported below the pattern it is about, with a row of carets
under the spans it names.  A pattern of several lines is shown between two
rulers with its lines numbered, and a span over several lines is told in words.
-/

namespace CommandQueue.Pattern

namespace Report

def runOf (character : Char) (length : Nat) : String :=
  String.ofList (List.replicate length character)

/-- The number of lines on which a span can begin. -/
def lineCount (text : String) : Nat := (text.splitOn "\n").length

/-- The width of the line numbers, which stand before the lines if there is more than one. -/
def numberWidth (text : String) : Nat :=
  if lineCount text ≤ 1 then 0 else (toString (lineCount text)).length

def heading (width number : Nat) : String :=
  if width = 0 then "    "
  else
    let shown := toString number
    runOf ' ' (width - shown.length) ++ shown ++ ": "

/-- Carets under spans of one line, from a column on; a span of nothing has one caret. -/
def carets : Nat → List Span → String
  | _, [] => ""
  | column, span :: rest =>
      let length := max 1 (span.behind.column - span.first.column)
      runOf ' ' (span.first.column - column) ++ runOf '^' length ++
        carets (max column span.first.column + length) rest

/-- A line with its number, and the carets under it if a span lies in it. -/
def markedLine (width : Nat) (spans : List Span) (number : Nat) (line : String) : List String :=
  let own := spans.filter fun span => span.inLine && span.first.line == number
  let indent := runOf ' ' (if width = 0 then 4 else width + 2)
  (heading width number ++ line) :: if own.isEmpty then [] else [indent ++ carets 1 own]

def markedLines (width : Nat) (spans : List Span) : Nat → List String → List String
  | _, [] => []
  | number, line :: rest =>
      markedLine width spans number line ++ markedLines width spans (number + 1) rest

def spanned (span : Span) : String :=
  s!"on line {span.first.line} (column {span.first.column}) through " ++
    s!"line {span.behind.line} (column {span.behind.column - 1})"

def ruler : String := runOf '~' 79

end Report

namespace Complaint

/-- The spans that a complaint names, in the order in which they stand in the pattern. -/
def spans (complaint : Complaint) : List Span :=
  (complaint.span :: complaint.earlier.toList).mergeSort Span.atMost

def report (complaint : Complaint) (pattern : String) : String :=
  let marked :=
    Report.markedLines (Report.numberWidth pattern) complaint.spans 1 (Text.linesOf pattern)
  let shown :=
    if pattern.contains '\n' then
      let wide := complaint.spans.filter fun span => !span.inLine
      Report.ruler :: marked ++ Report.ruler :: wide.map Report.spanned
    else
      marked
  "\n".intercalate
    ("regex parse error:" :: shown ++ ["error: " ++ complaint.problem.message])

end Complaint

end CommandQueue.Pattern
