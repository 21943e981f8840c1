import CommandQueue.Pattern.Place

/-!
# What can be wrong with a pattern

A complaint names the problem, the part of the pattern that has it, and, where
something was written twice, the part that came first.
-/

namespace CommandQueue.Pattern

/-- The reasons for which a pattern cannot be read or understood. -/
inductive Problem where
  | classEscape
  | classRange
  | classRangeEdge
  | classUnclosed
  | numberTooLarge
  | hexadecimalEmpty
  | hexadecimalValue
  | hexadecimalDigit
  | escapeCut
  | escapeUnknown
  | flagNegationDangling
  | flagRepeated
  | flagNegationRepeated
  | flagCut
  | flagUnknown
  | groupNameRepeated
  | groupNameEmpty
  | groupNameCharacter
  | groupNameUnclosed
  | groupUnclosed
  | groupUnopened
  | nesting
  | countOrder
  | countMissing
  | countUnclosed
  | repetitionOfNothing
  | wordEdgeUnclosed
  | wordEdgeUnknown
  | wordEdgeOrCountCut
  | propertyMark
  | backreference
  | lookAround
  | unicodeRefused
  | bytesOutsideText
  | propertyUnknown
  | propertyValueUnknown
  | shorthandUnavailable
  | caseFoldingUnavailable
  deriving DecidableEq, Repr

namespace Problem

def nestingLimit : Nat := 250

def message : Problem → String
  | .classEscape => "invalid escape sequence found in character class"
  | .classRange => "invalid character class range, the start must be <= the end"
  | .classRangeEdge => "invalid range boundary, must be a literal"
  | .classUnclosed => "unclosed character class"
  | .numberTooLarge => "decimal literal invalid"
  | .hexadecimalEmpty => "hexadecimal literal empty"
  | .hexadecimalValue => "hexadecimal literal is not a Unicode scalar value"
  | .hexadecimalDigit => "invalid hexadecimal digit"
  | .escapeCut => "incomplete escape sequence, reached end of pattern prematurely"
  | .escapeUnknown => "unrecognized escape sequence"
  | .flagNegationDangling => "dangling flag negation operator"
  | .flagRepeated => "duplicate flag"
  | .flagNegationRepeated => "flag negation operator repeated"
  | .flagCut => "expected flag but got end of regex"
  | .flagUnknown => "unrecognized flag"
  | .groupNameRepeated => "duplicate capture group name"
  | .groupNameEmpty => "empty capture group name"
  | .groupNameCharacter => "invalid capture group character"
  | .groupNameUnclosed => "unclosed capture group name"
  | .groupUnclosed => "unclosed group"
  | .groupUnopened => "unopened group"
  | .nesting => s!"exceed the maximum number of nested parentheses/brackets ({nestingLimit})"
  | .countOrder => "invalid repetition count range, the start must be <= the end"
  | .countMissing => "repetition quantifier expects a valid decimal"
  | .countUnclosed => "unclosed counted repetition"
  | .repetitionOfNothing => "repetition operator missing expression"
  | .wordEdgeUnclosed =>
      "special word boundary assertion is either unclosed or contains an invalid character"
  | .wordEdgeUnknown =>
      "unrecognized special word boundary assertion, " ++
        "valid choices are: start, end, start-half or end-half"
  | .wordEdgeOrCountCut =>
      "found either the beginning of a special word boundary or a bounded repetition " ++
        "on a \\b with an opening brace, but no closing brace"
  | .propertyMark => "invalid Unicode character class"
  | .backreference => "backreferences are not supported"
  | .lookAround => "look-around, including look-ahead and look-behind, is not supported"
  | .unicodeRefused => "Unicode not allowed here"
  | .bytesOutsideText => "pattern can match invalid UTF-8"
  | .propertyUnknown => "Unicode property not found"
  | .propertyValueUnknown => "Unicode property value not found"
  | .shorthandUnavailable =>
      "Unicode-aware Perl class not found (make sure the unicode-perl feature is enabled)"
  | .caseFoldingUnavailable =>
      "Unicode-aware case insensitivity matching is not available " ++
        "(make sure the unicode-case feature is enabled)"

end Problem

structure Complaint where
  problem : Problem
  span : Span
  /-- What stood there first, if something is written twice. -/
  earlier : Option Span
  deriving DecidableEq, Repr

end CommandQueue.Pattern
