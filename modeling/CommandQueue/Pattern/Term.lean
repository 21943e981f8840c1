import CommandQueue.Pattern.Place

/-!
# Terms

A term is a pattern as it is written: every part knows its span, flags stand
where they were set, and a class still lists what is between its brackets.
-/

namespace CommandQueue.Pattern

/-- What can be switched inside a pattern. -/
inductive Flag where
  /-- The case of letters does not matter. -/
  | caseless
  /-- Assertions about the text hold for each of its lines. -/
  | byLine
  /-- The dot stands for newlines too. -/
  | dotNewline
  /-- Repetitions prefer to be short. -/
  | lazy
  /-- Characters are those of every script. -/
  | unicode
  /-- A carriage return ends a line too. -/
  | returns
  /-- Blanks and comments are skipped. -/
  | spaced
  deriving DecidableEq, Repr

def Flag.ofLetter? : Char → Option Flag
  | 'i' => some .caseless
  | 'm' => some .byLine
  | 's' => some .dotNewline
  | 'U' => some .lazy
  | 'u' => some .unicode
  | 'R' => some .returns
  | 'x' => some .spaced
  | _ => none

abbrev Settings := List (Flag × Bool)

/-- A character that stands for itself. -/
structure Literal where
  span : Span
  character : Char
  /-- The character is written by two digits of base sixteen, as a byte would be. -/
  asByte : Bool
  deriving DecidableEq, Repr

inductive WordEdge where
  | boundary
  | noBoundary
  | start
  | finish
  | startHalf
  | finishHalf
  deriving DecidableEq, Repr

inductive Assertion where
  | lineStart
  | lineEnd
  | textStart
  | textEnd
  | word (edge : WordEdge)
  deriving DecidableEq, Repr

/-- The classes that a single letter stands for. -/
inductive Shorthand where
  | digit
  | space
  | word
  deriving DecidableEq, Repr

/-- A property of characters, by its name or by its name and its value. -/
inductive Property where
  | named (name : String)
  | valued (name value : String)
  deriving DecidableEq, Repr

inductive SetOperation where
  | intersection
  | difference
  | symmetricDifference
  deriving DecidableEq, Repr

/-- The classes that have a name between brackets and colons. -/
inductive NamedClass where
  | alnum
  | alpha
  | ascii
  | blank
  | cntrl
  | digit
  | graph
  | lower
  | print
  | punct
  | space
  | upper
  | word
  | xdigit
  deriving DecidableEq, Repr

def NamedClass.ofName? : String → Option NamedClass
  | "alnum" => some .alnum
  | "alpha" => some .alpha
  | "ascii" => some .ascii
  | "blank" => some .blank
  | "cntrl" => some .cntrl
  | "digit" => some .digit
  | "graph" => some .graph
  | "lower" => some .lower
  | "print" => some .print
  | "punct" => some .punct
  | "space" => some .space
  | "upper" => some .upper
  | "word" => some .word
  | "xdigit" => some .xdigit
  | _ => none

/-- What stands between the brackets of a class. -/
inductive ClassTerm where
  | empty (span : Span)
  | character (literal : Literal)
  | range (span : Span) (first last : Literal)
  | named (span : Span) (negated : Bool) (kind : NamedClass)
  | shorthand (span : Span) (negated : Bool) (kind : Shorthand)
  | property (span : Span) (negated : Bool) (kind : Property)
  | bracketed (span : Span) (negated : Bool) (contents : ClassTerm)
  | together (span : Span) (items : List ClassTerm)
  | operation (span : Span) (kind : SetOperation) (left right : ClassTerm)
  deriving Repr

def ClassTerm.span : ClassTerm → Span
  | .empty span => span
  | .character literal => literal.span
  | .range span .. => span
  | .named span .. => span
  | .shorthand span .. => span
  | .property span .. => span
  | .bracketed span .. => span
  | .together span _ => span
  | .operation span .. => span

structure Rounds where
  least : Nat
  /-- The greatest number of rounds, if there is one. -/
  most : Option Nat
  /-- As few rounds as possible are preferred. -/
  lazy : Bool
  deriving DecidableEq, Repr

/-- A pattern as it is written. -/
inductive Term where
  | empty (span : Span)
  | flags (span : Span) (settings : Settings)
  | character (literal : Literal)
  | dot (span : Span)
  | assertion (span : Span) (kind : Assertion)
  | shorthand (span : Span) (negated : Bool) (kind : Shorthand)
  | property (span : Span) (negated : Bool) (kind : Property)
  | bracketed (span : Span) (negated : Bool) (contents : ClassTerm)
  | repetition (span : Span) (rounds : Rounds) (body : Term)
  | group (span : Span) (capturing : Bool) (settings : Settings) (body : Term)
  | sequence (span : Span) (parts : List Term)
  | choice (span : Span) (branches : List Term)
  deriving Repr

namespace Term

def span : Term → Span
  | .empty span => span
  | .flags span _ => span
  | .character literal => literal.span
  | .dot span => span
  | .assertion span _ => span
  | .shorthand span .. => span
  | .property span .. => span
  | .bracketed span .. => span
  | .repetition span .. => span
  | .group span .. => span
  | .sequence span _ => span
  | .choice span _ => span

/-- A term that can be repeated: it is more than flags or nothing. -/
def repeatable : Term → Bool
  | .empty _ | .flags .. => false
  | _ => true

/-- A term as an item of a class, if it can be one. -/
def asClassItem? : Term → Option ClassTerm
  | .character literal => some (.character literal)
  | .shorthand span negated kind => some (.shorthand span negated kind)
  | .property span negated kind => some (.property span negated kind)
  | _ => none

def asLiteral? : Term → Option Literal
  | .character literal => some literal
  | _ => none

def ofParts (span : Span) : List Term → Term
  | [] => .empty span
  | [part] => part
  | parts => .sequence span parts

end Term

end CommandQueue.Pattern
