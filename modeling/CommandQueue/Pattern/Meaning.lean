import CommandQueue.Pattern.Expression
import CommandQueue.Pattern.Problem

/-!
# The meaning of terms

A term is given its meaning from the left to the right, because flags change
what follows them up to the end of their group.  With characters of every script
no table is at hand, so their properties, their letter classes and their case
are refused.  Without them a pattern must not match parts of a character.
-/

namespace CommandQueue.Pattern

open CommandQueue.Text

/-- The flags that hold at a place. -/
structure Mode where
  caseless : Bool
  byLine : Bool
  dotNewline : Bool
  unicode : Bool
  returns : Bool
  lazy : Bool
  deriving DecidableEq, Repr

namespace Mode

def start : Mode := ⟨false, false, false, true, false, false⟩

def set (mode : Mode) (flag : Flag) (value : Bool) : Mode :=
  match flag with
  | .caseless => { mode with caseless := value }
  | .byLine => { mode with byLine := value }
  | .dotNewline => { mode with dotNewline := value }
  | .unicode => { mode with unicode := value }
  | .returns => { mode with returns := value }
  | .lazy => { mode with lazy := value }
  | .spaced => mode

def setAll (mode : Mode) (settings : Settings) : Mode :=
  settings.foldl (fun current entry => current.set entry.1 entry.2) mode

end Mode

def NamedClass.characters (kind : NamedClass) : CharacterSet :=
  match kind with
  | .alnum => ⟨[0x30, 0x3a, 0x41, 0x5b, 0x61, 0x7b]⟩
  | .alpha => ⟨[0x41, 0x5b, 0x61, 0x7b]⟩
  | .ascii => ⟨[0, 0x80]⟩
  | .blank => ⟨[0x9, 0xa, 0x20, 0x21]⟩
  | .cntrl => ⟨[0, 0x20, 0x7f, 0x80]⟩
  | .digit => ⟨[0x30, 0x3a]⟩
  | .graph => ⟨[0x21, 0x7f]⟩
  | .lower => ⟨[0x61, 0x7b]⟩
  | .print => ⟨[0x20, 0x7f]⟩
  | .punct => ⟨[0x21, 0x30, 0x3a, 0x41, 0x5b, 0x61, 0x7b, 0x7f]⟩
  | .space => ⟨[0x9, 0xe, 0x20, 0x21]⟩
  | .upper => ⟨[0x41, 0x5b]⟩
  | .word => ⟨[0x30, 0x3a, 0x41, 0x5b, 0x5f, 0x60, 0x61, 0x7b]⟩
  | .xdigit => ⟨[0x30, 0x3a, 0x41, 0x47, 0x61, 0x67]⟩

/-- The characters of a letter class in seven bits. -/
def Shorthand.characters : Shorthand → CharacterSet
  | .digit => NamedClass.digit.characters
  | .space => NamedClass.space.characters
  | .word => NamedClass.word.characters

/-- The code points by which the cases of a letter of seven bits differ. -/
def caseDistance : Nat := 0x20

/-- A set with the letters of seven bits in both cases. -/
def foldCase (set : CharacterSet) : CharacterSet :=
  let upper := set.intersection NamedClass.upper.characters
  let lower := set.intersection NamedClass.lower.characters
  (set.union ⟨upper.boundaries.map (· + caseDistance)⟩).union
    ⟨lower.boundaries.map (· - caseDistance)⟩

def SetOperation.apply : SetOperation → CharacterSet → CharacterSet → CharacterSet
  | .intersection => CharacterSet.intersection
  | .difference => CharacterSet.difference
  | .symmetricDifference => CharacterSet.symmetricDifference

namespace Meaning

def refuse {α : Type} (problem : Problem) (span : Span) : Except Complaint α :=
  .error ⟨problem, span, none⟩

/-- The names of properties whose values are looked for among the categories of characters. -/
def categoryNames : List String := ["cf", "sc", "lc"]

/-- A name of a property in its plain form: in lower case, without blanks, dashes and characters
beyond seven bits, and without the word that may begin it. -/
def plainName (name : String) : String :=
  let letters := name.toList
  let bare := if (letters.take 2).map Char.toLower = ['i', 's'] then letters.drop 2 else letters
  String.ofList <| (bare.map Char.toLower).filter fun letter =>
    letter != ' ' && letter != '_' && letter != '-' && letter.toNat ≤ 0x7f

def propertyProblem (mode : Mode) (property : Property) : Problem :=
  if !mode.unicode then .unicodeRefused
  else
    match property with
    | .named name =>
        if categoryNames.contains (plainName name) then .propertyValueUnknown
        else .propertyUnknown
    | .valued .. => .propertyUnknown

/-- A single character that stands for itself, outside of classes. -/
def ofLiteral (mode : Mode) (literal : Literal) : Except Complaint Expression :=
  if mode.unicode then
    if mode.caseless then refuse .caseFoldingUnavailable literal.span
    else .ok (.text [literal.character])
  else if literal.asByte && 0x7f < literal.character.toNat then
    refuse .bytesOutsideText literal.span
  else
    let alone := CharacterSet.single literal.character.toNat
    .ok (.ofSet (if mode.caseless then foldCase alone else alone))

def listed (mode : Mode) (literal : Literal) : Except Complaint Nat :=
  let code := literal.character.toNat
  if mode.unicode ∨ code ≤ 0x7f then .ok code
  else if literal.asByte then refuse .bytesOutsideText literal.span
  else refuse .unicodeRefused literal.span

def ofShorthand (mode : Mode) (span : Span) (negated : Bool) (kind : Shorthand) :
    Except Complaint CharacterSet :=
  if mode.unicode then refuse .shorthandUnavailable span
  else if negated then refuse .bytesOutsideText span
  else .ok kind.characters

/-- The characters of a set in both cases.  With characters of every script only a set that lists
no characters itself has a known answer. -/
def folded (mode : Mode) (span : Span) (listing : Bool) (set : CharacterSet) :
    Except Complaint CharacterSet :=
  if !mode.caseless then .ok set
  else if !mode.unicode then .ok (foldCase set)
  else if listing then refuse .caseFoldingUnavailable span
  else .ok set

def negatedIf (mode : Mode) (span : Span) (negated : Bool) (set : CharacterSet) :
    Except Complaint CharacterSet :=
  if !negated then .ok set
  else if mode.unicode then .ok (CharacterSet.whole.difference set)
  else refuse .bytesOutsideText span

mutual

/-- A part of a class lists characters itself. -/
def listing : ClassTerm → Bool
  | .character _ | .range .. => true
  | .together _ items => listingAny items
  | .empty _ | .named .. | .shorthand .. | .property .. | .bracketed .. | .operation .. => false

def listingAny : List ClassTerm → Bool
  | [] => false
  | item :: rest => listing item || listingAny rest

end

mutual

def ofClass (mode : Mode) : ClassTerm → Except Complaint CharacterSet
  | .empty _ => .ok .empty
  | .character literal => do
      return .single (← listed mode literal)
  | .range _ first last => do
      let low ← listed mode first
      let high ← listed mode last
      return .range low high
  | .named span negated kind => do
      negatedIf mode span negated (← folded mode span true kind.characters)
  | .shorthand span negated kind => ofShorthand mode span negated kind
  | .property span _ kind => refuse (propertyProblem mode kind) span
  | .bracketed span negated contents => do
      let inside ← ofClass mode contents
      negatedIf mode span negated (← folded mode span (listing contents) inside)
  | .together _ items => ofClasses mode items
  | .operation _ kind left right => do
      let leftSet ← ofClass mode left
      let rightSet ← ofClass mode right
      let rightFolded ← folded mode right.span (listing right) rightSet
      let leftFolded ← folded mode left.span (listing left) leftSet
      return kind.apply leftFolded rightFolded

def ofClasses (mode : Mode) : List ClassTerm → Except Complaint CharacterSet
  | [] => .ok .empty
  | item :: rest => do
      let first ← ofClass mode item
      let others ← ofClasses mode rest
      return first.union others

end

def ofBracketed (mode : Mode) (span : Span) (negated : Bool) (contents : ClassTerm) :
    Except Complaint CharacterSet :=
  ofClass mode (.bracketed span negated contents)

def ofDot (mode : Mode) (span : Span) : Except Complaint CharacterSet :=
  if !mode.unicode then refuse .bytesOutsideText span
  else if mode.dotNewline then .ok .whole
  else
    let newline := CharacterSet.single '\n'.toNat
    let ends := if mode.returns then newline.union (.single '\r'.toNat) else newline
    .ok (CharacterSet.whole.difference ends)

def ofAssertion (mode : Mode) : Assertion → View
  | .lineStart => if mode.byLine then .lineStart mode.returns else .textStart
  | .lineEnd => if mode.byLine then .lineEnd mode.returns else .textEnd
  | .textStart => .textStart
  | .textEnd => .textEnd
  | .word edge => .word mode.unicode edge

mutual

/-- The meaning of a term, and the flags that hold behind it. -/
def ofTerm (mode : Mode) : Term → Except Complaint (Expression × Mode)
  | .empty _ => .ok (.nothing, mode)
  | .flags _ settings => .ok (.nothing, mode.setAll settings)
  | .character literal => do
      return (← ofLiteral mode literal, mode)
  | .dot span => do
      return (.ofSet (← ofDot mode span), mode)
  | .assertion _ kind => .ok (.view (ofAssertion mode kind), mode)
  | .shorthand span negated kind => do
      return (.ofSet (← ofShorthand mode span negated kind), mode)
  | .property span _ kind => refuse (propertyProblem mode kind) span
  | .bracketed span negated contents => do
      return (.ofSet (← ofBracketed mode span negated contents), mode)
  | .repetition _ rounds body => do
      let (repeated, after) ← ofTerm mode body
      return (.inRounds { rounds with lazy := rounds.lazy != mode.lazy } repeated, after)
  | .group span capturing settings body => do
      let (inside, _) ← ofTerm (mode.setAll settings) body
      return (if capturing then .captured span.first inside else inside, mode)
  | .sequence _ parts => do
      let (expressions, after) ← ofTerms mode parts
      return (.ofSequence expressions, after)
  | .choice _ branches => do
      let (expressions, after) ← ofTerms mode branches
      return (.ofChoice expressions, after)

def ofTerms (mode : Mode) : List Term → Except Complaint (List Expression × Mode)
  | [] => .ok ([], mode)
  | part :: rest => do
      let (first, between) ← ofTerm mode part
      let (others, after) ← ofTerms between rest
      return (first :: others, after)

end

end Meaning

def Expression.ofTerm (term : Term) : Except Complaint Expression :=
  (Meaning.ofTerm .start term).map Prod.fst

end CommandQueue.Pattern
