import CommandQueue.Text.CharacterSet
import CommandQueue.Pattern.Term

/-!
# Expressions

An expression is what a pattern means: texts, sets of characters and views of a
place, one behind the other, side by side, or repeated.  It is kept in a plain
form: nothing is a part of a sequence, texts that touch are one text, a choice
has no choice among its branches, and what all branches begin with stands in
front of them.

An expression is matched by following all its ways through a text at once: from
the places where a match can be under way, it leads to the places where it can
be completed.
-/

namespace CommandQueue.Pattern

open CommandQueue.Text

/-- What is asked of a place in a text. -/
inductive View where
  | textStart
  | textEnd
  /-- A line begins; a carriage return ends a line too if it is asked for. -/
  | lineStart (returns : Bool)
  | lineEnd (returns : Bool)
  /-- An edge of a word, whose characters are those of every script if it is asked for. -/
  | word (unicode : Bool) (edge : WordEdge)
  deriving DecidableEq, Repr

/-- The meaning of a pattern. -/
inductive Expression where
  | nothing
  | text (characters : List Char)
  | character (set : CharacterSet)
  | view (asked : View)
  | repetition (rounds : Rounds) (body : Expression)
  /-- What the body matches is captured, by a group that opens at a place of the pattern. -/
  | captured (opening : Place) (body : Expression)
  | sequence (parts : List Expression)
  | choice (branches : List Expression)
  deriving Repr

structure Surroundings where
  before : Option Char
  after : Option Char
  deriving DecidableEq, Repr

def Surroundings.ofText (text : List Char) : List Surroundings :=
  List.zipWith Surroundings.mk (none :: text.map some) (text.map some ++ [none])

/-- A character of words in seven bits. -/
def wordCharacter (character : Char) : Bool := character.isAlphanum || character = '_'

namespace WordEdge

/-- Whether an edge lies between what may be characters of words. -/
def between (before after : Bool) : WordEdge → Bool
  | .boundary => before != after
  | .noBoundary => before == after
  | .start => !before && after
  | .finish => before && !after
  | .startHalf => !before
  | .finishHalf => !after

end WordEdge

def View.holds (place : Surroundings) : View → Bool
  | .textStart => place.before.isNone
  | .textEnd => place.after.isNone
  | .lineStart false => place.before.all (· = '\n')
  | .lineStart true =>
      place.before.all fun character =>
        character = '\n' || (character = '\r' && place.after != some '\n')
  | .lineEnd false => place.after.all (· = '\n')
  | .lineEnd true =>
      place.after.all fun character =>
        character = '\r' || (character = '\n' && place.before != some '\r')
  | .word _ edge =>
      edge.between (place.before.any wordCharacter) (place.after.any wordCharacter)

/-- The rounds of what cannot use a second one. -/
def Rounds.once (rounds : Rounds) : Rounds :=
  ⟨min rounds.least 1, some (min (rounds.most.getD 1) 1), rounds.lazy⟩

namespace Expression

mutual

def same : Expression → Expression → Bool
  | .nothing, .nothing => true
  | .text left, .text right => left = right
  | .character left, .character right => left = right
  | .view left, .view right => left = right
  | .repetition left body, .repetition right other => left = right && same body other
  | .captured left body, .captured right other => left = right && same body other
  | .sequence left, .sequence right => sameAll left right
  | .choice left, .choice right => sameAll left right
  | _, _ => false

def sameAll : List Expression → List Expression → Bool
  | [], [] => true
  | left :: lefts, right :: rights => same left right && sameAll lefts rights
  | _, _ => false

end

mutual

def widthless : Expression → Bool
  | .nothing | .view _ => true
  | .text _ | .character _ => false
  | .repetition _ body | .captured _ body => body.widthless
  | .sequence parts => allWidthless parts
  | .choice branches => allWidthless branches

def allWidthless : List Expression → Bool
  | [] => true
  | expression :: rest => expression.widthless && allWidthless rest

end

mutual

/-- The expression asks for the edges of words in every script. -/
def asksForScripts : Expression → Bool
  | .view (.word unicode _) => unicode
  | .nothing | .text _ | .character _ | .view _ => false
  | .repetition _ body | .captured _ body => body.asksForScripts
  | .sequence parts => anyAsksForScripts parts
  | .choice branches => anyAsksForScripts branches

def anyAsksForScripts : List Expression → Bool
  | [] => false
  | expression :: rest => expression.asksForScripts || anyAsksForScripts rest

end

/-- One character of a set; that of a set with a single one is a text. -/
def ofSet (set : CharacterSet) : Expression :=
  match set.only? with
  | some only => .text [only]
  | none => .character set

def parts : Expression → List Expression
  | .nothing => []
  | .sequence parts => parts
  | other => [other]

/-- An expression in front of others; a text joins a text behind it. -/
def inFrontOf : Expression → List Expression → List Expression
  | .text first, .text second :: rest => .text (first ++ second) :: rest
  | part, rest => part :: rest

def ofSequence (expressions : List Expression) : Expression :=
  match (expressions.flatMap parts).foldr inFrontOf [] with
  | [] => .nothing
  | [only] => only
  | several => .sequence several

def branches : Expression → List Expression
  | .choice branches => branches
  | other => [other]

def asCharacter? : Expression → Option CharacterSet
  | .text [only] => some (.single only.toNat)
  | _ => none

def asSet? : Expression → Option CharacterSet
  | .character set => some set
  | _ => none

/-- The set of branches that are all single characters, or all sets. -/
def asOneSet? (branches : List Expression) : Option CharacterSet :=
  (branches.mapM asCharacter? <|> branches.mapM asSet?).map fun sets =>
    sets.foldl CharacterSet.union .empty

/-- One or the other, whatever they begin with. -/
def sideBySide (expressions : List Expression) : Expression :=
  match expressions.flatMap branches with
  | [] => .character .empty
  | [only] => only
  | several =>
      match asOneSet? several with
      | some set => ofSet set
      | none => .choice several

/-- The parts with which both of two lists of parts begin. -/
def sharedParts : List Expression → List Expression → List Expression
  | left :: lefts, right :: rights =>
      if same left right then left :: sharedParts lefts rights else []
  | _, _ => []

def sequenceParts : Expression → List Expression
  | .sequence parts => parts
  | _ => []

def commonParts : List Expression → List Expression
  | [] => []
  | first :: rest =>
      rest.foldl (fun common branch => sharedParts common branch.sequenceParts)
        first.sequenceParts

def ofChoice (expressions : List Expression) : Expression :=
  match sideBySide expressions with
  | .choice branches =>
      match commonParts branches with
      | [] => .choice branches
      | common =>
          let different := branches.map fun branch => ofSequence (branch.parts.drop common.length)
          ofSequence (common ++ [sideBySide different])
  | other => other

/-- The expression in a number of rounds.  More than one round of a body without characters is like
one round. -/
def inRounds (rounds : Rounds) (body : Expression) : Expression :=
  let needed := if body.widthless then rounds.once else rounds
  if needed.most = some 0 then .nothing
  else if needed.least = 1 ∧ needed.most = some 1 then body
  else .repetition needed body

/-- A set of places in a text: whether each place belongs to it. -/
abbrev Places := List Bool

namespace Places

def union (left right : Places) : Places := List.zipWith or left right

def none (places : Places) : Places := places.map fun _ => false

/-- The places behind a character that belongs to a set. -/
def behind (text : List Char) (belongs : Char → Bool) (places : Places) : Places :=
  false :: List.zipWith (fun reached character => reached && belongs character) places text

def behindAll (text : List Char) : List Char → Places → Places
  | [], places => places
  | next :: rest, places =>
      if places.any id then behindAll text rest (places.behind text (· = next)) else places

end Places

/-- A number of rounds of a step, or fewer if a round leads nowhere. -/
def rounds (step : Places → Places) : Nat → Places → Places
  | 0, reached => reached
  | count + 1, reached =>
      if reached.any id then rounds step count (step reached) else reached

/-- At most a number of rounds of a step, or fewer if a round leads to no new place. -/
def closure (step : Places → Places) : Nat → Places → Places
  | 0, reached => reached
  | count + 1, reached =>
      let more := reached.union (step reached)
      if more = reached then reached else closure step count more

mutual

/-- The places where the expression is completed if it begins at one of some places.  A match has
no more rounds with characters than the text has characters, and rounds without any can be added
or left out, so counts beyond the number of places make no difference. -/
def reach (text : List Char) (places : Places) : Expression → Places
  | .nothing => places
  | .text characters => Places.behindAll text characters places
  | .character set => places.behind text set.contains
  | .view asked =>
      List.zipWith (fun reached place => reached && asked.holds place) places
        (Surroundings.ofText text)
  | .repetition rounds body =>
      let bound := text.length + 1
      let further := min ((rounds.most.map (· - rounds.least)).getD bound) bound
      closure (fun reached => body.reach text reached) further
        (Expression.rounds (fun reached => body.reach text reached) (min rounds.least bound) places)
  | .captured _ body => body.reach text places
  | .sequence parts => reachThrough text places parts
  | .choice branches => reachAlong text places branches

def reachThrough (text : List Char) (places : Places) : List Expression → Places
  | [] => places
  | part :: rest => reachThrough text (part.reach text places) rest

def reachAlong (text : List Char) (places : Places) : List Expression → Places
  | [] => places.none
  | branch :: rest => (branch.reach text places).union (reachAlong text places rest)

end

def occursIn (expression : Expression) (text : List Char) : Bool :=
  (expression.reach text (List.replicate (text.length + 1) true)).any id

end Expression

end CommandQueue.Pattern
