import CommandQueue.Pattern.Size

/-!
# Beginnings

A few texts with which every match begins can be looked for directly.  If each of
them is a whole match already, no machine is needed.  The texts are found from the
left to the right and in the order of preference; where they would become too many
or too long, they are cut, and a cut text is no whole match.
-/

namespace CommandQueue.Pattern

open CommandQueue.Text

/-- A text with which matches begin. -/
structure Beginning where
  bytes : List UInt8
  complete : Bool
  deriving DecidableEq, Repr

namespace Beginning

/-- A text that is a match of nothing. -/
def blank : Beginning := ⟨[], true⟩

/-- The text when more of the match follows. -/
def unfinished (beginning : Beginning) : Beginning := { beginning with complete := false }

def cut (length : Nat) (beginning : Beginning) : Beginning :=
  if beginning.bytes.length ≤ length then beginning
  else ⟨beginning.bytes.take length, false⟩

def append (beginning next : Beginning) : Beginning :=
  if beginning.complete then ⟨beginning.bytes ++ next.bytes, next.complete⟩ else beginning

/-- A text in front of others; it is one with the next one if that has the same bytes. -/
def inFrontOf (beginning : Beginning) : List Beginning → List Beginning
  | next :: rest =>
      if beginning.bytes = next.bytes then
        ⟨beginning.bytes, beginning.complete && next.complete⟩ :: rest
      else beginning :: next :: rest
  | [] => [beginning]

def withoutRepeats (beginnings : List Beginning) : List Beginning :=
  beginnings.foldr inFrontOf []

/-- The texts without those that continue one before them, which is preferred. -/
def preferred (beginnings : List Beginning) : List Beginning :=
  beginnings.foldl (fun kept beginning =>
    if kept.any fun earlier => earlier.bytes.isPrefixOf beginning.bytes then kept
    else kept ++ [beginning]) []

end Beginning

/-- The texts with which matches begin, unless they cannot be listed. -/
abbrev Beginnings := Option (List Beginning)

namespace Beginnings

open Beginning

def greatestCount : Nat := 250

def greatestLength : Nat := 100

def greatestSet : Nat := 10

def greatestRounds : Nat := 10

/-- The length to which texts are cut when they are too many. -/
def shortLength : Nat := 4

/-- Nothing that follows makes a difference. -/
def settled (beginnings : Beginnings) : Bool :=
  beginnings.all fun listed => listed.all (!·.complete)

def unfinished (beginnings : Beginnings) : Beginnings :=
  beginnings.map (List.map Beginning.unfinished)

def followedBy (left right : Beginnings) : Beginnings := do
  let lefts ← left
  let cannot : Beginnings :=
    if lefts.any (·.bytes.isEmpty) then none else some (lefts.map Beginning.unfinished)
  match right with
  | none => cannot
  | some rights =>
      if greatestCount < lefts.length * rights.length then cannot
      else
        let joined := lefts.flatMap fun beginning =>
          if beginning.complete then rights.map beginning.append else [beginning]
        some ((withoutRepeats joined).map (cut greatestLength))

/-- The texts of either; if they are too many, they are cut. -/
def union (left right : Beginnings) : Beginnings := do
  let lefts ← left
  let rights ← right
  if lefts.length + rights.length ≤ greatestCount then
    some (withoutRepeats (lefts ++ rights))
  else
    let shortLefts := withoutRepeats (lefts.map (cut shortLength))
    let shortRights := withoutRepeats (rights.map (cut shortLength))
    if shortLefts.length + shortRights.length ≤ greatestCount then
      some (withoutRepeats (shortLefts ++ shortRights))
    else none

def ofSet (set : CharacterSet) : Beginnings :=
  if greatestSet < set.size then none
  else
    let codes := set.runs.flatMap fun run => List.range' run.1 (run.2 + 1 - run.1)
    some (codes.map fun code => ⟨bytesOf [Char.ofNat code], true⟩)

def copies (body : Beginnings) : Nat → Beginnings → Beginnings
  | 0, before => before
  | count + 1, before =>
      if before.settled then before else copies body count (before.followedBy body)

def inRounds (rounds : Rounds) (body : Beginnings) : Beginnings :=
  if rounds.least = 0 then
    let once := if rounds.most = some 1 then body else body.unfinished
    let skipped : Beginnings := some [.blank]
    if rounds.lazy then skipped.union once else once.union skipped
  else
    let listed := copies body (min rounds.least greatestRounds) (some [.blank])
    if rounds.most = some rounds.least ∧ rounds.least ≤ greatestRounds then listed
    else listed.unfinished

mutual

/-- The texts with which matches of an expression begin. -/
def ofExpression : Expression → Beginnings
  | .nothing | .view _ => some [.blank]
  | .text characters => some [cut greatestLength ⟨bytesOf characters, true⟩]
  | .character set => ofSet set
  | .repetition rounds body => inRounds rounds (ofExpression body)
  | .captured _ body => ofExpression body
  | .sequence parts => ofParts (some [.blank]) parts
  | .choice branches => ofBranches (some []) branches

/-- The texts with which matches of some parts begin, behind the texts before them. -/
def ofParts (before : Beginnings) : List Expression → Beginnings
  | [] => before
  | part :: rest =>
      if before.settled then before else ofParts (before.followedBy (ofExpression part)) rest

/-- The texts with which matches of some branches begin, and the texts before them. -/
def ofBranches (before : Beginnings) : List Expression → Beginnings
  | [] => before
  | branch :: rest =>
      if before.isNone then none else ofBranches (before.union (ofExpression branch)) rest

end

/-- The bytes of what all texts begin with. -/
def common : List Beginning → List UInt8
  | [] => []
  | first :: rest =>
      rest.foldl (fun shared beginning =>
        ((shared.zip beginning.bytes).takeWhile fun pair => pair.1 = pair.2).map Prod.fst)
        first.bytes

/-- The bytes that stand in most texts: they are no help for finding a place. -/
def frequent : List Char :=
  "\n\r (),-./0129:_abcdefghilmnoprstuvxy|".toList

def rare (byte : UInt8) : Bool := byte < 0x80 && !frequent.contains (Char.ofNat byte.toNat)

/-- The lengths to which many texts are cut, one after the other, and the numbers of texts from
which on they are not. -/
def shortenings : List (Nat × Nat) := [(5, 10), (4, 10), (3, 64), (2, 64), (1, 10)]

def shortened : List (Nat × Nat) → List Beginning → List Beginning
  | [], beginnings => beginnings
  | (length, enough) :: rest, beginnings =>
      if beginnings.length ≤ enough then beginnings
      else shortened rest (preferred (beginnings.map (cut length)))

/-- Texts that are whole matches are looked for as they are, unless longer texts, that are few
when they are cut, are found faster. -/
def keptWhole (beginnings : List Beginning) : Bool :=
  let short := shortened shortenings beginnings
  short.all (·.complete) || short.any (·.bytes.length ≤ 2) || 64 < short.length

/-- All matches are found by looking for the texts alone. -/
def suffice (beginnings : List Beginning) : Bool :=
  let kept := preferred beginnings
  let shared := common kept
  let single := kept.length = 1
  if kept.isEmpty || beginnings.any (·.bytes.isEmpty) || !kept.all (·.complete) then false
  else if 1 < beginnings.length && shared.length ≤ 3 && shared.head?.any rare then
    single && shared.length = 1
  else if 4 < shared.length || (1 < shared.length && 16 < kept.length) then single
  else keptWhole kept

end Beginnings

namespace Expression

mutual

/-- The expression has no views and captures nothing. -/
def bare : Expression → Bool
  | .nothing | .text _ | .character _ => true
  | .view _ | .captured .. => false
  | .repetition _ body => body.bare
  | .sequence parts => allBare parts
  | .choice branches => allBare branches

def allBare : List Expression → Bool
  | [] => true
  | expression :: rest => expression.bare && allBare rest

end

/-- The matches are found by looking for a few texts, without a machine. -/
def needsNoMachine (expression : Expression) : Bool :=
  expression.bare &&
    (Beginnings.ofExpression expression).any fun beginnings =>
      Beginnings.suffice (Beginning.withoutRepeats beginnings)

end Expression

end CommandQueue.Pattern
