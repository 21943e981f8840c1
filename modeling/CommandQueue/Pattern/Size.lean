import CommandQueue.Text.ByteRange
import CommandQueue.Pattern.Expression
import CommandQueue.Pattern.Trie

/-!
# The size of a pattern

A pattern is turned into two machines, one that reads a text forward and one that
reads it backward.  A machine reads bytes and its size is counted in bytes.
Counted repetitions are written out, so a short pattern can ask for a large
machine; one that is too large is refused.
-/

namespace CommandQueue.Pattern

open CommandQueue.Text

inductive Direction where
  | forward
  | backward
  deriving DecidableEq, Repr

/-- Bytes in the order in which a machine reads them. -/
def Direction.arrange {α : Type} (direction : Direction) (items : List α) : List α :=
  match direction with
  | .forward => items
  | .backward => items.reverse

/-- The view of the end of the text at which a machine begins to read. -/
def Direction.anchor : Direction → View
  | .forward => .textStart
  | .backward => .textEnd

def bytesOf (characters : List Char) : List UInt8 := characters.flatMap String.utf8EncodeChar

namespace Expression

mutual

/-- Every match begins, as a machine reads it, with the view of the end of the text. -/
def anchored (direction : Direction) : Expression → Bool
  | .nothing | .text _ | .character _ => false
  | .view asked => asked = direction.anchor
  | .repetition rounds body => 0 < rounds.least && body.anchored direction
  | .captured _ body => body.anchored direction
  | .sequence parts => oneAnchored direction parts
  | .choice branches => allAnchored direction branches

/-- One of several expressions asks for the anchor, and those that are read before it match no
characters. -/
def oneAnchored (direction : Direction) : List Expression → Bool
  | [] => false
  | part :: rest =>
      match direction with
      | .forward => part.anchored direction || (part.widthless && oneAnchored direction rest)
      | .backward => (part.anchored direction && allWidthless rest) || oneAnchored direction rest

def allAnchored (direction : Direction) : List Expression → Bool
  | [] => true
  | branch :: rest => branch.anchored direction && allAnchored direction rest

end

mutual

/-- The least number of characters of a match, unless there may be no match at all. -/
def leastWidth : Expression → Option Nat
  | .nothing | .view _ => some 0
  | .text characters => some characters.length
  | .character set => if set.runs.isEmpty then none else some 1
  | .repetition rounds body => body.leastWidth.map (rounds.least * ·)
  | .captured _ body => body.leastWidth
  | .sequence parts => leastSum parts
  | .choice branches => leastWidthOf branches

def leastSum : List Expression → Option Nat
  | [] => some 0
  | part :: rest => do
      return (← part.leastWidth) + (← leastSum rest)

def leastWidthOf : List Expression → Option Nat
  | [] => none
  | [only] => only.leastWidth
  | branch :: rest => do
      return min (← branch.leastWidth) (← leastWidthOf rest)

end

/-- Every match has a character. -/
def consuming (expression : Expression) : Bool := expression.leastWidth.any (0 < ·)

end Expression

namespace Size

def limit : Nat := 10485760

def state : Nat := 32

/-- The size of a state that leads on in a number of ways. -/
def fork (ways : Nat) : Nat := state + 4 * ways

/-- The size of a state that leads on for a number of ranges of bytes. -/
def table (ranges : Nat) : Nat := state + 8 * ranges

def total {α : Type} (size : α → Nat) (items : List α) : Nat :=
  items.foldl (fun sum item => sum + size item) 0

/-- The rows behind the first ranges of some rows: neighbours that begin with the same range lead
to the same place. -/
def behindFirst : List ByteRow → List (List ByteRow)
  | [] => []
  | [] :: rest => behindFirst rest
  | (range :: row) :: rest =>
      match behindFirst rest, rest with
      | group :: others, (next :: _) :: _ =>
          if range = next then (row :: group) :: others else [row] :: group :: others
      | groups, _ => [row] :: groups

/-- The states that lead through rows of some length: a state is the rows that remain. -/
def statesThrough : Nat → List (List ByteRow) → List (List ByteRow)
  | 0, _ => []
  | length + 1, current =>
      let going := current.filter (!·.all List.isEmpty)
      going ++ statesThrough length (going.flatMap behindFirst)

/-- The states for rows of ranges.  States with the same rows before them are the same. -/
def rowStates (rows : List ByteRow) : List (List ByteRow) :=
  (statesThrough ((rows.map List.length).foldl max 0) [rows]).eraseDups

/-- How many ranges two rows begin with in common. -/
def sharedLength : ByteRow → ByteRow → Nat
  | left :: lefts, right :: rights =>
      if left = right then sharedLength lefts rights + 1 else 0
  | _, _ => 0

/-- The number of ranges of some rows, those that neighbours begin with being counted once. -/
def unsharedRanges : ByteRow → List ByteRow → Nat
  | _, [] => 0
  | before, row :: rest => (row.length - sharedLength before row) + unsharedRanges row rest

def ofSet (direction : Direction) (set : CharacterSet) : Nat :=
  if set.runs.all fun run => run.2 ≤ 0x7f then
    state + table set.runs.length
  else
    let rows := ByteRow.ofSet set
    match direction with
    | .forward => state + total (fun rests => table (behindFirst rests).length) (rowStates rows)
    | .backward => fork rows.length + state + state * unsharedRanges [] rows

/-- The size of the states behind and at a state of a trie of some depth, without the state where
its words end. -/
def ofTrie : Nat → Trie → Nat
  | 0, _ => 0
  | depth + 1, trie =>
      if trie.isLeaf then 0
      else
        let groups := trie.groups
        let ofGroup (group : List (List UInt8)) : Nat :=
          let ways := Trie.waysOf group
          let own := if ways.length = 1 then state else table ways.length
          if ways.isEmpty then 0 else own + total (fun way => ofTrie depth way.2) ways
        let used := groups.countP (!·.isEmpty)
        fork (used + (groups.length - 1)) + total ofGroup groups

def ofTexts (direction : Direction) (texts : List (List Char)) : Nat :=
  let trie : Trie := ⟨texts.map fun text => direction.arrange (bytesOf text)⟩
  state + ofTrie trie.depth trie

def copies (count body : Nat) : Nat := if count = 0 then state else count * body

def ofRounds (rounds : Rounds) (consuming : Bool) (body : Nat) : Nat :=
  match rounds.least, rounds.most with
  | 0, none => if consuming then fork 2 + body else body + 2 * fork 2 + state
  | least, none => least * body + fork 2
  | 0, some 1 => fork 2 + body + state
  | least, some most =>
      copies least body + if least = most then 0 else state + (most - least) * (fork 2 + body)

/-- The texts of some expressions, if all of them are texts. -/
def texts? (expressions : List Expression) : Option (List (List Char)) :=
  expressions.mapM fun
    | .text characters => some characters
    | _ => none

end Size

namespace Expression

mutual

def size (direction : Direction) : Expression → Nat
  | .nothing | .view _ => Size.state
  | .text characters => Size.state * (bytesOf characters).length
  | .character set => Size.ofSet direction set
  | .repetition rounds body => Size.ofRounds rounds body.consuming (body.size direction)
  | .captured _ body =>
      match direction with
      | .forward => 2 * Size.state + body.size direction
      | .backward => body.size direction
  | .sequence parts => totalSize direction parts
  | .choice branches =>
      match Size.texts? branches with
      | some texts => Size.ofTexts direction texts
      | none => Size.fork branches.length + Size.state + totalSize direction branches

def totalSize (direction : Direction) : List Expression → Nat
  | [] => 0
  | expression :: rest => expression.size direction + totalSize direction rest

end

/-- The size of the machine for an expression.  Unless it is anchored it begins with a loop over
any byte; a machine that reads forward keeps where the match begins and ends. -/
def machineSize (direction : Direction) (expression : Expression) : Nat :=
  let search :=
    if expression.anchored direction then Size.state
    else Size.fork 2 + Size.state + Size.table 1
  let bounds :=
    match direction with
    | .forward => 2 * Size.state
    | .backward => 0
  search + bounds + expression.size direction + Size.state

def tooLarge (direction : Direction) (expression : Expression) : Bool :=
  Size.limit < expression.machineSize direction

end Expression

end CommandQueue.Pattern
