import CommandQueue.Pattern.Cursor
import CommandQueue.Pattern.Term

/-!
# Repetitions

A repetition stands behind what is repeated: a mark, or a least and a greatest
count between braces.  A question mark behind it asks for as few rounds as
possible.
-/

namespace CommandQueue.Pattern

namespace Repetition

open Reader

def greatestCount : Nat := 0xffffffff

/-- The rounds of a mark. -/
def ofMark? : Char → Option Rounds
  | '?' => some ⟨0, some 1, false⟩
  | '*' => some ⟨0, none, false⟩
  | '+' => some ⟨1, none, false⟩
  | _ => none

def numberOf (digits : List Char) : Nat :=
  digits.foldl (fun value digit => 10 * value + (digit.toNat - '0'.toNat)) 0

/-- Read a count with the blanks around it.  What is wrong with it is returned, because a pattern
that ends here has another problem. -/
def readCount : Reader (Except Complaint Nat) := do
  let _ ← collect step Text.blank
  let first ← here
  let digits ← collect step Char.isDigit
  let span : Span := ⟨first, ← here⟩
  let _ ← collect step Text.blank
  if digits.isEmpty then
    return .error ⟨.countMissing, span, none⟩
  else if greatestCount < numberOf digits then
    return .error ⟨.numberTooLarge, span, none⟩
  else
    return .ok (numberOf digits)

/-- Read the counts between braces, the opening one being read. -/
def readRounds (start : Place) : Reader Rounds := do
  let least ← readCount
  match ← peek with
  | none => complainSince .countUnclosed start
  | some ',' =>
      step
      match ← peek with
      | none => complainSince .countUnclosed start
      | some '}' => return ⟨← MonadExcept.ofExcept least, none, false⟩
      | some _ =>
          let low ← MonadExcept.ofExcept least
          let high ← MonadExcept.ofExcept (← readCount)
          return ⟨low, some high, false⟩
  | some _ =>
      let count ← MonadExcept.ofExcept least
      return ⟨count, some count, false⟩

/-- Read whether few rounds are preferred: a question mark says so. -/
def readPreference (rounds : Rounds) : Reader Rounds := do
  return { rounds with lazy := ← bumpIf "?" }

def readCounted : Reader Rounds := do
  let start ← here
  step
  if (← peek).isNone then complainSince .countUnclosed start
  let rounds ← readRounds start
  if (← peek) != some '}' then complainSince .countUnclosed start
  step
  let preferred ← readPreference rounds
  if rounds.most.any (· < rounds.least) then complainSince .countOrder start
  return preferred

def read (mark : Char) : Reader Rounds := do
  match ofMark? mark with
  | some rounds =>
      bump
      readPreference rounds
  | none => readCounted

end Repetition

end CommandQueue.Pattern
