import CommandQueue.Text.Decimal

/-!
# Lengths of time

A length of time is a whole number of nanoseconds.  It is shown in the largest
unit that leaves a whole part, with as many decimals as it needs and no more.
-/

namespace CommandQueue

structure Duration where
  nanoseconds : Nat
  deriving DecidableEq, Repr

namespace Duration

def zero : Duration := ⟨0⟩

def ofSeconds (seconds : Nat) : Duration := ⟨seconds * 1000000000⟩

def ofMilliseconds (milliseconds : Nat) : Duration := ⟨milliseconds * 1000000⟩

def ofMicroseconds (microseconds : Nat) : Duration := ⟨microseconds * 1000⟩

/-- The digits of `part` written in `places`, without the zeros that end them. -/
def decimals (places part : Nat) : List Char :=
  ((Text.digitsIn places part).reverse.dropWhile (· == '0')).reverse

/-- An amount counted in a small unit and shown in one that is larger by `places` decimals. -/
def scaled (amount places : Nat) (unit : String) : String :=
  let larger := Text.powerOfTen places
  let whole := toString (amount / larger)
  match decimals places (amount % larger) with
  | [] => whole ++ unit
  | digits => whole ++ "." ++ String.ofList digits ++ unit

/-- The length in seconds, milliseconds, microseconds or nanoseconds, whichever is the first
of these that leaves a whole part. -/
def text (duration : Duration) : String :=
  let amount := duration.nanoseconds
  if 1000000000 ≤ amount then scaled amount 9 "s"
  else if 1000000 ≤ amount then scaled amount 6 "ms"
  else if 1000 ≤ amount then scaled amount 3 "µs"
  else scaled amount 0 "ns"

example : (ofSeconds 5).text = "5s" := by cbv
example : (ofMilliseconds 1500).text = "1.5s" := by cbv
example : (ofMicroseconds 2050).text = "2.05ms" := by cbv
example : zero.text = "0ns" := by cbv

end Duration

end CommandQueue
