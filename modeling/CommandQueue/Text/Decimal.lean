/-!
# Decimal places

Amounts are written with a whole part and decimals.  The decimals of a number
counted in small units are its digits, with zeros before them where there are
too few.
-/

namespace CommandQueue.Text

/-- How many of the last of so many decimals make a whole. -/
def powerOfTen : Nat → Nat
  | 0 => 1
  | places + 1 => 10 * powerOfTen places

/-- The digits of a number in at least so many places. -/
def digitsIn (places number : Nat) : List Char :=
  let digits := Nat.toDigits 10 number
  List.replicate (places - digits.length) '0' ++ digits

example : digitsIn 3 7 = ['0', '0', '7'] := by decide
example : digitsIn 1 42 = ['4', '2'] := by decide

end CommandQueue.Text
