import CommandQueue.Text.Decimal

/-!
# Numbers with a fixed count of decimals

A binary fraction has an exact decimal value.  Here it is rounded to a given
count of decimals, a half going to the even neighbour, and written in full.
-/

namespace CommandQueue.Text

/-- The whole number nearest to a quotient; of two that are equally near, the even one. -/
def roundHalfEven (numerator denominator : Nat) : Nat :=
  let quotient := numerator / denominator
  let doubled := 2 * (numerator % denominator)
  if denominator < doubled ∨ (doubled = denominator ∧ quotient % 2 = 1) then
    quotient + 1
  else
    quotient

/-- A number counted in units of the last of `places` decimals. -/
def decimal (places units : Nat) : String :=
  let whole := powerOfTen places
  toString (units / whole) ++ "." ++ String.ofList (digitsIn places (units % whole))

/-- A single-precision number as the bits of its sign, exponent and fraction show it. -/
structure Single where
  negative : Bool
  exponent : Nat
  fraction : Nat
  deriving DecidableEq, Repr

namespace Single

def ofBits (bits : Nat) : Single :=
  ⟨bits / 0x80000000 % 2 = 1, bits / 0x800000 % 256, bits % 0x800000⟩

/-- The number without its sign, counted in units of the last of `places` decimals. -/
def units (places : Nat) (single : Single) : Nat :=
  let mantissa := if single.exponent = 0 then single.fraction else single.fraction + 0x800000
  let power := max single.exponent 1
  roundHalfEven ((mantissa <<< (power - 150)) * powerOfTen places) (1 <<< (150 - power))

def fixed (places : Nat) (single : Single) : String :=
  let sign := if single.negative then "-" else ""
  if single.exponent = 255 then
    if single.fraction = 0 then sign ++ "inf" else "NaN"
  else
    sign ++ decimal places (single.units places)

end Single

def fixed (places : Nat) (number : Float32) : String :=
  (Single.ofBits number.toBits.toNat).fixed places

example : (Single.ofBits 0x3d800000).fixed 3 = "0.062" := by cbv
example : (Single.ofBits 0xbf99999a).fixed 3 = "-1.200" := by cbv
example : (Single.ofBits 0x80000000).fixed 3 = "-0.000" := by cbv
example : (Single.ofBits 0x49742408).fixed 3 = "1000000.500" := by cbv

end CommandQueue.Text
