/-!
# Binary floating point numbers with 53 digits

A finite number is a sign and a magnitude `mantissa · 2 ^ exponent`, where the mantissa has at
most 53 binary digits and the exponent is at least -1074 and at most 971. A decimal number is
rounded to the nearest of these, and a tie goes to the even mantissa.
-/

namespace Colloquy.Decimal

/-- A binary floating point number. -/
inductive Binary64 where
  | finite (negative : Bool) (mantissa : Nat) (exponent : Int)
  | infinite (negative : Bool)
  | nan
  deriving DecidableEq, Repr

/-- The nearest natural number to `numerator / denominator`; a tie goes to the even one. -/
def roundDiv (numerator denominator : Nat) : Nat :=
  let quotient := numerator / denominator
  let twice := 2 * (numerator % denominator)
  if twice < denominator ∨ (twice = denominator ∧ quotient % 2 = 0) then quotient else quotient + 1

/-- `numerator / denominator · base ^ exponent` as a numerator and a denominator. -/
def scale (numerator denominator base : Nat) (exponent : Int) : Nat × Nat :=
  if 0 ≤ exponent then (numerator * base.pow exponent.toNat, denominator)
  else (numerator, denominator * base.pow (-exponent).toNat)

/-- Round a positive fraction whose binary exponent is near `guess`: the mantissa and exponent of
the result, the exponent being raised until the mantissa fits into 53 digits. -/
def roundFraction (numerator denominator : Nat) : Nat → Int → Nat × Int
  | 0, guess => (0, guess)
  | tries + 1, guess =>
    let (n, d) := scale numerator denominator 2 (-guess)
    let mantissa := roundDiv n d
    if mantissa < 2 ^ 53 then (mantissa, guess)
    else roundFraction numerator denominator tries (guess + 1)

/-- The number nearest to `digits · 10 ^ exponent`. -/
def Binary64.ofDecimal (negative : Bool) (digits : Nat) (exponent : Int) : Binary64 :=
  let magnitude : Int := (Nat.toDigits 10 digits).length + exponent
  if digits = 0 ∨ magnitude < -330 then .finite negative 0 0
  else if 310 < magnitude then .infinite negative
  else
    let (n, d) := scale digits 1 10 exponent
    let guess : Int := (Nat.log2 n : Int) - Nat.log2 d - 53
    let (mantissa, power) := roundFraction n d 4 (max guess (-1074))
    if 971 < power then .infinite negative else .finite negative mantissa power

end Colloquy.Decimal
