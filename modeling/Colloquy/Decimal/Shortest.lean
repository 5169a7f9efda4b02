import Colloquy.Decimal.Binary64

/-!
# The shortest decimal text of a binary number

The digits are the fewest that read back as the same number, and of those the nearest to it. They
are written without an exponent.
-/

namespace Colloquy.Decimal

/-- Whether `candidate · 10 ^ power` reads back as the magnitude `mantissa · 2 ^ exponent`. -/
def readsBack (mantissa : Nat) (exponent : Int) (candidate : Nat) (power : Int) : Bool :=
  match Binary64.ofDecimal false candidate power with
  | .finite _ m e =>
    let (n, d) := scale m 1 2 e
    let (n', d') := scale mantissa 1 2 exponent
    n * d' == n' * d
  | _ => false

/-- The distance of `candidate` from `numerator / denominator`, times the denominator. -/
def distance (numerator denominator candidate : Nat) : Nat :=
  (numerator - candidate * denominator) + (candidate * denominator - numerator)

/-- The digits and the power of ten of the shortest decimal, sought on grids from `power` down. -/
def shortestFrom (mantissa : Nat) (exponent : Int) : Nat → Int → Nat × Int
  | 0, power => (0, power)
  | grids + 1, power =>
    let (n, d) := scale mantissa 1 2 exponent
    let (n, d) := scale n d 10 (-power)
    let below := n / d
    let candidates := [below, below + 1].filter (readsBack mantissa exponent · power)
    match candidates with
    | [] => shortestFrom mantissa exponent grids (power - 1)
    | [only] => (only, power)
    | first :: second :: _ =>
      if distance n d second < distance n d first then (second, power) else (first, power)

/-- The shortest digits of a positive magnitude, and their power of ten. -/
def shortest (mantissa : Nat) (exponent : Int) : Nat × Int :=
  let (n, d) := scale mantissa 1 2 exponent
  let top : Int := (Nat.toDigits 10 (n / d)).length
  let places : Int := if n / d = 0 then -(Nat.toDigits 10 (d / n)).length + 1 else top
  shortestFrom mantissa exponent 20 places

/-- Digits and a power of ten without an exponent. -/
def positional (digits : Nat) (power : Int) : List Char :=
  let text := Nat.toDigits 10 digits
  if 0 ≤ power then text ++ List.replicate power.toNat '0'
  else
    let places := (-power).toNat
    let padded := List.replicate (places + 1 - text.length) '0' ++ text
    padded.take (padded.length - places) ++ '.' :: padded.drop (padded.length - places)

/-- The text of a number. A whole number gets one zero after the point. -/
def Binary64.toText : Binary64 → String
  | .nan => "NaN"
  | .infinite negative => if negative then "-inf" else "inf"
  | .finite negative mantissa exponent =>
    let sign := if negative then ['-'] else []
    let body :=
      if mantissa = 0 then ['0']
      else
        let (digits, power) := shortest mantissa exponent
        positional digits power
    let body := if body.contains '.' then body else body ++ ['.', '0']
    String.ofList (sign ++ body)

end Colloquy.Decimal
