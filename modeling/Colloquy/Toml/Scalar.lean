import Colloquy.Toml.Text
import Colloquy.Toml.Value

/-!
# Numbers, dates and times of TOML

Digits may be separated by single underscores. Whole numbers have 64 bits with a sign. Dates and
times are checked for their ranges; their value is not kept.
-/

namespace Colloquy.Toml

open Text Text.Reader

/-- Read digits with single underscores between them. -/
def digits (isDigit : Char → Bool) : Reader (List Char) := do
  let first ← satisfy isDigit
  let rest ← many (satisfy isDigit <|> (literal ['_'] *> satisfy isDigit))
  match ← peek with
  | some '_' => failure
  | _ => return first :: rest

/-- Read a sign; whether it is a minus. -/
def sign : Reader Bool := do
  match ← peek with
  | some '-' => literal ['-'] *> return true
  | some '+' => literal ['+'] *> return false
  | _ => return false

/-- Read decimal digits without a leading zero. -/
def decimalDigits : Reader (List Char) := do
  match ← peek with
  | some '0' => literal ['0'] *> return ['0']
  | _ => digits Char.isDigit

/-- Whether a whole number fits into 64 binary digits, one of them for the sign. -/
def fitsInteger (value : Int) : Bool :=
  -9223372036854775808 ≤ value && value ≤ 9223372036854775807

/-- Read a whole number written in a base that a letter announces. -/
def integerInBase (letter : Char) (base : Nat) (isDigit : Char → Bool) : Reader Value := do
  literal ['0', letter]
  let value : Int := numberOf base (← digits isDigit)
  if fitsInteger value then return .integer value else failure

/-- Read a whole number in decimal digits. -/
def decimalInteger : Reader Value := do
  let negative ← sign
  let magnitude : Int := numberOf 10 (← decimalDigits)
  let value := if negative then -magnitude else magnitude
  if fitsInteger value then return .integer value else failure

/-- Read a whole number. -/
def integer : Reader Value :=
  integerInBase 'x' 16 isHexDigit <|>
  integerInBase 'o' 8 (fun c ↦ '0' ≤ c && c ≤ '7') <|>
  integerInBase 'b' 2 (fun c ↦ c == '0' || c == '1') <|>
  decimalInteger

/-- Read the exponent of a number. -/
def exponent : Reader Int := do
  let _ ← satisfy fun c ↦ c == 'e' || c == 'E'
  let negative ← sign
  let magnitude : Int := numberOf 10 (← digits Char.isDigit)
  return if negative then -magnitude else magnitude

/-- Read the digits after a point. -/
def fraction : Reader (List Char) := literal ['.'] *> digits Char.isDigit

/-- Read a number with a fraction or an exponent. One that is too large is refused; one that is
too small below zero is infinite. -/
def decimalFloat : Reader Value := do
  let negative ← sign
  let whole ← decimalDigits
  let places ← maybe fraction
  let power ← maybe exponent
  if places.isNone ∧ power.isNone then failure
  let after := places.getD []
  let scale : Int := power.getD 0 - after.length
  match Decimal.Binary64.ofDecimal negative (numberOf 10 (whole ++ after)) scale with
  | .infinite false => failure
  | value => return .float value

/-- Read an infinity or a number that is none. -/
def specialFloat : Reader Value := do
  let negative ← sign
  (do literal "inf".toList; return .float (.infinite negative)) <|>
    (do literal "nan".toList; return .float .nan)

/-- Read two digits with a value in a range. -/
def twoDigits (low high : Nat) : Reader Nat := do
  let value := numberOf 10 (← exactly 2 Char.isDigit)
  if low ≤ value ∧ value ≤ high then return value else failure

/-- The number of days in a month. -/
def daysIn (year month : Nat) : Nat :=
  if month = 2 then
    if year % 4 = 0 ∧ (year % 100 ≠ 0 ∨ year % 400 = 0) then 29 else 28
  else if month = 4 ∨ month = 6 ∨ month = 9 ∨ month = 11 then 30
  else 31

/-- Read a date. -/
def date : Reader Unit := do
  let year := numberOf 10 (← exactly 4 Char.isDigit)
  literal ['-']
  let month ← twoDigits 1 12
  literal ['-']
  let _ ← twoDigits 1 (daysIn year month)

/-- Read a time of the day. -/
def time : Reader Unit := do
  let _ ← twoDigits 0 23
  literal [':']
  let _ ← twoDigits 0 59
  literal [':']
  let _ ← twoDigits 0 60
  let _ ← maybe (literal ['.'] *> takeWhile1 Char.isDigit)

/-- Read the distance of a time zone. -/
def zone : Reader Unit :=
  (do let _ ← satisfy fun c ↦ c == 'Z' || c == 'z') <|>
  (do
    let _ ← satisfy fun c ↦ c == '+' || c == '-'
    let _ ← twoDigits 0 23
    literal [':']
    let _ ← twoDigits 0 59)

/-- Read a date, a time or both. -/
def datetime : Reader Value :=
  (do
    date
    let _ ← maybe do
      let _ ← satisfy fun c ↦ c == 'T' || c == 't' || c == ' '
      time
      maybe zone
    return .datetime) <|>
  (do
    time
    return .datetime)

/-- Read a value that holds no other values. -/
def scalar : Reader Value :=
  (do return .string (String.ofList (← string))) <|>
  (do literal "true".toList; return .boolean true) <|>
  (do literal "false".toList; return .boolean false) <|>
  datetime <|> decimalFloat <|> specialFloat <|> integer

end Colloquy.Toml
