import TableQuery.Text.Split

/-!
# Reading numbers

An integer is an optional sign and at least one digit.  A double is an optional sign and either
`inf`, `infinity` or `nan` in any letter case, or digits with at most one point among them and at
least one digit, then perhaps `e` and an exponent.  Nothing may stand before or after.

* `readDigits` — digits only;
* `readInt` — an integer between two bounds, with either sign;
* `readNat` — a natural number up to a bound, with a plus sign at most;
* `readFloat` — the double nearest to the decimal written.
-/

namespace TableQuery.Decimal

/-! ## Digits -/

/-- The value of a digit. -/
def digitValue (c : Char) : Nat := c.toNat - '0'.toNat

/-- The number that a run of digits stands for, after digits that stand for `acc`. -/
def digitsValue (acc : Nat) : List Char → Nat
  | [] => acc
  | c :: rest => digitsValue (10 * acc + digitValue c) rest

/-- The number written by a text of digits, of which there is at least one. -/
def readDigits (cs : List Char) : Option Nat :=
  if cs ≠ [] ∧ cs.all Char.isDigit then some (digitsValue 0 cs) else none

/-! ## Integers -/

/-- The integer written by an optional sign and digits. -/
def readSigned : List Char → Option Int
  | '-' :: rest => (readDigits rest).map fun n => -(n : Int)
  | '+' :: rest => (readDigits rest).map fun n => (n : Int)
  | rest => (readDigits rest).map fun n => (n : Int)

/-- The integer written, if it lies between the bounds. -/
def readInt (low high : Int) (s : String) : Option Int :=
  (readSigned s.toList).filter fun i => low ≤ i ∧ i ≤ high

/-- The natural number written by digits with at most a plus sign, if it is within the bound. -/
def readNat (high : Nat) (s : String) : Option Nat :=
  let digits := match s.toList with
    | '+' :: rest => rest
    | cs => cs
  (readDigits digits).filter (· ≤ high)

/-- An integer that fits in sixty-four bits with a sign. -/
def readInt64 (s : String) : Option Int64 :=
  (readInt Int64.minValue.toInt Int64.maxValue.toInt s).map Int64.ofInt

/-! ## Doubles -/

/-- The double nearest to `coefficient · 10 ^ exponent`. -/
def nearestFloat (coefficient : Nat) (exponent : Int) : Float :=
  Float.ofScientific coefficient (decide (exponent < 0)) exponent.natAbs

/-- The exponent part: nothing, or `e` and a signed integer. -/
def readExponent : List Char → Option Int
  | [] => some 0
  | c :: rest => if c = 'e' ∨ c = 'E' then readSigned rest else none

/-- A decimal without a sign. -/
def readDecimal (cs : List Char) : Option Float :=
  let whole := cs.takeWhile Char.isDigit
  let afterWhole := cs.dropWhile Char.isDigit
  let (part, rest) := match afterWhole with
    | '.' :: r => (r.takeWhile Char.isDigit, r.dropWhile Char.isDigit)
    | r => ([], r)
  let digits := whole ++ part
  if digits = [] then none
  else (readExponent rest).map fun e => nearestFloat (digitsValue 0 digits) (e - part.length)

/-- A double without a sign. -/
def readMagnitude (cs : List Char) : Option Float :=
  let word := Text.lower (String.ofList cs)
  if word = "inf" ∨ word = "infinity" then some (1.0 / 0.0)
  else if word = "nan" then some (0.0 / 0.0)
  else readDecimal cs

/-- The double that a text writes. -/
def readFloat (s : String) : Option Float :=
  match s.toList with
  | '-' :: rest => (readMagnitude rest).map fun x => -x
  | '+' :: rest => readMagnitude rest
  | cs => readMagnitude cs

end TableQuery.Decimal
