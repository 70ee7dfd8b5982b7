import TableQuery.Decimal.Layout
import TableQuery.Decimal.Reading
import TableQuery.Decimal.Wide
import TableQuery.Text.Blank

/-!
# Numbers in texts

A text that is a number between blanks counts as that number where a number is wanted.  Its digits
are taken only until there is no room for one more in sixty-four bits, and the power of ten is
multiplied in with that many bits, so the double is not always the nearest one.  A double is written
with fifteen digits, which are cut from an integer found in the same way.

* `Numeral`, `Numeral.read?` — the number that a text writes;
* `Numeral.toFloat` — its double;
* `realText` — the text of a double.
-/

namespace TableQuery.Database

/-! ## Reading -/

/-- A blank that may stand around a number. -/
def isBlank (c : Char) : Bool := c == ' ' || (9 ≤ c.toNat && c.toNat ≤ 13)

/-- A text without the blanks around it. -/
def trimmed (s : String) : String :=
  String.ofList (Text.dropEndWhile isBlank (s.toList.dropWhile isBlank))

/-- A number as a text writes it: `± significand · 10 ^ exponent`. -/
structure Numeral where
  /-- There is a minus sign. -/
  negative : Bool
  /-- The digits that are taken. -/
  significand : Nat
  /-- The power of ten. -/
  exponent : Int
  /-- There is neither a point nor an exponent. -/
  whole : Bool
  deriving DecidableEq, Repr

namespace Numeral

/-- One more digit may be added only below this bound. -/
def roomBelow : Nat := (UInt64.size - 10) / 10

/-- Takes one digit before the point; a digit without room only counts as a place. -/
def takeWhole (n : Nat × Int) (c : Char) : Nat × Int :=
  if n.1 < roomBelow then (10 * n.1 + Decimal.digitValue c, n.2) else (n.1, n.2 + 1)

/-- Takes one digit after the point; a digit without room does not count at all. -/
def takePart (n : Nat × Int) (c : Char) : Nat × Int :=
  if n.1 < roomBelow then (10 * n.1 + Decimal.digitValue c, n.2 - 1) else n

/-- The value of the digits of an exponent; beyond ten thousand the size does not matter. -/
def powerOf (digits : List Char) : Nat :=
  digits.foldl (fun e c => if e < 10000 then 10 * e + Decimal.digitValue c else 10000) 0

/-- The exponent behind the digits, if there is one, and it is complete. -/
def readPower? : List Char → Option Int
  | [] => some 0
  | mark :: rest =>
    let (sign, digits) := match rest with
      | '-' :: digits => (-1, digits)
      | '+' :: digits => (1, digits)
      | digits => (1, digits)
    if (mark = 'e' ∨ mark = 'E') ∧ digits ≠ [] ∧ digits.all Char.isDigit then
      some (sign * powerOf digits)
    else none

/-- The number that a text writes without a sign. -/
def readUnsigned? (negative : Bool) (cs : List Char) : Option Numeral :=
  let digits := cs.takeWhile Char.isDigit
  let afterDigits := cs.dropWhile Char.isDigit
  let (part, rest) := match afterDigits with
    | '.' :: rest => (rest.takeWhile Char.isDigit, rest.dropWhile Char.isDigit)
    | rest => ([], rest)
  if digits ++ part = [] then none
  else
    let (m, places) := part.foldl takePart (digits.foldl takeWhole (0, 0))
    (readPower? rest).map fun e => ⟨negative, m, e + places, afterDigits.isEmpty⟩

/-- The number that a text writes between blanks. -/
def read? (s : String) : Option Numeral :=
  match (trimmed s).toList with
  | '-' :: rest => readUnsigned? true rest
  | '+' :: rest => readUnsigned? false rest
  | rest => readUnsigned? false rest

/-! ## Doubles -/

/-- The significand below which a zero may be added to it. -/
def zeroBelow : Nat := (UInt64.size - 1 - 0x7ff) / 10

/-- The exponent brought nearer to zero by zeros at the end of the significand. -/
def settle : Nat → Nat → Int → Nat × Int
  | 0, m, e => (m, e)
  | fuel + 1, m, e =>
    if 0 < e ∧ m < zeroBelow then settle fuel (10 * m) (e - 1)
    else if e < 0 ∧ m % 10 = 0 then settle fuel (m / 10) (e + 1)
    else (m, e)

/-- The double of a number. -/
def toFloat (n : Numeral) : Float :=
  let magnitude :=
    if n.significand = 0 then 0.0
    else
      let (m, e) := settle 20 n.significand n.exponent
      ((Wide.nearest m 0).scaled e).toFloat
  if n.negative then -magnitude else magnitude

end Numeral

/-! ## Writing -/

/-- The number of digits of a double. -/
def realDigits : Nat := 15

/-- Multiplies by a power of ten as long as a test holds, and counts the places. -/
def whileMultiplied (test : Wide → Bool) (step : Int) : Nat → Wide × Int → Wide × Int
  | 0, x => x
  | fuel + 1, (a, places) =>
    if test a then whileMultiplied test step fuel (a.mul (.tenTo step), places - step)
    else (a, places)

/-- An integer of eighteen or nineteen digits and the power of ten by which it gives a number:
a number that is too large is divided, and one that is too small is multiplied. -/
def decimalOf (a : Wide) : Nat × Int :=
  let below (n : Int) (x : Wide) := x.isBelow (.tenTo n)
  let fuel := 20
  let (a, places) :=
    if !below 19 a then
      whileMultiplied (!below 19 ·) (-1) fuel
        (whileMultiplied (!below 29 ·) (-10) fuel
          (whileMultiplied (!below 119 ·) (-100) fuel (a, 0)))
    else
      whileMultiplied (below 17) 1 fuel
        (whileMultiplied (below 7) 10 fuel (whileMultiplied (below (-97)) 100 fuel (a, 0)))
  (a.floor, places)

/-- The digits cut to fifteen; the first one that is cut off decides whether the last one that is
left goes up. -/
def rounded (m : Nat) (places : Int) : Decimal :=
  let dropped := (Decimal.digitsOf m).length - realDigits
  let unit := Nat.pow 10 dropped
  let up := 5 * unit ≤ 10 * (m % unit)
  Decimal.trimZeros 20 ⟨m / unit + (if up then 1 else 0), places + dropped⟩

/-- How doubles are written: with a point always. -/
def realLayout : Layout := ⟨.away, some (-4, 14), true, true⟩

/-- A double in scientific form: a digit, a point, at least one more digit, and an exponent of at
least two digits with its sign. -/
def scientific (d : Decimal) : List Char :=
  let mantissa := match Decimal.digitsOf d.coefficient with
    | [one] => [one, '.', '0']
    | one :: more => one :: '.' :: more
    | [] => []
  let power := Decimal.digitsOf d.leading.natAbs
  mantissa ++ 'e' :: (if d.leading < 0 then '-' else '+') ::
    (if power.length < 2 then '0' :: power else power)

/-- The text of a double that is a number; a zero has no sign. -/
def realText (x : Float) : String :=
  match Dyadic.ofFloat? x with
  | none => if x < 0.0 then "-Inf" else "Inf"
  | some d =>
    if d.significand = 0 then "0.0"
    else
      let (m, places) := decimalOf ⟨d.significand, d.exponent⟩
      let r := rounded m places
      let digits :=
        if realLayout.isPositional r.leading then r.positionalText realLayout else scientific r
      String.ofList (if d.negative then '-' :: digits else digits)

end TableQuery.Database
