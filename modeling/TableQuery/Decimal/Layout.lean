import TableQuery.Decimal.Shortest

/-!
# How a double is written

The digits of a double are those of the shortest decimal that reads back.  A `Layout` says which of
two equally near decimals counts and how the digits are set out: between which powers of ten the
text is positional, whether a whole number keeps a `.0`, and whether a positive exponent has a sign.

* `Layout` — the decisions;
* `Decimal.toText` — a decimal set out by a layout;
* `Layout.text` — a double set out by a layout;
* `Layout.json`, `Layout.plain`, `Layout.source` — the three layouts in use.
-/

namespace TableQuery

/-- The decisions about the text of a number. -/
structure Layout where
  /-- Which of two equally near decimals counts. -/
  tie : Tie
  /-- The least and the greatest power of ten of a leading digit that is written positionally;
  without them every number is. -/
  positional : Option (Int × Int)
  /-- A whole number that is written positionally ends in `.0`. -/
  wholePoint : Bool
  /-- A positive exponent has a plus sign. -/
  plus : Bool

namespace Layout

/-- JSON texts: positional from `0.00001` to below `1e+16`, always with a point. -/
def json : Layout := ⟨.even, some (-5, 15), true, true⟩

/-- Plain texts: always positional, and a whole number has no point. -/
def plain : Layout := ⟨.away, none, false, false⟩

/-- Texts of literals: positional from `0.0001` to below `1e16`, always with a point. -/
def source : Layout := ⟨.away, some (-4, 15), true, false⟩

/-- The layout writes a number with this leading power of ten positionally. -/
def isPositional (l : Layout) (lead : Int) : Bool :=
  match l.positional with
  | none => true
  | some (least, greatest) => least ≤ lead && lead ≤ greatest

end Layout

namespace Decimal

/-- A run of zeros. -/
def zeros (n : Nat) : List Char := List.replicate n '0'

/-- The digits around a point, without an exponent. -/
def positionalText (l : Layout) (d : Decimal) : List Char :=
  let digits := digitsOf d.coefficient
  if 0 ≤ d.exponent then
    digits ++ zeros d.exponent.toNat ++ (if l.wholePoint then ['.', '0'] else [])
  else if 0 ≤ d.leading then
    let (whole, part) := digits.splitAt (d.leading + 1).toNat
    whole ++ '.' :: part
  else '0' :: '.' :: (zeros (-d.leading - 1).toNat ++ digits)

/-- One digit, a point if more digits follow, and the exponent. -/
def scientificText (l : Layout) (d : Decimal) : List Char :=
  let mantissa := match digitsOf d.coefficient with
    | first :: second :: rest => first :: '.' :: second :: rest
    | short => short
  let sign := if d.leading < 0 then ['-'] else if l.plus then ['+'] else []
  mantissa ++ 'e' :: sign ++ digitsOf d.leading.natAbs

/-- A decimal set out by a layout. -/
def toText (l : Layout) (d : Decimal) : List Char :=
  if l.isPositional d.leading then positionalText l d else scientificText l d

end Decimal

/-- A double set out by a layout; a zero keeps its sign. -/
def Layout.text (l : Layout) (x : Float) : String :=
  match Dyadic.ofFloat? x with
  | some d =>
    let digits := (Decimal.shortest l.tie d.significand d.exponent).toText l
    String.ofList (if d.negative then '-' :: digits else digits)
  | none => if x.isNaN then "NaN" else if x < 0.0 then "-inf" else "inf"

end TableQuery
