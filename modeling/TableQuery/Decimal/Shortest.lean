import TableQuery.Decimal.Dyadic

/-!
# The shortest decimal that reads back

The decimal text of a double is the shortest one from which the same double is read again, and
among those of that length the nearest.  Two of them may be equally near; which one counts then is
the `Tie` of the format.  The reals that are read as the double `m · 2 ^ q` form an
interval around it: up to half a unit above, and down to half a unit below, or to a quarter where
the doubles below lie closer together.  The ends belong to it exactly when `m` is even.

For each number of digits the decimals form a grid, and if any point of the grid lies in the
interval, so does one of the two neighbours of the number itself.  So `Decimal.shortest` looks at
two candidates for one digit, two digits, and so on.

* `Interval` — the interval of one double, over a common denominator;
* `Decimal` — a coefficient and a power of ten;
* `Tie` — which of two equally near decimals counts;
* `Decimal.shortest` — the shortest decimal of a double.
-/

namespace TableQuery

/-! ## The interval of a double -/

/-- A double and the ends of its interval, all three over one denominator. -/
structure Interval where
  /-- The numerator of the lower end. -/
  low : Nat
  /-- The numerator of the double itself. -/
  value : Nat
  /-- The numerator of the upper end. -/
  high : Nat
  /-- The common denominator. -/
  denominator : Nat
  /-- The ends belong to the interval. -/
  closed : Bool

namespace Interval

/-- The interval of `m · 2 ^ q`, counted in quarters of the unit `2 ^ q`. -/
def ofDyadic (m : Nat) (q : Int) : Interval :=
  let near := m = Dyadic.leastNormal ∧ Dyadic.leastExponent < q
  let scale := Nat.pow 2 (q - 2).toNat
  { low := (4 * m - if near then 1 else 2) * scale
    value := 4 * m * scale
    high := (4 * m + 2) * scale
    denominator := Nat.pow 2 (2 - q).toNat
    closed := m % 2 == 0 }

/-- The fraction `numerator / divisor` lies in the interval. -/
def contains (i : Interval) (numerator divisor : Nat) : Bool :=
  let x := numerator * i.denominator
  if i.closed then i.low * divisor ≤ x && x ≤ i.high * divisor
  else i.low * divisor < x && x < i.high * divisor

end Interval

/-! ## Decimals -/

/-- The number `coefficient · 10 ^ exponent`. -/
structure Decimal where
  /-- The digits, as one number. -/
  coefficient : Nat
  /-- The power of ten that is the unit of the last digit. -/
  exponent : Int
  deriving DecidableEq, Repr

/-- Which of two equally near decimals counts. -/
inductive Tie where
  /-- The one whose coefficient is even. -/
  | even
  /-- The one further from zero. -/
  | away
  deriving DecidableEq, Repr

/-- Of two coefficients in a row, the lower one counts. -/
def Tie.takesLower (tie : Tie) (below : Nat) : Bool :=
  match tie with
  | .even => below % 2 == 0
  | .away => false

namespace Decimal

/-- The decimal digits of a number, the leading one first. -/
def digitsOf (n : Nat) : List Char := Nat.toDigits 10 n

/-- The power of ten of the leading digit of `numerator / denominator`.  Below one it is read off
the inverse, which is right because no fraction whose denominator is a power of two is an inverse
power of ten. -/
def magnitude (numerator denominator : Nat) : Int :=
  if denominator ≤ numerator then ((digitsOf (numerator / denominator)).length : Int) - 1
  else -((digitsOf (denominator / numerator)).length : Int)

/-- The same number without zeros at the end of its coefficient. -/
def trimZeros : Nat → Decimal → Decimal
  | 0, d => d
  | fuel + 1, d =>
    if d.coefficient % 10 = 0 then trimZeros fuel ⟨d.coefficient / 10, d.exponent + 1⟩ else d

/-- The neighbour of the number on the grid of multiples of `10 ^ k` that reads back; of two, the
nearer. -/
def neighbour? (tie : Tie) (i : Interval) (k : Int) : Option Nat :=
  let up := Nat.pow 10 (-k).toNat
  let down := Nat.pow 10 k.toNat
  let below := i.value * up / (i.denominator * down)
  let above := below + 1
  let hitBelow := i.contains (below * down) up
  let hitAbove := i.contains (above * down) up
  let twice := 2 * (i.value * up)
  let middle := (below + above) * (i.denominator * down)
  let nearBelow := twice < middle || (twice == middle && tie.takesLower below)
  if hitBelow && (!hitAbove || nearBelow) then some below
  else if hitAbove then some above
  else none

/-- Tries the grids of `n`, `n + 1`, … digits for a number whose leading digit stands at `e`. -/
def onGrids (tie : Tie) (i : Interval) (e : Int) : Nat → Nat → Decimal
  | 0, n => ⟨i.value * Nat.pow 10 (n - 1 - e).toNat / i.denominator, e - n + 1⟩
  | fuel + 1, n =>
    let k := e - n + 1
    match neighbour? tie i k with
    | some c => trimZeros 20 ⟨c, k⟩
    | none => onGrids tie i e fuel (n + 1)

/-- The shortest decimal that reads back as `m · 2 ^ q`, and the nearest of that length; seventeen
digits are always enough. -/
def shortest (tie : Tie) (m : Nat) (q : Int) : Decimal :=
  if m = 0 then ⟨0, 0⟩
  else
    let i := Interval.ofDyadic m q
    onGrids tie i (magnitude i.value i.denominator) 17 1

/-- The power of ten of the leading digit. -/
def leading (d : Decimal) : Int := d.exponent + (digitsOf d.coefficient).length - 1

end Decimal

end TableQuery
