/-!
# Doubles as exact numbers

A finite double is an integer times a power of two.  `Dyadic` says which integer and which
power, so that rounding, comparison and the test for a whole number are integer arithmetic:

* `Dyadic.ofFloat?` — the number that a double stands for, unless it is infinite or no number;
* `Dyadic.toInt?` — the integer that the number equals, if it equals one;
* `Dyadic.ofInt`, `Dyadic.compare` — integers among these numbers, and the order of values.
-/

namespace TableQuery

/-- The number `± significand · 2 ^ exponent`. -/
structure Dyadic where
  /-- The sign; zero has one too. -/
  negative : Bool
  /-- The absolute value in units of `2 ^ exponent`. -/
  significand : Nat
  /-- The power of two that is the unit. -/
  exponent : Int
  deriving DecidableEq, Repr

namespace Dyadic

/-! ## From doubles -/

/-- The smallest significand of a normal double. -/
def leastNormal : Nat := Nat.pow 2 52

/-- The unit of the smallest doubles is `2 ^ (-1074)`. -/
def leastExponent : Int := -1074

/-- The number that a finite double stands for.  The bits are the sign, eleven bits that choose
the unit, and fifty-two bits of the significand, whose leading one is left out unless the unit is
the least one. -/
def ofFloat? (x : Float) : Option Dyadic :=
  let bits := x.toBits.toNat
  let unit := bits / Nat.pow 2 52 % Nat.pow 2 11
  let fraction := bits % Nat.pow 2 52
  if unit = 2047 then none
  else some
    { negative := bits / Nat.pow 2 63 == 1
      significand := if unit = 0 then fraction else fraction + leastNormal
      exponent := (max unit 1 : Nat) + leastExponent - 1 }

/-! ## Whole numbers -/

/-- An integer with the sign of the number. -/
def signed (x : Dyadic) (n : Nat) : Int := if x.negative then -(n : Int) else n

/-- The integer that the number equals, if it equals one. -/
def toInt? (x : Dyadic) : Option Int :=
  match x.exponent with
  | .ofNat e => some (x.signed (x.significand * Nat.pow 2 e))
  | .negSucc e =>
    let unit := Nat.pow 2 (e + 1)
    if x.significand % unit = 0 then some (x.signed (x.significand / unit)) else none

/-- An integer as such a number. -/
def ofInt (i : Int) : Dyadic := ⟨decide (i < 0), i.natAbs, 0⟩

/-! ## Order -/

/-- The value in units of `2 ^ e`, for a unit that is not larger than the number's own. -/
def inUnits (x : Dyadic) (e : Int) : Int :=
  x.signed (x.significand * Nat.pow 2 (x.exponent - e).toNat)

/-- The order of the values; the sign of a zero does not count. -/
def compare (x y : Dyadic) : Ordering :=
  let e := min x.exponent y.exponent
  Ord.compare (x.inUnits e) (y.inUnits e)

end Dyadic

end TableQuery
