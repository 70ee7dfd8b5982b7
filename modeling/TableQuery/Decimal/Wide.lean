import TableQuery.Decimal.Dyadic

/-!
# Arithmetic with sixty-four significant bits

A `Wide` is a natural number of at most sixty-four bits times a power of two of any size.  The
product of two is the nearest such number, and of two equally near ones the even one; so is each
power of ten.  A chain of products carries the error of every step, which the last digits show.

* `Wide.nearest` — the number nearest to an integer times a power of two;
* `Wide.mul`, `Wide.tenTo` — products and powers of ten;
* `Wide.scaled` — a number times a power of ten, in steps of a hundred, ten and one digits;
* `Wide.toFloat`, `Wide.floor` — the nearest double, and the whole part.
-/

namespace TableQuery

/-- The number `significand · 2 ^ exponent`. -/
structure Wide where
  /-- At most sixty-four bits. -/
  significand : Nat
  /-- The power of two that is the unit. -/
  exponent : Int
  deriving DecidableEq, Repr

namespace Wide

/-! ## Rounding -/

/-- The number of significant bits. -/
def bits : Nat := 64

/-- The quotient by a power of two, rounded to the nearest integer and from a half to the even
one. -/
def shortened (m : Nat) (dropped : Nat) : Nat :=
  let unit := Nat.pow 2 dropped
  let below := m / unit
  let twice := 2 * (m % unit)
  if unit < twice ∨ (twice = unit ∧ below % 2 = 1) then below + 1 else below

/-- The number of bits of a natural number. -/
def length (m : Nat) : Nat := if m = 0 then 0 else Nat.log2 m + 1

/-- The number nearest to `m · 2 ^ q`. -/
def nearest (m : Nat) (q : Int) : Wide :=
  let dropped := length m - bits
  ⟨shortened m dropped, q + dropped⟩

/-! ## Products -/

/-- The product, rounded. -/
def mul (a b : Wide) : Wide :=
  nearest (a.significand * b.significand) (a.exponent + b.exponent)

/-- The power of ten, rounded.  The inverse of one is cut after more bits than there are, with one
last bit for whatever is cut off, so that no half is missed. -/
def tenTo : Int → Wide
  | .ofNat n => nearest (Nat.pow 10 n) 0
  | .negSucc n =>
    let power := Nat.pow 10 (n + 1)
    let places := length power + bits + 1
    nearest (2 * (Nat.pow 2 places / power) + 1) (-places - 1)

/-- A number times `10 ^ (step · count)`, in so many steps. -/
def times (step : Int) (count : Nat) (a : Wide) : Wide :=
  let factor := tenTo step
  Nat.repeat (fun x => x.mul factor) count a

/-- A number times `10 ^ e`: a hundred digits at a time, then ten, then one. -/
def scaled (a : Wide) (e : Int) : Wide :=
  let n := e.natAbs
  (((a.times (100 * e.sign) (n / 100)).times (10 * e.sign) (n % 100 / 10)).times
    e.sign (n % 10))

/-! ## Comparison and results -/

/-- The number as an exact one. -/
def toDyadic (a : Wide) : Dyadic := ⟨false, a.significand, a.exponent⟩

/-- The number is less than another one. -/
def isBelow (a b : Wide) : Bool := a.toDyadic.compare b.toDyadic == .lt

/-- The whole part. -/
def floor (a : Wide) : Nat :=
  a.significand * Nat.pow 2 a.exponent.toNat / Nat.pow 2 (-a.exponent).toNat

/-- The nearest double; beyond the greatest one it is infinite.  The significand of a double has
fifty-three bits, or fewer where the unit is the least one. -/
def toFloat (a : Wide) : Float :=
  let unit := max (a.exponent + length a.significand - 53) Dyadic.leastExponent
  let m := shortened (a.significand * Nat.pow 2 (a.exponent - unit).toNat)
    (unit - a.exponent).toNat
  let code := (unit - Dyadic.leastExponent).toNat * Dyadic.leastNormal + m
  let infinite := 2047 * Dyadic.leastNormal
  Float.ofBits (min code infinite).toUInt64

end Wide

end TableQuery
