import Mathlib
import TableQuery.Decimal.Dyadic

/-!
# Doubles as rational numbers

Core reads the bits of a double as a sign, a significand and an exponent, and so every double that is
neither infinite nor no number stands for a rational number.  `Dyadic` reads the same bits by integer
arithmetic, and this is the same number; its test for whole numbers finds exactly the integers.

* `rational?`, `isSome_rational?` — the rational number of a double, by core's reading of it, which the
  finite ones have;
* `Dyadic.toRat` — the rational number of a sign, a significand and an exponent;
* `Dyadic.ofFloat?_toRat` — both readings of a double give one number;
* `Dyadic.toInt?_eq_some_iff` — the number is an integer just if this integer is found;
* `integer?_eq_some_iff` — the same from the double on.
-/

namespace TableQuery

open Float.Model (UnpackedFloat)
open Float.Model.UnpackedFloat (Sign)

/-- The rational number that a double stands for, unless it is infinite or no number. -/
def rational? (x : Float) : Option ℚ :=
  match x.toModel.unpack with
  | .zero _ => some 0
  | .finite sign significand exponent _ => some (sign.apply significand * 2 ^ exponent)
  | .infinity _ => none
  | .notANumber => none

/-- The finite doubles are those that stand for a number. -/
theorem isSome_rational? (x : Float) : (rational? x).isSome = x.isFinite := by
  rw [rational?, Float.isFinite, Float.Model.isFinite]
  cases x.toModel.unpack <;> rfl

namespace Dyadic

/-- The rational number `± significand · 2 ^ exponent`. -/
def toRat (x : Dyadic) : ℚ := x.signed x.significand * 2 ^ x.exponent

/-! ## The fields of a double -/

section Fields

variable (b : BitVec 64)

theorem toNat_unpackMantissa :
    (@UnpackedFloat.unpackMantissa .binary64 b).toNat = b.toNat % 2 ^ 52 := by
  simp [UnpackedFloat.unpackMantissa]

theorem toNat_unpackExponent :
    (@UnpackedFloat.unpackExponent .binary64 b).toNat = b.toNat / 2 ^ 52 % 2 ^ 11 := by
  simp [UnpackedFloat.unpackExponent, Nat.shiftRight_eq_div_pow]

theorem toNat_unpackSign :
    (@UnpackedFloat.unpackSign .binary64 b).toNat = b.toNat / 2 ^ 63 % 2 := by
  simp [UnpackedFloat.unpackSign, Nat.shiftRight_eq_div_pow]

theorem unpackExponent_eq_iff (n : Nat) (h : n < 2 ^ 11) :
    @UnpackedFloat.unpackExponent .binary64 b = BitVec.ofNat 11 n ↔
      b.toNat / 2 ^ 52 % 2 ^ 11 = n := by
  rw [← BitVec.toNat_inj, toNat_unpackExponent, BitVec.toNat_ofNat, Nat.mod_eq_of_lt h]

/-- A normal significand has a leading one. -/
theorem toNat_one_append (fraction : BitVec 52) :
    (1#1 ++ fraction).toNat = fraction.toNat + 2 ^ 52 := by
  rw [BitVec.toNat_append, ← Nat.shiftLeft_add_eq_or_of_lt (BitVec.isLt _), Nat.add_comm]
  rfl

theorem apply_zero (sign : Sign) : sign.apply 0 = 0 := by
  cases sign <;> rfl

/-- The sign is negative just if the first bit is one. -/
theorem apply_unpackSign (n : Nat) :
    (Sign.ofBitVec (@UnpackedFloat.unpackSign .binary64 b)).apply n
      = if b.toNat / 2 ^ 63 == 1 then -(n : Int) else n := by
  have hlt : b.toNat / 2 ^ 63 < 2 := by
    have := b.isLt
    omega
  have hsign : @UnpackedFloat.unpackSign .binary64 b = 0#1 ↔ b.toNat / 2 ^ 63 = 0 := by
    rw [← BitVec.toNat_inj, toNat_unpackSign, Nat.mod_eq_of_lt hlt]
    rfl
  rw [Sign.ofBitVec]
  simp only [hsign]
  obtain h | h : b.toNat / 2 ^ 63 = 0 ∨ b.toNat / 2 ^ 63 = 1 := by omega
  · rw [if_pos h, h]
    rfl
  · rw [if_neg (by omega), h]
    rfl

end Fields

/-- **Both readings of a double give one number.** -/
theorem ofFloat?_toRat (x : Float) : (ofFloat? x).map toRat = rational? x := by
  have hbits : x.toBits.toNat = x.toModel.toBits.toBitVec.toNat := rfl
  have hpow : ∀ n, Nat.pow 2 n = 2 ^ n := fun _ => rfl
  rw [rational?, Float.Model.unpack, ofFloat?, hbits]
  generalize x.toModel.toBits.toBitVec = b
  have hones : @UnpackedFloat.unpackExponent .binary64 b = -1#11 ↔
      b.toNat / 2 ^ 52 % 2 ^ 11 = 2047 := unpackExponent_eq_iff b 2047 (by decide)
  have hzeros : @UnpackedFloat.unpackExponent .binary64 b = 0#11 ↔
      b.toNat / 2 ^ 52 % 2 ^ 11 = 0 := unpackExponent_eq_iff b 0 (by decide)
  unfold UnpackedFloat.unpack
  simp only [hpow]
  by_cases hinfinite : b.toNat / 2 ^ 52 % 2 ^ 11 = 2047
  · simp only [if_pos (hones.2 hinfinite), if_pos hinfinite]
    split_ifs <;> rfl
  · by_cases hsmall : b.toNat / 2 ^ 52 % 2 ^ 11 = 0
    · -- The least unit: zero, or a significand without a leading one.
      simp only [if_neg (mt hones.1 hinfinite), if_pos (hzeros.2 hsmall), if_neg hinfinite,
        if_pos hsmall, Option.map_some, toRat, signed, ← apply_unpackSign, ← toNat_unpackMantissa]
      split_ifs with hmantissa
      · simp [hmantissa, apply_zero]
      · rw [toNat_unpackExponent, hsmall]
        rfl
    · simp only [if_neg (mt hones.1 hinfinite), if_neg (mt hzeros.1 hsmall), if_neg hinfinite,
        if_neg hsmall, Option.map_some, toRat, signed, ← apply_unpackSign, toNat_unpackExponent]
      have hunit : ((max (b.toNat / 2 ^ 52 % 2 ^ 11) 1 : Nat) : Int) + leastExponent - 1
          = ((b.toNat / 2 ^ 52 % 2 ^ 11 : Nat) : Int) - ((1023 : Nat) + (52 : Nat)) := by
        rw [leastExponent, max_eq_left (by omega)]
        omega
      rw [hunit, toNat_one_append, toNat_unpackMantissa]
      rfl

theorem rational?_of_ofFloat? {x : Float} {d : Dyadic} (h : ofFloat? x = some d) :
    rational? x = some d.toRat := by
  rw [← ofFloat?_toRat, h, Option.map_some]

/-! ## Whole numbers -/

theorem signed_mul (x : Dyadic) (n k : Nat) : x.signed (n * k) = x.signed n * k := by
  rw [signed, signed]
  split <;> push_cast <;> ring

theorem natAbs_signed (x : Dyadic) (n : Nat) : (x.signed n).natAbs = n := by
  rw [signed]
  split <;> omega

/-- A number in units of one half, one quarter and so on is an integer just if its significand is
this integer times the number of units in one. -/
theorem toRat_eq_intCast_iff {x : Dyadic} {e : Nat} (h : x.exponent = .negSucc e) {z : Int} :
    x.toRat = z ↔ x.signed x.significand = z * 2 ^ (e + 1) := by
  have hunit : (2 : ℚ) ^ (e + 1) ≠ 0 := pow_ne_zero _ two_ne_zero
  rw [toRat, h, zpow_negSucc, ← div_eq_mul_inv, div_eq_iff hunit]
  exact_mod_cast Iff.rfl

/-- **The number is an integer just if this integer is found.** -/
theorem toInt?_eq_some_iff {x : Dyadic} {z : Int} : x.toInt? = some z ↔ x.toRat = z := by
  have hpow : ∀ n, Nat.pow 2 n = 2 ^ n := fun _ => rfl
  rw [toInt?]
  split
  next e he =>
    rw [Option.some.injEq, toRat, he, hpow, signed_mul, Int.ofNat_eq_natCast, zpow_natCast]
    exact_mod_cast Iff.rfl
  next e he =>
    simp only [toRat_eq_intCast_iff he, hpow]
    have hpos : 0 < 2 ^ (e + 1) := Nat.two_pow_pos _
    split
    next hdvd =>
      obtain ⟨k, hk⟩ := Nat.dvd_of_mod_eq_zero hdvd
      rw [hk, Nat.mul_div_cancel_left k hpos, Nat.mul_comm, signed_mul, Option.some.injEq]
      push_cast
      exact (mul_left_inj' (pow_ne_zero _ two_ne_zero)).symm
    next hdvd =>
      refine iff_of_false (by simp) fun hz => hdvd (Nat.mod_eq_zero_of_dvd ?_)
      have habs := congrArg Int.natAbs hz
      rw [natAbs_signed, Int.natAbs_mul, Int.natAbs_pow] at habs
      exact ⟨_, habs.trans (Nat.mul_comm _ _)⟩

end Dyadic

/-- The integer that is found for a double is the number that it stands for. -/
theorem integer?_eq_some_iff {x : Float} {z : Int} :
    (Dyadic.ofFloat? x).bind Dyadic.toInt? = some z ↔ rational? x = some (z : ℚ) := by
  rw [← Dyadic.ofFloat?_toRat, Option.bind_eq_some_iff, Option.map_eq_some_iff]
  simp only [Dyadic.toInt?_eq_some_iff]

end TableQuery
