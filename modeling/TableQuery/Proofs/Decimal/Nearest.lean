import Mathlib
import TableQuery.Proofs.Decimal.Exact

/-!
# Natural numbers as doubles

A natural number too large for the significand of a double becomes a double near to it.  Core rounds
by dropping binary digits in two rounds: first as many as the significand has no room for, and then
one more if rounding up has made room for none.  The double so made never falls below the power of
two that the number has reached.

* `Normal.mantissa_shiftRight`, `Normal.le_roundedMantissa` — what dropping digits and rounding do;
* `Normal.roundWithAccuracy_eq` — rounding ends with a significand of 53 binary digits;
* `Normal.unpack_pack` — such a significand and its exponent are kept in the bits of a double;
* `two_pow_le_ofNat` — the double of a natural number is no less than a power of two that the number
  has reached.
-/

namespace TableQuery

open Float.Model (Format totalExponent)
open Float.Model.UnpackedFloat

namespace Normal

variable {m s : Nat} {e : Int} {sign : Sign} {a : Accuracy}

/-! ## Dropping digits -/

theorem mantissa_shiftRight (x : ExtendedMantissa) (k : Nat) :
    (x >>> k).mantissa = x.mantissa / 2 ^ k := by
  induction k with
  | zero => exact (Nat.div_one _).symm
  | succ k ih =>
    have hstep : x >>> (k + 1) = (x >>> k).shiftRightOne := rfl
    rw [hstep, ExtendedMantissa.shiftRightOne, ih, Nat.div_div_eq_div_mul, pow_succ]

theorem le_roundedMantissa (x : ExtendedMantissa) :
    x.mantissa ≤ x.roundedMantissa ∧ x.roundedMantissa ≤ x.mantissa + 1 := by
  obtain ⟨n, round, sticky⟩ := x
  rw [ExtendedMantissa.roundedMantissa]
  cases round <;> cases sticky <;>
    simp only [ExtendedMantissa.accuracy, Accuracy.roundToNearestEven] <;> omega

/-- With all digits but 53 dropped, 53 digits are left. -/
theorem div_bounds (hlog : m.log2 = 52 + s) : 2 ^ 52 ≤ m / 2 ^ s ∧ m / 2 ^ s < 2 ^ 53 := by
  have hm : m ≠ 0 := by
    rintro rfl
    rw [Nat.log2_zero] at hlog
    omega
  obtain ⟨hleast, hmost⟩ := (Nat.log2_eq_iff hm).1 hlog
  rw [Nat.le_div_iff_mul_le (Nat.two_pow_pos s), Nat.div_lt_iff_lt_mul (Nat.two_pow_pos s),
    ← pow_add, ← pow_add]
  exact ⟨hleast, by rwa [show 53 + s = 52 + s + 1 by omega]⟩

/-- As many digits are dropped as a significand has too many. -/
theorem shiftToTargetExponent_eq (hlog : m.log2 = 52 + s) (he : -1074 ≤ e + s) :
    (shiftToTargetExponent .binary64 m e a).1.mantissa = m / 2 ^ s ∧
      (shiftToTargetExponent .binary64 m e a).2 = e + s := by
  have hshift : Format.binary64.targetExponent (totalExponent m e) - e = s := by
    have hmin : Format.binary64.minExponent = -1074 := rfl
    have hbits : (Format.binary64.mantissaBits : Int) = 53 := rfl
    rw [Format.targetExponent, totalExponent, hlog, hmin, hbits]
    omega
  have hm : (ExtendedMantissa.ofMantissaAndAccuracy m a).mantissa = m := by
    rcases a with _ | (_ | _ | _) <;> rfl
  rw [shiftToTargetExponent, shiftToExponent, hshift, Int.toNat_natCast, mantissa_shiftRight, hm]
  exact ⟨rfl, rfl⟩

/-- **Rounding ends with 53 digits**, and drops one digit more than it has to at most. -/
theorem roundWithAccuracy_eq (sign : Sign) (hlog : m.log2 = 52 + s) (he : -1074 ≤ e + s) :
    ∃ (n t : Nat) (h : 0 < n), 2 ^ 52 ≤ n ∧ n < 2 ^ 53 ∧ t ≤ 1 ∧
      roundWithAccuracy .binary64 sign m e a = .finite sign n (e + s + t) h := by
  obtain ⟨hfirst, hexponent⟩ := shiftToTargetExponent_eq (a := a) hlog he
  have hkept := div_bounds hlog
  have hrounded := le_roundedMantissa (shiftToTargetExponent .binary64 m e a).1
  rw [hfirst] at hrounded
  rw [roundWithAccuracy]
  simp only [hexponent]
  generalize (shiftToTargetExponent .binary64 m e a).1.roundedMantissa = r at hrounded
  have hpos : r ≠ 0 := by omega
  have hleast : 52 ≤ r.log2 := (Nat.le_log2 hpos).2 (by omega)
  have hmost : r.log2 < 54 := (Nat.log2_lt hpos).2 (by omega)
  obtain ⟨t, ht⟩ := Nat.exists_eq_add_of_le hleast
  -- The second time there is at most one digit to drop, the one that rounding up has added.
  obtain ⟨hsecond, hlast⟩ := shiftToTargetExponent_eq (e := e + s) (a := .exact) ht (by omega)
  obtain ⟨hlow, hhigh⟩ := div_bounds ht
  have hn : 0 < r / 2 ^ t := by omega
  refine ⟨r / 2 ^ t, t, hn, hlow, hhigh, by omega, ?_⟩
  simp only [hsecond, hlast]
  exact dif_neg hn.ne'

/-! ## The bits of a double -/

theorem unpack_packComponents {biased : Nat} {fraction : BitVec 52} (hpos : 0 < biased)
    (hlt : biased < 2047) :
    unpack .binary64 (packComponents .binary64 sign (BitVec.ofNat 11 biased) fraction)
      = .finite sign (fraction.toNat + 2 ^ 52) (biased - 1075) (by omega) := by
  have hbiased : (BitVec.ofNat 11 biased).toNat = biased := Nat.mod_eq_of_lt (by omega)
  have hne : ∀ b : BitVec 11, biased ≠ b.toNat → BitVec.ofNat 11 biased ≠ b :=
    fun b h heq => h (by rw [← heq, hbiased])
  have hones : BitVec.ofNat 11 biased ≠ -1#11 := hne _ hlt.ne
  have hzeros : BitVec.ofNat 11 biased ≠ 0#11 := hne _ hpos.ne'
  simp only [unpack, unpackExponent_packComponents, unpackMantissa_packComponents,
    unpackSign_packComponents, Sign.ofBitVec_toBitVec, if_neg hones, if_neg hzeros,
    Dyadic.toNat_one_append, hbiased]
  rfl

/-- **A significand of 53 digits and its exponent are kept** in the bits of a double. -/
theorem unpack_pack {h : 0 < m} (hleast : 2 ^ 52 ≤ m) (hmost : m < 2 ^ 53) (hlow : -1074 ≤ e)
    (hhigh : e ≤ 971) :
    unpack .binary64 (pack .binary64 (.finite sign m e h)) = .finite sign m e h := by
  have hlog : m.log2 + 1 = Format.binary64.mantissaBits :=
    congrArg (· + 1) ((Nat.log2_eq_iff h.ne').2 ⟨hleast, hmost⟩)
  have hbias : e + Format.binary64.exponentBias + Format.binary64.mantissaBitsWithoutImplicit
      = e + 1075 := by
    rw [add_assoc]
    rfl
  have hlt : (e + 1075).toNat < 2047 := by omega
  have hfits : ¬2 ^ Format.binary64.exponentBits ≤ (e + 1075).toNat + 1 := by
    rw [show 2 ^ Format.binary64.exponentBits = 2048 from rfl]
    omega
  rw [pack]
  simp only [hbias, if_neg hfits, if_pos hlog]
  rw [unpack_packComponents (by omega) hlt]
  congr 1
  · rw [BitVec.toNat_ofNat]
    omega
  · omega

end Normal

/-! ## The double of a natural number -/

/-- A number too large for a significand is rounded as a number in much smaller units. -/
theorem unpack_ofNat {n : Nat} (h : 2 ^ 53 ≤ n) : (Float.ofNat n).toModel.unpack =
    unpack .binary64 (pack .binary64
      (roundWithAccuracy .binary64 .positive (n * 2 ^ 53) (-53) .exact)) := by
  have hlarge : ¬(n < 2 ^ 53 ∧ 0 ≤ 22) := by omega
  have hrounded : ofScientific .binary64 n 0
      = roundWithAccuracy .binary64 .positive (n * 2 ^ 53) (-53) .exact := by
    have hhigh : ¬(0 : Int) > 2 ^ Format.binary64.exponentBits := by simp
    have hlow : ¬(0 : Int) < -((2 : Int) ^ Format.binary64.exponentBits + n.log2) := by omega
    rw [ofScientific, dif_neg (by omega), if_neg hhigh, if_neg hlow, if_pos le_rfl, mul,
      Nat.shiftLeft_eq, Int.toNat_zero, pow_zero, mul_one, add_zero]
    rfl
  rw [← hrounded, Float.ofNat]
  change (Float.ofScientific n false 0).toModel.unpack = _
  rw [Float.ofScientific, dif_neg hlarge]
  rfl

/-- **The double of a natural number is no less than a power of two that the number has reached**,
up to the largest doubles. -/
theorem two_pow_le_ofNat {n k : Nat} (hlog : n.log2 = k) (hlow : 53 ≤ k) (hhigh : k ≤ 1022) :
    ∃ q, rational? (Float.ofNat n) = some q ∧ 2 ^ k ≤ q := by
  have hn : n ≠ 0 := by
    rintro rfl
    rw [Nat.log2_zero] at hlog
    omega
  obtain ⟨hpow, hlt⟩ := (Nat.log2_eq_iff hn).1 hlog
  have hlarge : 2 ^ 53 ≤ n := (Nat.pow_le_pow_right two_pos hlow).trans hpow
  have hdigits : (n * 2 ^ 53).log2 = 52 + (k + 1) := by
    rw [Nat.log2_eq_iff (by positivity), show 52 + (k + 1) = k + 53 by omega,
      show k + 53 + 1 = k + 1 + 53 by omega, pow_add 2 k, pow_add 2 (k + 1)]
    exact ⟨Nat.mul_le_mul_right _ hpow, Nat.mul_lt_mul_of_pos_right hlt (Nat.two_pow_pos _)⟩
  obtain ⟨m, t, hm, hleast, hmost, ht, hround⟩ :=
    Normal.roundWithAccuracy_eq (e := -53) (a := .exact) .positive hdigits (by omega)
  have hunpack := unpack_ofNat hlarge
  rw [hround, Normal.unpack_pack hleast hmost (by omega) (by omega)] at hunpack
  refine ⟨m * 2 ^ (-53 + ((k + 1 : Nat) : Int) + t), by rw [rational?, hunpack]; rfl, ?_⟩
  have hexponent : -53 + ((k + 1 : Nat) : Int) + t = ((k - 52 + t : Nat) : Int) := by omega
  rw [hexponent, zpow_natCast]
  calc (2 : ℚ) ^ k = 2 ^ 52 * 2 ^ (k - 52) := by rw [← pow_add, Nat.add_sub_cancel' (by omega)]
    _ ≤ m * 2 ^ (k - 52 + t) := by
      have hm52 : (2 : ℚ) ^ 52 ≤ m := by exact_mod_cast hleast
      have hunit : (2 : ℚ) ^ (k - 52) ≤ 2 ^ (k - 52 + t) :=
        pow_le_pow_right₀ one_le_two (Nat.le_add_right _ _)
      exact mul_le_mul hm52 hunit (by positivity) (by positivity)

end TableQuery
