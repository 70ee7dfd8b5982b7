import Mathlib
import TableQuery.Proofs.Decimal.Nearest

/-!
# Integers as finite doubles

Rounding makes a number infinite only by a unit beyond the largest one.  The unit that rounding ends
with is bounded by the number of binary digits and the unit that it began with, so the integers of
sixty-four bits, with a sign or without, stay far from there.

* `Normal.InUnits` — a zero, or a number in units of a bounded size;
* `Normal.inUnits_round` — rounding, by what it drops;
* `Normal.inUnits_unpack_pack` — the bits of a double keep the unit;
* `isFinite_ofNat`, `isFinite_ofInt` — integers as doubles.
-/

namespace TableQuery

open Float.Model (Format totalExponent)
open Float.Model.UnpackedFloat

namespace Normal

/-- A zero, or a number in units of at most `2 ^ k`. -/
inductive InUnits (k : Int) : Float.Model.UnpackedFloat → Prop where
  | zero (sign : Sign) : InUnits k (.zero sign)
  | finite {sign : Sign} {m : Nat} {e : Int} {h : 0 < m} (he : e ≤ k) :
      InUnits k (.finite sign m e h)

variable {m : Nat} {e k : Int} {sign : Sign} {a : Accuracy} {u : Float.Model.UnpackedFloat}

theorem InUnits.isFinite (h : InUnits k u) : u.isFinite = true := by
  cases h with
  | zero => rfl
  | finite => rfl

theorem InUnits.neg (h : InUnits k u) : InUnits k u.neg := by
  cases h with
  | zero => exact .zero _
  | finite he => exact .finite he

/-! ## Rounding -/

/-- The unit after digits have been dropped. -/
theorem shiftToTargetExponent_le {l : Nat} (hlog : m.log2 ≤ l) (he : e ≤ k) (hk : 0 ≤ k) :
    (shiftToTargetExponent .binary64 m e a).2 ≤ k + l := by
  have hmin : Format.binary64.minExponent = -1074 := rfl
  have hbits : (Format.binary64.mantissaBits : Int) = 53 := rfl
  rw [shiftToTargetExponent, shiftToExponent, Format.targetExponent, totalExponent, hmin, hbits]
  dsimp only
  omega

/-- Rounding up adds one digit at most. -/
theorem log2_roundedMantissa_le (hlog : m.log2 ≤ 127) :
    (shiftToTargetExponent .binary64 m e a).1.roundedMantissa.log2 ≤ 128 := by
  have hm : (ExtendedMantissa.ofMantissaAndAccuracy m a).mantissa = m := by
    rcases a with _ | (_ | _ | _) <;> rfl
  have hkept : (shiftToTargetExponent .binary64 m e a).1.mantissa ≤ m := by
    rw [shiftToTargetExponent, shiftToExponent, mantissa_shiftRight, hm]
    exact Nat.div_le_self _ _
  have hrounded := (le_roundedMantissa (shiftToTargetExponent .binary64 m e a).1).2
  have hlt : m < 2 ^ 128 := by
    by_cases hzero : m = 0
    · rw [hzero]
      exact Nat.two_pow_pos 128
    · exact (Nat.log2_lt hzero).1 (by omega)
  generalize (shiftToTargetExponent .binary64 m e a).1.roundedMantissa = r at hrounded
  by_cases hzero : r = 0
  · rw [hzero, Nat.log2_zero]
    exact Nat.zero_le _
  · have hr : r.log2 < 129 := (Nat.log2_lt hzero).2 (by omega)
    omega

/-- **Rounding a number of at most 128 digits** makes its unit larger by a bounded power of two. -/
theorem inUnits_round (hlog : m.log2 ≤ 127) (he : e ≤ k) (hk : 0 ≤ k) :
    InUnits (k + 255) (roundWithAccuracy .binary64 sign m e a) := by
  have hfirst := shiftToTargetExponent_le (a := a) hlog he hk
  have hsecond := shiftToTargetExponent_le (a := .exact)
    (log2_roundedMantissa_le (e := e) (a := a) hlog) hfirst (by omega)
  rw [roundWithAccuracy]
  dsimp only
  split
  next => exact .zero sign
  next => exact .finite (hsecond.trans (by omega))

/-! ## The bits of a double -/

theorem inUnits_unpack {b : BitVec 64} (hones : @unpackExponent .binary64 b ≠ -1#11)
    (hexponent : ((@unpackExponent .binary64 b).toNat : Int) ≤ k + 1075) (hk : -1074 ≤ k) :
    InUnits k (unpack .binary64 b) := by
  have hbias : ((Format.binary64.exponentBias : Int)
      + (Format.binary64.mantissaBitsWithoutImplicit : Int)) = 1075 := rfl
  rw [unpack]
  dsimp only
  rw [if_neg hones]
  split
  next hzeros =>
    have hzero : (@unpackExponent .binary64 b).toNat = 0 := by rw [hzeros]; rfl
    split
    next => exact .zero _
    next => exact .finite (by rw [hbias, hzero]; omega)
  next => exact .finite (by rw [hbias]; omega)

/-- **The bits of a double keep the unit** of a number, if there is a double with this unit. -/
theorem inUnits_unpack_pack (h : InUnits k u) (hlow : -1074 ≤ k) (hhigh : k ≤ 971) :
    InUnits k (unpack .binary64 (pack .binary64 u)) := by
  cases h with
  | zero sign =>
    rw [pack, unpack_packedZero]
    exact .zero sign
  | @finite sign m e h he =>
    have hbias : e + Format.binary64.exponentBias + Format.binary64.mantissaBitsWithoutImplicit
        = e + 1075 := by
      rw [add_assoc]
      rfl
    have hfits : ¬2 ^ Format.binary64.exponentBits ≤ (e + 1075).toNat + 1 := by
      rw [show 2 ^ Format.binary64.exponentBits = 2048 from rfl]
      omega
    have hcomponents {biased : Nat} {fraction : BitVec 52} (hle : (biased : Int) ≤ k + 1075) :
        InUnits k
          (unpack .binary64 (packComponents .binary64 sign (BitVec.ofNat 11 biased) fraction)) := by
      have hbiased : (BitVec.ofNat 11 biased).toNat = biased := Nat.mod_eq_of_lt (by omega)
      refine inUnits_unpack ?_ ?_ hlow
      · rw [unpackExponent_packComponents]
        intro hones
        have hvalue := congrArg BitVec.toNat hones
        rw [hbiased, show (-1#11).toNat = 2047 from rfl] at hvalue
        omega
      · rw [unpackExponent_packComponents, hbiased]
        exact hle
    rw [pack]
    simp only [hbias, if_neg hfits]
    split
    next => exact hcomponents (by omega)
    next => exact @hcomponents 0 _ (by omega)

/-- A finite double has a unit no larger than the largest one. -/
theorem inUnits_of_isFinite {b : BitVec 64} (h : (unpack .binary64 b).isFinite = true) :
    InUnits 971 (unpack .binary64 b) := by
  have hones : @unpackExponent .binary64 b ≠ -1#11 := by
    intro heq
    rw [unpack] at h
    dsimp only at h
    rw [if_pos heq] at h
    split at h <;> cases h
  refine inUnits_unpack hones ?_ (by decide)
  have hne : (@unpackExponent .binary64 b).toNat ≠ 2047 := fun heq =>
    hones (BitVec.eq_of_toNat_eq heq)
  have hlt := (@unpackExponent .binary64 b).isLt
  rw [show (2 : Nat) ^ Format.binary64.exponentBits = 2048 from rfl] at hlt
  omega

/-- A significand has at most 53 digits. -/
theorem mantissa_unpack_lt {b : BitVec 64} {h : 0 < m}
    (hb : unpack .binary64 b = .finite sign m e h) : m < 2 ^ 53 := by
  rw [unpack] at hb
  dsimp only at hb
  split at hb
  next => split at hb <;> cases hb
  next =>
    split at hb
    next =>
      split at hb
      next => cases hb
      next =>
        cases hb
        exact (BitVec.isLt _).trans (by decide)
    next =>
      cases hb
      exact BitVec.isLt _

/-! ## Small natural numbers -/

theorem log2_mul_two_pow {n : Nat} (h : n ≠ 0) (digits : Nat) :
    (n * 2 ^ digits).log2 = n.log2 + digits := by
  obtain ⟨hleast, hmost⟩ := (Nat.log2_eq_iff h).1 rfl
  have hpow := Nat.two_pow_pos digits
  refine (Nat.log2_eq_iff (Nat.mul_ne_zero h hpow.ne')).2 ⟨?_, ?_⟩
  · rw [pow_add]
    exact Nat.mul_le_mul_right _ hleast
  · rw [Nat.add_right_comm, pow_add]
    exact Nat.mul_lt_mul_of_pos_right hmost hpow

/-- A natural number that a significand has room for is rounded in units of at most one. -/
theorem inUnits_ofNat {n : Nat} (h : n < 2 ^ 53) :
    InUnits 255 (Float.Model.UnpackedFloat.ofNat .binary64 n) := by
  rw [Float.Model.UnpackedFloat.ofNat, Float.Model.UnpackedFloat.ofInt,
    Float.Model.UnpackedFloat.normalize]
  split
  next hlt => exact absurd (compare_lt_iff_lt.1 hlt) (by omega)
  next => exact .zero _
  next hgt =>
    have hpos : n ≠ 0 := by
      have := compare_gt_iff_gt.1 hgt
      omega
    have hlog : n.log2 < 53 := (Nat.log2_lt hpos).2 h
    have hmin : Format.binary64.minExponent = -1074 := rfl
    have hbits : (Format.binary64.mantissaBits : Int) = 53 := rfl
    rw [Int.toNat_natCast, Float.Model.UnpackedFloat.round, decreaseExponent,
      Format.targetExponent, totalExponent, hmin, hbits]
    dsimp only
    -- the digits that are missing to 53 are put behind the number
    generalize hshift : (0 - max ((n.log2 : Int) + 1 + 0 - 53) (-1074)).toNat = shift
    have hdigits : (n <<< shift).log2 ≤ 127 := by
      rw [Nat.shiftLeft_eq, log2_mul_two_pow hpos]
      omega
    exact inUnits_round hdigits (by omega) le_rfl

theorem unpack_mul (x y : Float) : (x * y).toModel.unpack =
    unpack .binary64 (pack .binary64
      (Float.Model.UnpackedFloat.mul .binary64 x.toModel.unpack y.toModel.unpack)) := rfl

/-- The double that a small natural number is multiplied by, which is one. -/
theorem unpack_firstPower :
    (Float.exactlyRepresentablePowersOfTen.getInternal 0 (by decide)).toModel.unpack
      = .finite .positive (2 ^ 52) (-52) (Nat.two_pow_pos 52) := rfl

end Normal

open TableQuery.Normal

/-! ## Integers -/

/-- A natural number that a significand has room for is a product of two doubles with small units. -/
theorem isFinite_ofNat_small {n : Nat} (h : n < 2 ^ 53) : (Float.ofNat n).isFinite = true := by
  have hproduct : Float.ofNat n
      = n.toUInt64.toFloat * Float.exactlyRepresentablePowersOfTen.getInternal 0 (by decide) := by
    show Float.ofScientific n false 0 = _
    rw [Float.ofScientific, dif_pos ⟨h, by decide⟩]
    rfl
  have hword : n.toUInt64.toNat = n := Nat.mod_eq_of_lt (by omega)
  have hfactor : n.toUInt64.toFloat.toModel.unpack
      = unpack .binary64 (pack .binary64 (Float.Model.UnpackedFloat.ofNat .binary64 n)) := by
    conv_rhs => rw [← hword]
    rfl
  have hunits := inUnits_unpack_pack (inUnits_ofNat h) (by decide) (by decide)
  have hrounded : InUnits 510 (Float.Model.UnpackedFloat.mul .binary64
      n.toUInt64.toFloat.toModel.unpack (.finite .positive (2 ^ 52) (-52) (Nat.two_pow_pos 52))) := by
    rw [hfactor]
    generalize hu : unpack .binary64 (pack .binary64 _) = u at hunits
    cases hunits with
    | zero => exact .zero _
    | @finite sign m e hm he =>
      have hlog : (m * 2 ^ 52).log2 ≤ 127 := by
        have hdigits : m.log2 < 53 := (Nat.log2_lt hm.ne').2 (mantissa_unpack_lt hu)
        rw [log2_mul_two_pow hm.ne']
        omega
      exact inUnits_round (k := 255) hlog (by omega) (by decide)
  rw [hproduct, Float.isFinite, Float.Model.isFinite, unpack_mul, unpack_firstPower]
  exact (inUnits_unpack_pack hrounded (by decide) (by decide)).isFinite

theorem isFinite_ofNat {n : Nat} (h : n < 2 ^ 64) : (Float.ofNat n).isFinite = true := by
  by_cases hsmall : n < 2 ^ 53
  · exact isFinite_ofNat_small hsmall
  · have hlow : 53 ≤ n.log2 := (Nat.le_log2 (by omega)).2 (by omega)
    have hhigh : n.log2 < 64 := (Nat.log2_lt (by omega)).2 h
    obtain ⟨q, hq, -⟩ := two_pow_le_ofNat rfl hlow (by omega)
    rw [← isSome_rational?, hq]
    rfl

theorem isFinite_neg {x : Float} (h : x.isFinite = true) : (-x).isFinite = true := by
  have hneg : (-x).toModel.unpack
      = unpack .binary64 (pack .binary64 x.toModel.unpack.neg) := rfl
  have hunits := (inUnits_of_isFinite (b := x.toModel.toBits.toBitVec) h).neg
  rw [Float.isFinite, Float.Model.isFinite, hneg]
  exact (inUnits_unpack_pack hunits (by decide) (by decide)).isFinite

/-- **An integer of sixty-four bits is a finite double**, with a sign or without. -/
theorem isFinite_ofInt {i : Int} (hlow : -(2 ^ 63) ≤ i) (hhigh : i < 2 ^ 64) :
    (Float.ofInt i).isFinite = true := by
  cases i with
  | ofNat n => exact isFinite_ofNat (Int.ofNat_lt.1 hhigh)
  | negSucc n => exact isFinite_neg (isFinite_ofNat (by omega))

end TableQuery
