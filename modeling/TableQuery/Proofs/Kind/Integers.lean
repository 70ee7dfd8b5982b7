import Mathlib
import TableQuery.Kind
import TableQuery.Proofs.Decimal.Nearest

/-!
# Integers in columns

A column of the integer kind takes a JSON number only as the integer that it equals.  The number is
compared as a rational number: an integer written as such must fit in sixty-four bits, and a double
must be whole and less than `2 ^ 63` in absolute value.  So there is one number that has an integer of
sixty-four bits and is refused all the same, the double `-2 ^ 63`.

* `Json.rational?` — the number that a JSON value is;
* `Kind.wholeOf?_int`, `Kind.wholeOf?_real` — the integer of a number, by what it equals;
* `Kind.wholeByViews?_eq` — it is also found through the double nearest to a large integer;
* `Kind.coerce_integer_exact` — which integer a column takes, and when it takes none.
-/

namespace TableQuery

/-- The rational number that a JSON value is, if it is a number. -/
def Json.rational? : Json → Option ℚ
  | .int i => some i
  | .real x => TableQuery.rational? x
  | _ => none

/-! ## Views of a number -/

/-- The integer of sixty-four bits that a JSON number is written as. -/
def Json.asInt64? : Json → Option Int
  | .int i => if FitsInt64 i then some i else none
  | _ => none

/-- The double of a JSON number: its own, or the one nearest to its integer. -/
def Json.asFloat? : Json → Option Float
  | .int i => some (.ofInt i)
  | .real x => some x
  | _ => none

namespace Kind

variable {v : Json} {q : ℚ} {z : Int}

theorem fitsInt64_iff : Json.FitsInt64 z ↔ -(2 ^ 63) ≤ z ∧ z ≤ 2 ^ 63 - 1 := Iff.rfl

theorem wholeOf?_int {i : Int} : wholeOf? (.int i) = some z ↔ i = z ∧ Json.FitsInt64 z := by
  rw [wholeOf?]
  split
  next h =>
    rw [Option.some.injEq]
    exact ⟨fun hz => ⟨hz, hz ▸ h⟩, And.left⟩
  next h => exact iff_of_false (by simp) fun hz => h (hz.1 ▸ hz.2)

/-- A double has an integer just if it equals one that is less than `2 ^ 63` in absolute value. -/
theorem wholeOf?_real {x : Float} : wholeOf? (.real x) = some z ↔
    rational? x = some (z : ℚ) ∧ Json.FitsInt64 z ∧ z ≠ -(2 ^ 63) := by
  have hrange : z.natAbs < Nat.pow 2 63 ↔ Json.FitsInt64 z ∧ z ≠ -(2 ^ 63) := by
    rw [fitsInt64_iff, show Nat.pow 2 63 = 9223372036854775808 from rfl]
    omega
  rw [wholeOf?, Option.filter_eq_some_iff, integer?_eq_some_iff, decide_eq_true_eq, hrange]

/-- The integer that a JSON number has. -/
theorem wholeOf?_eq_some_iff (h : v.rational? = some q) : wholeOf? v = some z ↔
    q = z ∧ Json.FitsInt64 z ∧ ∀ x, v = .real x → z ≠ -(2 ^ 63) := by
  cases v with
  | int i =>
    obtain rfl := Option.some.inj h
    simp [wholeOf?_int]
  | real x =>
    have hx : rational? x = some q := h
    simp [wholeOf?_real, hx]
  | _ => cases h

/-! ## Large integers as doubles -/

/-- The integer of a JSON number as it is found with two views of a number only, as an integer of
sixty-four bits with a sign and, failing this, as a double. -/
def wholeByViews? (v : Json) : Option Int :=
  v.asInt64?.or (v.asFloat?.bind fun x => wholeOf? (.real x))

/-- **Nothing is lost to the nearest double.**  An integer beyond sixty-four bits with a sign has a
double that is none of theirs either. -/
theorem wholeByViews?_eq (h : ∀ i, v = .int i → -(2 ^ 63) ≤ i ∧ i < 2 ^ 64) :
    wholeByViews? v = wholeOf? v := by
  rw [wholeByViews?]
  cases v with
  | int i =>
    rw [Json.asInt64?, Json.asFloat?, wholeOf?, Option.bind_some]
    split
    next => rfl
    next hfits =>
      rw [fitsInt64_iff] at hfits
      obtain ⟨hleast, hmost⟩ := h i rfl
      obtain ⟨n, rfl⟩ := Int.eq_ofNat_of_zero_le (show 0 ≤ i by omega)
      have hlog : n.log2 = 63 := (Nat.log2_eq_iff (by omega)).2 (by omega)
      obtain ⟨r, hr, hlarge⟩ := two_pow_le_ofNat hlog (by decide) (by decide)
      rw [Option.none_or, Option.eq_none_iff_forall_ne_some]
      intro z hz
      obtain ⟨hq, hz63, -⟩ := wholeOf?_real.1 hz
      rw [show Float.ofInt (n : Int) = Float.ofNat n from rfl, hr, Option.some.injEq] at hq
      rw [hq] at hlarge
      have hz : (2 : Int) ^ 63 ≤ z := by exact_mod_cast hlarge
      rw [fitsInt64_iff] at hz63
      omega
  | real x => rfl
  | _ => rfl

/-! ## Columns of the integer kind -/

/-- A column of the integer kind has the integer of its number, or the number is foreign to it. -/
theorem coerce_integer_number (h : v.rational? = some q) :
    Kind.integer.coerce v = ((wholeOf? v).map Json.int).elim (.error (.foreign .integer v)) .ok := by
  cases v with
  | int i => rfl
  | real x => rfl
  | _ => cases h

theorem coerce_integer_eq_ok (h : v.rational? = some q) :
    Kind.integer.coerce v = .ok (.int z) ↔ wholeOf? v = some z := by
  rw [coerce_integer_number h]
  cases wholeOf? v <;> simp

/-- **Which integer a column takes.**  A number is taken as the integer of sixty-four bits that it
equals and never as another one; a number that equals none is refused as foreign to the kind.  The
double `-2 ^ 63` is refused too, and it is the only number with such an integer that is.  The two
views of a number lead to the same integer, also where the second one is only near to it. -/
theorem coerce_integer_exact (h : v.rational? = some q) :
    (∀ z : Int, Kind.integer.coerce v = .ok (.int z) ↔
      q = z ∧ Json.FitsInt64 z ∧ ∀ x, v = .real x → z ≠ -(2 ^ 63)) ∧
    ((∃ z : Int, Kind.integer.coerce v = .ok (.int z)) ∨
      Kind.integer.coerce v = .error (.foreign .integer v)) ∧
    ((∀ z : Int, Kind.integer.coerce v = .ok (.int z) ↔ q = z ∧ Json.FitsInt64 z) ↔
      ∀ x, v = .real x → q ≠ -(2 ^ 63)) ∧
    ((∀ i, v = .int i → -(2 ^ 63) ≤ i ∧ i < 2 ^ 64) → Kind.integer.coerce v
      = ((wholeByViews? v).map Json.int).elim (.error (.foreign .integer v)) .ok) := by
  have htaken (z : Int) : Kind.integer.coerce v = .ok (.int z) ↔
      q = z ∧ Json.FitsInt64 z ∧ ∀ x, v = .real x → z ≠ -(2 ^ 63) := by
    rw [coerce_integer_eq_ok h, wholeOf?_eq_some_iff h]
  refine ⟨htaken, ?_, ?_, fun hrange => ?_⟩
  · rw [coerce_integer_number h]
    cases wholeOf? v with
    | none => exact .inr rfl
    | some z => exact .inl ⟨z, rfl⟩
  · constructor
    · rintro hall x hx rfl
      have hleast : Json.FitsInt64 (-(2 ^ 63)) := by decide
      have hok := (hall (-(2 ^ 63))).2 ⟨by norm_num, hleast⟩
      exact ((htaken _).1 hok).2.2 x hx rfl
    · intro hleast z
      rw [htaken z]
      refine ⟨fun hz => ⟨hz.1, hz.2.1⟩, fun hz => ⟨hz.1, hz.2, ?_⟩⟩
      rintro x hx rfl
      exact hleast x hx (by rw [hz.1]; norm_num)
  · rw [wholeByViews?_eq hrange, coerce_integer_number h]

/-- The double with the least integer is refused. -/
theorem coerce_integer_least :
    ¬ ∀ (v : Json) (q : ℚ), v.rational? = some q → ∀ z : Int,
      Kind.integer.coerce v = .ok (.int z) ↔ q = z ∧ Json.FitsInt64 z := by
  intro hall
  have hdyadic : Dyadic.ofFloat? (-9223372036854775808.0) = some ⟨true, Nat.pow 2 52, 11⟩ := by
    decide +kernel
  have hrational : (Json.real (-9223372036854775808.0)).rational? = some (-(2 ^ 63)) := by
    rw [Json.rational?, Dyadic.rational?_of_ofFloat? hdyadic, Dyadic.toRat, Dyadic.signed]
    norm_num
  have hrefused : Kind.integer.coerce (.real (-9223372036854775808.0))
      = .error (.foreign .integer (.real (-9223372036854775808.0))) := by
    rw [coerce_integer_number hrational, wholeOf?, hdyadic]
    rfl
  have hok := (hall _ _ hrational (-(2 ^ 63))).2 ⟨by norm_num, by decide⟩
  rw [hrefused] at hok
  cases hok

/-- The next double is taken, and the least integer beyond sixty-four bits with a sign is refused: its
double is `2 ^ 63`. -/
theorem coerce_integer_exact_next :
    (Json.real (-9223372036854774784.0)).rational? = some (-9223372036854774784) ∧
      Kind.integer.coerce (.real (-9223372036854774784.0)) = .ok (.int (-9223372036854774784)) ∧
      (Json.int 9223372036854775808).rational? = some 9223372036854775808 ∧
      wholeByViews? (.int 9223372036854775808) = none := by
  have hdyadic : Dyadic.ofFloat? (-9223372036854774784.0)
      = some ⟨true, 9007199254740991, 10⟩ := by
    decide +kernel
  have hrational : (Json.real (-9223372036854774784.0)).rational?
      = some (-9223372036854774784) := by
    rw [Json.rational?, Dyadic.rational?_of_ofFloat? hdyadic, Dyadic.toRat, Dyadic.signed]
    norm_num
  have hlarge : (Json.int 9223372036854775808).rational? = some 9223372036854775808 := rfl
  obtain ⟨-, -, -, hviews⟩ := coerce_integer_exact hlarge
  refine ⟨hrational, ((coerce_integer_exact hrational).1 _).2 ⟨by norm_num, by decide, ?_⟩,
    hlarge, ?_⟩
  · intro x hx
    decide
  · have hrefused : Kind.integer.coerce (.int 9223372036854775808)
        = .error (.foreign .integer (.int 9223372036854775808)) := rfl
    have hrange : ∀ i, Json.int 9223372036854775808 = .int i → -(2 ^ 63) ≤ i ∧ i < 2 ^ 64 := by
      intro i hi
      obtain rfl := Json.int.inj hi
      decide
    rw [hviews hrange] at hrefused
    cases hwhole : wholeByViews? (.int 9223372036854775808) with
    | none => rfl
    | some z =>
      rw [hwhole] at hrefused
      cases hrefused

end Kind

end TableQuery
