import Mathlib.Data.List.Basic
import TableQuery.Decimal.Reading

/-!
# Reading back what was written

The decimal text of an integer is its digits, behind a minus sign if it is negative.  The reader takes
the sign off and adds up the digits, so it finds the integer again, and no integer of sixty-four bits
is out of its bounds.

* `readDigits_toString` — natural numbers;
* `readSigned_toString` — integers;
* `readInt64_toString` — integers of sixty-four bits;
* `numeral_chars` — the characters of such a text.
-/

namespace TableQuery.Decimal

theorem digitsValue_eq_ofDigitChars (acc : Nat) (cs : List Char) :
    digitsValue acc cs = Nat.ofDigitChars 10 cs acc := by
  induction cs generalizing acc with
  | nil => rfl
  | cons c cs ih => exact (ih (10 * acc + digitValue c)).trans Nat.ofDigitChars_cons.symm

theorem toList_toString (n : Nat) : (toString n).toList = Nat.toDigits 10 n := by
  rw [Nat.toString_eq_repr, Nat.toList_repr]

theorem isDigit_of_mem_toString {n : Nat} {c : Char} (h : c ∈ (toString n).toList) :
    c.isDigit = true := by
  rw [toList_toString] at h
  exact Nat.isDigit_of_mem_toDigits (by decide) (by decide) h

/-- **The digits of a natural number are read as this number.** -/
theorem readDigits_toString (n : Nat) : readDigits (toString n).toList = some n := by
  have hne : (toString n).toList ≠ [] := by
    rw [toList_toString]
    exact Nat.toDigits_ne_nil
  have hdigits : (toString n).toList.all Char.isDigit = true :=
    List.all_eq_true.2 fun c hc => isDigit_of_mem_toString hc
  rw [readDigits, if_pos ⟨hne, hdigits⟩, digitsValue_eq_ofDigitChars, toList_toString]
  exact congrArg some (Nat.ofDigitChars_toDigits (by decide) (by decide))

/-! ## Signs -/

theorem readSigned_of_digits {cs : List Char} (h : ∀ c ∈ cs, c.isDigit = true) :
    readSigned cs = (readDigits cs).map fun n => (n : Int) := by
  cases cs with
  | nil => rfl
  | cons c cs =>
    have hc := h c List.mem_cons_self
    have hminus : c ≠ '-' := fun heq => by rw [heq] at hc; cases hc
    have hplus : c ≠ '+' := fun heq => by rw [heq] at hc; cases hc
    rw [readSigned.eq_def]
    split
    next heq => exact absurd (List.cons.inj heq).1 hminus
    next heq => exact absurd (List.cons.inj heq).1 hplus
    next => rfl

theorem toList_toString_of_neg {i : Int} (h : i < 0) :
    (toString i).toList = '-' :: (toString (-i).toNat).toList := by
  rw [Int.toString_eq_repr, Int.repr_eq_if, if_neg (Int.not_le.2 h), String.toList_append,
    Nat.toString_eq_repr]
  rfl

theorem toString_of_nonneg {i : Int} (h : 0 ≤ i) : toString i = toString i.toNat := by
  rw [Int.toString_eq_repr, Int.repr_eq_if, if_pos h, Nat.toString_eq_repr]

/-- **The text of an integer is read as this integer.** -/
theorem readSigned_toString (i : Int) : readSigned (toString i).toList = some i := by
  by_cases h : 0 ≤ i
  · rw [toString_of_nonneg h, readSigned_of_digits fun c hc => isDigit_of_mem_toString hc,
      readDigits_toString]
    exact congrArg some (Int.toNat_of_nonneg h)
  · have hneg : i < 0 := Int.not_le.1 h
    have hpos : -((-i).toNat : Int) = i := by omega
    rw [toList_toString_of_neg hneg, readSigned, readDigits_toString]
    exact congrArg some hpos

theorem readInt64_toString (i : Int64) : readInt64 (toString i.toInt) = some i := by
  have hbounds : Int64.minValue.toInt ≤ i.toInt ∧ i.toInt ≤ Int64.maxValue.toInt :=
    ⟨Int64.minValue_le_toInt i, Int64.toInt_le i⟩
  have hread : readInt Int64.minValue.toInt Int64.maxValue.toInt (toString i.toInt)
      = some i.toInt := by
    rw [readInt, readSigned_toString]
    exact Option.filter_some_pos (decide_eq_true hbounds)
  rw [readInt64, hread, Option.map_some, Int64.ofInt_toInt]

/-- The text of an integer has digits in it, and a minus sign at most. -/
theorem numeral_chars {i : Int} {c : Char} (h : c ∈ (toString i).toList) :
    c.isDigit = true ∨ c = '-' := by
  by_cases hi : 0 ≤ i
  · rw [toString_of_nonneg hi] at h
    exact .inl (isDigit_of_mem_toString h)
  · rw [toList_toString_of_neg (Int.not_le.1 hi)] at h
    rcases List.mem_cons.1 h with hc | hc
    · exact .inr hc
    · exact .inl (isDigit_of_mem_toString hc)

end TableQuery.Decimal
