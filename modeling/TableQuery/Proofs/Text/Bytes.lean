import Mathlib.Data.List.Basic
import Mathlib.Tactic.SplitIfs

/-!
# Texts in the order of their bytes

Keys are kept in the order of their characters.  Programs that keep them in the order of their
UTF-8 bytes have them in the same order: of two different characters the greater one has the greater
byte at the first place where their bytes differ, and neither is the beginning of the other.

* `bytes` — the bytes of a text;
* `utf8EncodeChar_append_lt` — two different characters with any bytes behind them;
* `bytes_lt_iff` — two texts.
-/

namespace TableQuery.Text

/-- The bytes of a text in UTF-8. -/
def bytes (s : String) : List UInt8 := s.toList.flatMap String.utf8EncodeChar

theorem toByteArray_bytes (s : String) : (bytes s).toByteArray = s.toUTF8 := by
  rw [String.toUTF8_eq_toByteArray]
  exact congrArg String.toByteArray (String.ofList_toList (s := s))

/-! ## Characters -/

theorem cons_lt_of_lt {m n : Nat} (h : m < n) (hn : n < 256) (l l' : List UInt8) :
    UInt8.ofNat m :: l < UInt8.ofNat n :: l' := by
  have hleft : (UInt8.ofNat m).toNat = m := UInt8.toNat_ofNat_of_lt' (Nat.lt_trans h hn)
  have hright : (UInt8.ofNat n).toNat = n := UInt8.toNat_ofNat_of_lt' hn
  refine List.cons_lt_cons_iff.2 (.inl ?_)
  rw [UInt8.lt_iff_toNat_lt, hleft, hright]
  exact h

theorem cons_lt_of_le {m n : Nat} (h : m ≤ n) (hn : n < 256) {l l' : List UInt8}
    (hl : m = n → l < l') : UInt8.ofNat m :: l < UInt8.ofNat n :: l' := by
  rcases Nat.lt_or_eq_of_le h with hlt | rfl
  · exact cons_lt_of_lt hlt hn l l'
  · exact List.cons_lt_cons_iff.2 (.inr ⟨rfl, hl rfl⟩)

/-- **The greater character has the greater bytes**, whatever follows. -/
theorem utf8EncodeChar_append_lt {c d : Char} (h : c < d) (l l' : List UInt8) :
    String.utf8EncodeChar c ++ l < String.utf8EncodeChar d ++ l' := by
  have hcode : c.val.toNat < d.val.toNat := h
  have hd : d.val.toNat < 0x110000 := by
    rcases d.valid with hd | hd <;> omega
  rw [String.utf8EncodeChar.eq_def, String.utf8EncodeChar.eq_def]
  generalize c.val.toNat = m at *
  generalize d.val.toNat = n at *
  simp only []
  -- characters of different widths differ in the first byte; of one width, all bytes are compared
  split_ifs
  all_goals first | omega | exact cons_lt_of_lt (by omega) (by omega) _ _ | skip
  · refine cons_lt_of_le (by omega) (by omega) fun hfirst => ?_
    exact cons_lt_of_lt (by omega) (by omega) _ _
  · refine cons_lt_of_le (by omega) (by omega) fun hfirst => ?_
    refine cons_lt_of_le (by omega) (by omega) fun hsecond => ?_
    exact cons_lt_of_lt (by omega) (by omega) _ _
  · refine cons_lt_of_le (by omega) (by omega) fun hfirst => ?_
    refine cons_lt_of_le (by omega) (by omega) fun hsecond => ?_
    refine cons_lt_of_le (by omega) (by omega) fun hthird => ?_
    exact cons_lt_of_lt (by omega) (by omega) _ _

/-! ## Texts -/

theorem append_lt_append_left (p : List UInt8) {l l' : List UInt8} (h : l < l') :
    p ++ l < p ++ l' := by
  induction p with
  | nil => exact h
  | cons b p ih => exact List.cons_lt_cons_iff.2 (.inr ⟨rfl, ih⟩)

theorem flatMap_utf8EncodeChar_lt {s t : List Char} (h : s < t) :
    s.flatMap String.utf8EncodeChar < t.flatMap String.utf8EncodeChar := by
  rw [← List.lex_lt] at h
  induction h with
  | @nil c t =>
    rw [List.flatMap_nil, List.flatMap_cons]
    obtain ⟨b, rest, hbytes⟩ := List.exists_cons_of_ne_nil (String.utf8EncodeChar_ne_nil (c := c))
    rw [hbytes]
    exact List.nil_lt_cons _ _
  | rel h => exact utf8EncodeChar_append_lt h _ _
  | cons _ ih => exact append_lt_append_left _ ih

/-- **The order of texts is the order of their bytes.** -/
theorem bytes_lt_iff {s t : String} : bytes s < bytes t ↔ s < t := by
  have hlt : ∀ {s t : String}, s < t → bytes s < bytes t := fun h => flatMap_utf8EncodeChar_lt h
  constructor
  · intro h
    by_contra hst
    by_cases hts : t < s
    · exact absurd (List.lt_trans h (hlt hts)) (List.lt_irrefl _)
    · obtain rfl := String.le_antisymm (String.not_lt.1 hts) (String.not_lt.1 hst)
      exact absurd h (List.lt_irrefl _)
  · exact hlt

theorem bytes_le_iff {s t : String} : bytes s ≤ bytes t ↔ s ≤ t := by
  rw [← List.not_lt, ← String.not_lt, bytes_lt_iff]

end TableQuery.Text
