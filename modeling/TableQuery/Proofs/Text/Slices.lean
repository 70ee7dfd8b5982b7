import Mathlib.Data.List.Basic

/-!
# Parts of texts by their bytes

A place of a text is counted in bytes, and not every number is one: it may be behind the end of the
text, or inside a character.  A part of a text stands between two of its places that are in order.

* `slice?` — the part between two numbers, where both are places;
* `slice?_eq_some_iff` — a text is cut there into what is in front, the part and what is behind.
-/

namespace TableQuery.Text

/-- A place of a text, counted in bytes: at its start, at its end or between two characters. -/
abbrev IsPlace (s : String) (n : Nat) : Prop := String.Pos.Raw.IsValid s ⟨n⟩

/-- The part of a text between two places, which are counted in bytes.  There is none where they are
out of order, behind the end of the text or inside a character. -/
def slice? (s : String) (first last : Nat) : Option String :=
  if h : (IsPlace s first ∧ IsPlace s last) ∧ first ≤ last then
    some (s.slice (s.pos ⟨first⟩ h.1.1) (s.pos ⟨last⟩ h.1.2) h.2).copy
  else none

theorem isPlace_append {s front back : String} (hs : s = front ++ back) :
    IsPlace s front.utf8ByteSize :=
  String.Pos.Raw.isValid_iff_exists_append.2 ⟨front, back, hs, rfl⟩

/-- **A part with what is in front of it and behind it** is the text, and its places are the numbers
of the bytes up to them. -/
theorem slice?_eq_some_iff {s part : String} {first last : Nat} :
    slice? s first last = some part ↔
      ∃ front back, s = front ++ part ++ back ∧ first = front.utf8ByteSize ∧
        last = (front ++ part).utf8ByteSize := by
  constructor
  · intro h
    rw [slice?] at h
    split at h
    next hplaces =>
      obtain ⟨front, back, hfirst, hlast⟩ :=
        String.copy_slice_eq_iff_splits.1 ⟨hplaces.2, Option.some.inj h⟩
      exact ⟨front, back, hlast.eq_append,
        congrArg String.Pos.Raw.byteIdx hfirst.offset_eq_rawEndPos,
        congrArg String.Pos.Raw.byteIdx hlast.offset_eq_rawEndPos⟩
    next => cases h
  · rintro ⟨front, back, hs, rfl, rfl⟩
    have hs' : s = front ++ (part ++ back) := by rw [hs, String.append_assoc]
    have hfirst : (s.pos ⟨_⟩ (isPlace_append hs')).Splits front (part ++ back) := ⟨hs', rfl⟩
    have hlast : (s.pos ⟨_⟩ (isPlace_append hs)).Splits (front ++ part) back := ⟨hs, rfl⟩
    obtain ⟨hle, hcopy⟩ := String.copy_slice_eq_iff_splits.2 ⟨front, back, hfirst, hlast⟩
    rw [slice?, dif_pos ⟨⟨isPlace_append hs', isPlace_append hs⟩, hle⟩, hcopy]

end TableQuery.Text
