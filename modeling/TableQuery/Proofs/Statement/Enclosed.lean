import TableQuery.Proofs.Statement.Separators

/-!
# Behind what a statement leaves open

A text may leave a quote or a comment open.  What is put behind it is then part of that, and binds
nothing, as long as it does not end it.

* `endsOpen` — the characters that may end what is open;
* `IsEnclosed` — a text that leaves open what was open before it;
* `scan_append_enclosed`, `Dialect.bind_append_enclosed` — such a text behind a statement that
  leaves something open.
-/

namespace TableQuery.Lexical

/-- A quote, the end of a line, or a star, with which the end of a comment begins. -/
def endsOpen (c : Char) : Bool := isQuote c || c == '\n' || c == '*'

/-- What a statement can leave open, once a character stands behind it that ends nothing. -/
def openStates : List Lexical := [.quoted '\x27', .quoted '\x22', .lineComment, .blockComment]

theorem settled_mem_openStates {s : Lexical} (hs : remembersQuote s = true)
    (hopen : isLive s = false) : settled s ∈ openStates := by
  cases s with
  | quoted mark =>
    simp only [remembersQuote, isQuote, Bool.or_eq_true, beq_iff_eq] at hs
    rcases hs with rfl | rfl <;> decide
  | lineComment | blockComment | star => decide
  | _ => cases hopen

/-! ## Texts that end nothing -/

/-- Each character stands for itself behind what is left open, and that is open at the end. -/
def IsEnclosed (xs : List Char) : Prop :=
  ∀ s ∈ openStates, after s xs = s ∧ emitted s xs = xs.map .char

instance (xs : List Char) : Decidable (IsEnclosed xs) :=
  inferInstanceAs (Decidable (∀ s ∈ openStates, after s xs = s ∧ emitted s xs = xs.map .char))

theorem IsEnclosed.append {xs ys : List Char} (hx : IsEnclosed xs) (hy : IsEnclosed ys) :
    IsEnclosed (xs ++ ys) := by
  intro s hs
  obtain ⟨hxafter, hxemitted⟩ := hx s hs
  obtain ⟨hyafter, hyemitted⟩ := hy s hs
  constructor
  · rw [after_append, hxafter, hyafter]
  · rw [emitted_append, hxafter, hxemitted, hyemitted, List.map_append]

theorem isEnclosed_singleton {c : Char} (h : endsOpen c = false) : IsEnclosed [c] := by
  simp only [endsOpen, isQuote, Bool.or_eq_false_iff, beq_eq_false_iff_ne] at h
  obtain ⟨⟨⟨hsingle, hdouble⟩, hline⟩, hstar⟩ := h
  intro s hs
  simp only [openStates, List.mem_cons, List.not_mem_nil, or_false] at hs
  rcases hs with rfl | rfl | rfl | rfl
  · simp [emitted, step, hsingle]
  · simp [emitted, step, hdouble]
  · simp [emitted, step, hline]
  · simp [emitted, step, hstar]

theorem isEnclosed_of_forall {xs : List Char} (h : ∀ c ∈ xs, endsOpen c = false) :
    IsEnclosed xs := by
  induction xs with
  | nil => exact fun s _ => ⟨rfl, rfl⟩
  | cons c xs ih =>
    rw [List.forall_mem_cons] at h
    exact (isEnclosed_singleton h.1).append (ih h.2)

/-- No part of an identifier ends anything. -/
theorem endsOpen_of_isPart {c : Char} (h : Identifier.isPart c = true) : endsOpen c = false := by
  have hne : ∀ e : Char, Identifier.isPart e = false → (c == e) = false := by
    intro e he
    rw [beq_eq_false_iff_ne]
    rintro rfl
    rw [h] at he
    cases he
  rw [endsOpen, isQuote, hne _ rfl, hne _ rfl, hne _ rfl, hne _ rfl]
  rfl

/-! ## Behind a statement -/

/-- **Behind a text that leaves something open**, a text that ends nothing is characters. -/
theorem scan_append_enclosed {xs ys : List Char} {c : Char}
    (hopen : isLive (after .code xs) = false) (hc : isSeparator c = true) (hline : c ≠ '\n')
    (hys : IsEnclosed ys) :
    scan .code (xs ++ c :: ys) = scan .code xs ++ (c :: ys).map .char := by
  have hquote : remembersQuote (after .code xs) = true := remembersQuote_after rfl xs
  obtain ⟨hafter, hemitted⟩ := hys _ (settled_mem_openStates hquote hopen)
  rw [scan_append, scan, step_settled hquote hc fun _ => hline, scan_eq_emitted _ ys, hafter,
    hemitted, finish_settled, scan_eq_emitted .code xs]
  simp only [List.append_nil, List.append_assoc, List.singleton_append, List.map_cons]

theorem placeholders_append_enclosed {xs ys : List Char} {c : Char}
    (hopen : isLive (after .code xs) = false) (hc : isSeparator c = true) (hline : c ≠ '\n')
    (hys : IsEnclosed ys) : placeholders (xs ++ c :: ys) = placeholders xs := by
  rw [placeholders, scan_append_enclosed hopen hc hline hys, List.filterMap_append,
    Piece.filterMap_name?_char, List.append_nil]
  rfl

end TableQuery.Lexical

namespace TableQuery

theorem Dialect.bind_append_enclosed (d : Dialect) (p : Parameters) {sql part : String} {c : Char}
    {ys : List Char} (hpart : part.toList = c :: ys)
    (hopen : Lexical.isLive (Lexical.after .code sql.toList) = false)
    (hc : Lexical.isSeparator c = true) (hline : c ≠ '\n') (hys : Lexical.IsEnclosed ys) :
    d.bind (sql ++ part) p = (d.bind sql p).map fun b => ⟨b.sql ++ part, b.values⟩ := by
  rw [bind_eq_map, bind_eq_map, String.toList_append, hpart,
    Lexical.scan_append_enclosed hopen hc hline hys, fill_append]
  cases d.fill p 0 (Lexical.scan .code sql.toList) with
  | error e => rfl
  | ok a =>
    simp only [Except.bind, fill_chars, Except.map, List.append_nil]
    rw [← hpart, String.ofList_append, String.ofList_toList]

end TableQuery
