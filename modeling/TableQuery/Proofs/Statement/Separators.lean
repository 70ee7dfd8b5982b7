import TableQuery.Proofs.Statement.Placeholders
import TableQuery.Text.Blank

/-!
# Blanks and semicolons in statements

Blanks and semicolons separate what stands around them: where a statement is live, the first of them
completes what is pending, and the others change nothing.  Inside quotes and comments they stand for
themselves.  Only the end of a line does more, since it ends a comment.

* `isSeparator_of_isBlank` — every blank separates;
* `settled` — the state after a separating character that ends no comment;
* `after_separators`, `names_separators` — a run of separating characters after any text;
* `skip_separators` — one where the state is settled;
* `skip_lineComment` — what stands in a comment up to the end of its line.
-/

namespace TableQuery.Lexical

/-- No blank goes on with a name or begins a part of more than one character. -/
theorem isSeparator_of_isBlank {c : Char} (h : Text.isBlank c = true) : isSeparator c = true := by
  have hne : ∀ d, Text.isBlank d = false → (c == d) = false := by
    intro d hd
    rw [beq_eq_false_iff_ne]
    rintro rfl
    rw [h] at hd
    cases hd
  have hpart : Identifier.isPart c = false := by
    have hv : c.toNat = c.val.toNat := rfl
    simp only [Text.isBlank, Text.isBlankCode, Bool.or_eq_true, Bool.and_eq_true,
      decide_eq_true_eq, beq_iff_eq] at h
    have hupper : ¬(65 ≤ c.val.toNat ∧ c.val.toNat ≤ 90) := by omega
    have hlower : ¬(97 ≤ c.val.toNat ∧ c.val.toNat ≤ 122) := by omega
    have hdigit : ¬(48 ≤ c.val.toNat ∧ c.val.toNat ≤ 57) := by omega
    delta Identifier.isPart Char.isAlphanum Char.isAlpha Char.isUpper Char.isLower Char.isDigit
    simp only [ge_iff_le, UInt32.le_iff_toNat_le, Bool.or_eq_false_iff, ← Bool.decide_and,
      decide_eq_false_iff_not]
    exact ⟨⟨⟨hupper, hlower⟩, hdigit⟩, hne '_' rfl⟩
  rw [isSeparator, hpart, isQuote, hne '\x27' rfl, hne '\x22' rfl, hne '-' rfl, hne '/' rfl,
    hne '*' rfl, hne ':' rfl]
  rfl

/-! ## One separating character -/

/-- The state after a separating character that ends no comment. -/
def settled : Lexical → Lexical
  | .quoted mark => .quoted mark
  | .lineComment => .lineComment
  | .blockComment | .star => .blockComment
  | _ => .code

theorem settled_settled (s : Lexical) : settled (settled s) = settled s := by cases s <;> rfl

theorem finish_settled (s : Lexical) : finish (settled s) = [] := by cases s <;> rfl

theorem isLive_settled (s : Lexical) : isLive (settled s) = isLive s := by cases s <;> rfl

theorem settled_eq_lineComment_iff {s : Lexical} : settled s = .lineComment ↔ s = .lineComment := by
  constructor
  · intro h
    cases s with
    | lineComment => rfl
    | _ => cases h
  · rintro rfl
    rfl

theorem remembersQuote_settled {s : Lexical} (h : remembersQuote s = true) :
    remembersQuote (settled s) = true := by
  cases s with
  | quoted mark => exact h
  | _ => rfl

/-- A separating character, unless it ends the line of a comment. -/
theorem step_settled {s : Lexical} {c : Char} (hs : remembersQuote s = true)
    (hc : isSeparator c = true) (hline : s = .lineComment → c ≠ '\n') :
    step s c = (settled s, finish s ++ [.char c]) := by
  cases hlive : isLive s with
  | true =>
    rw [step_separator hlive hs hc]
    cases s <;> first | rfl | exact absurd hlive Bool.false_ne_true
  | false =>
    simp only [isSeparator, Bool.and_eq_true, Bool.not_eq_true', beq_eq_false_iff_ne] at hc
    obtain ⟨⟨⟨⟨⟨-, hquote⟩, -⟩, hslash⟩, hstar⟩, -⟩ := hc
    cases s with
    | quoted mark =>
      have hne : c ≠ mark := fun h => Bool.false_ne_true (hquote ▸ h ▸ hs)
      rw [step, if_neg hne]
      rfl
    | lineComment =>
      rw [step, if_neg (hline rfl)]
      rfl
    | blockComment =>
      rw [step, if_neg hstar]
      rfl
    | star =>
      rw [step, if_neg hslash, if_neg hstar]
      rfl
    | _ => cases hlive

/-! ## Runs of separating characters -/

/-- The state after a run of separating characters that does not end the line of a comment. -/
theorem after_separators {s : Lexical} {xs : List Char} (hs : remembersQuote s = true)
    (hxs : ∀ c ∈ xs, isSeparator c = true) (hline : s = .lineComment → '\n' ∉ xs) (hne : xs ≠ []) :
    after s xs = settled s := by
  induction xs generalizing s with
  | nil => exact absurd rfl hne
  | cons c xs ih =>
    rw [List.forall_mem_cons] at hxs
    rw [after_cons, step_settled hs hxs.1 fun h heq => hline h (heq ▸ List.mem_cons_self)]
    cases xs with
    | nil => rfl
    | cons d xs =>
      -- the state is settled after the first one, and stays so
      rw [ih (remembersQuote_settled hs) hxs.2 (fun h hmem =>
          hline (settled_eq_lineComment_iff.1 h) (List.mem_cons_of_mem _ hmem))
          (List.cons_ne_nil _ _), settled_settled]

/-- Outside comments up to the end of a line, separating characters open and end nothing. -/
theorem isLive_after_separators {s : Lexical} {xs : List Char} (hs : remembersQuote s = true)
    (hxs : ∀ c ∈ xs, isSeparator c = true) (hline : s ≠ .lineComment) :
    isLive (after s xs) = isLive s := by
  cases xs with
  | nil => rfl
  | cons c xs =>
    rw [after_separators hs hxs (fun heq => absurd heq hline) (List.cons_ne_nil _ _),
      isLive_settled]

/-- Without a colon, and with nothing pending before it, a text completes no placeholder. -/
theorem names_of_not_pending {s : Lexical} {xs : List Char} (hs : isPending s = false)
    (h : ':' ∉ xs) : names s xs = [] := by
  have hscan : (scan s xs).filterMap Piece.name? = [] := by
    rw [scan_of_not_pending hs h, Piece.filterMap_name?_char]
  rw [scan_eq_emitted, List.filterMap_append] at hscan
  exact (List.append_eq_nil_iff.1 hscan).1

/-- A run of separating characters completes the placeholder that is pending, and no other. -/
theorem names_separators {s : Lexical} {xs : List Char} (hxs : ∀ c ∈ xs, isSeparator c = true)
    (hne : xs ≠ []) : names s xs = (finish s).filterMap Piece.name? := by
  cases xs with
  | nil => exact absurd rfl hne
  | cons c xs =>
    have hcolon : ':' ∉ c :: xs := fun hmem => absurd (hxs _ hmem) (by decide)
    rw [List.mem_cons, not_or] at hcolon
    obtain ⟨hpieces, hnext⟩ := step_completes (s := s) (fun heq => hcolon.1 heq.symm)
      (not_isPart_of_separator (hxs c List.mem_cons_self))
    have hrest : names (step s c).1 xs = [] := names_of_not_pending hnext hcolon.2
    rw [names, emitted, hpieces, List.filterMap_append, List.filterMap_append]
    exact (congrArg _ hrest).trans (by simp [Piece.name?])

/-- Where the state is settled, separating characters change nothing. -/
theorem skip_separators {s : Lexical} {xs : List Char} (hsettled : settled s = s)
    (hs : remembersQuote s = true) (hxs : ∀ c ∈ xs, isSeparator c = true)
    (hline : s = .lineComment → '\n' ∉ xs) : after s xs = s ∧ names s xs = [] := by
  cases xs with
  | nil => exact ⟨rfl, rfl⟩
  | cons c xs =>
    have hne : c :: xs ≠ [] := List.cons_ne_nil _ _
    refine ⟨(after_separators hs hxs hline hne).trans hsettled, ?_⟩
    rw [names_separators hxs hne, ← hsettled, finish_settled]
    rfl

/-! ## Comments up to the end of a line -/

/-- A comment goes on to the end of its line, and has no placeholder. -/
theorem skip_lineComment {xs : List Char} (h : '\n' ∉ xs) :
    after .lineComment xs = .lineComment ∧ names .lineComment xs = [] := by
  induction xs with
  | nil => exact ⟨rfl, rfl⟩
  | cons c xs ih =>
    rw [List.mem_cons, not_or] at h
    have hstep : step .lineComment c = (.lineComment, [.char c]) := by
      rw [step, if_neg fun heq => h.1 heq.symm]
    rw [after_cons, names, emitted, hstep]
    exact ih h.2

end TableQuery.Lexical
