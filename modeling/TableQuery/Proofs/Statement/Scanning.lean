import TableQuery.Statement.Lexical

/-!
# Scanning a statement in parts

A statement is put together from parts, and the scanner reads it as a whole.  What a part reads as
depends on the state that the parts before it leave behind, and a part may leave something pending
that only the next character completes.  This file says at which seams that does no harm:

* `emitted` — the pieces that a text completes before its end is known; `scan_append` cuts a scan
  at any place;
* `scan_append_inert` — a text without a colon, behind a character that goes on no name, is copied
  after **any** text, also after one that leaves a quote or a comment open;
* `scan_append_seam` — after a text that ends outside quotes and comments, a text that begins with
  a separating character is scanned as if it stood alone;
* `scan_placeholder` — a colon and an identifier, where nothing is pending, are one placeholder.
-/

namespace TableQuery.Lexical

/-! ## Cutting a scan -/

/-- The pieces that a text completes, read from a state on, when more text may follow. -/
def emitted : Lexical → List Char → List Piece
  | _, [] => []
  | state, c :: rest => (step state c).2 ++ emitted (step state c).1 rest

@[simp] theorem after_nil (s : Lexical) : after s [] = s := rfl

@[simp] theorem after_cons (s : Lexical) (c : Char) (xs : List Char) :
    after s (c :: xs) = after (step s c).1 xs := rfl

theorem after_append (s : Lexical) (xs ys : List Char) :
    after s (xs ++ ys) = after (after s xs) ys := by
  simp only [after, List.foldl_append]

/-- **A scan can be cut anywhere**: the first part gives what it completes, and the second part is
read from the state that the first one leaves. -/
theorem scan_append (s : Lexical) (xs ys : List Char) :
    scan s (xs ++ ys) = emitted s xs ++ scan (after s xs) ys := by
  induction xs generalizing s with
  | nil => rfl
  | cons c xs ih =>
    rw [List.cons_append, scan, ih, emitted, after_cons, List.append_assoc]

theorem scan_eq_emitted (s : Lexical) (xs : List Char) :
    scan s xs = emitted s xs ++ finish (after s xs) := by
  have h := scan_append s xs []
  rwa [List.append_nil] at h

/-! ## Characters that complete what is pending -/

/-- A colon or a name is read, and the next character decides what it comes to. -/
def isPending : Lexical → Bool
  | .colon | .name _ => true
  | _ => false

theorem finish_of_not_pending {s : Lexical} (h : isPending s = false) : finish s = [] := by
  cases s with
  | colon => exact absurd h (by decide)
  | name read => exact absurd h (by simp [isPending])
  | _ => rfl

/-- A character that is no colon stands for itself where a character is entered. -/
theorem enter_pieces {c : Char} (h : c ≠ ':') :
    (enter c).2 = [.char c] ∧ isPending (enter c).1 = false := by
  rw [enter, if_neg h]
  split
  · exact ⟨rfl, rfl⟩
  · split
    · exact ⟨rfl, rfl⟩
    · split <;> exact ⟨rfl, rfl⟩

/-- Where nothing is pending, a character that is no colon stands for itself, and nothing is
pending after it. -/
theorem step_of_not_pending {s : Lexical} {c : Char} (hs : isPending s = false) (h : c ≠ ':') :
    (step s c).2 = [.char c] ∧ isPending (step s c).1 = false := by
  cases s with
  | colon => exact absurd hs (by decide)
  | name read => exact absurd hs (by simp [isPending])
  | code => exact enter_pieces h
  | dash | slash | closing =>
    rw [step]
    split
    · exact ⟨rfl, rfl⟩
    · exact enter_pieces h
  | quoted | lineComment | blockComment =>
    refine ⟨rfl, ?_⟩
    rw [step]
    split <;> rfl
  | star =>
    refine ⟨rfl, ?_⟩
    rw [step]
    split
    · rfl
    · split <;> rfl

/-- A character that is no colon and goes on no name completes what is pending and stands for
itself. -/
theorem step_completes {s : Lexical} {c : Char} (h : c ≠ ':') (hp : Identifier.isPart c = false) :
    (step s c).2 = finish s ++ [.char c] ∧ isPending (step s c).1 = false := by
  cases s with
  | colon =>
    have hs : Identifier.isStart c = false :=
      Bool.eq_false_iff.2 fun hs => Bool.false_ne_true (hp ▸ Identifier.isPart_of_isStart hs)
    rw [step, if_neg h, hs, if_neg Bool.false_ne_true]
    exact ⟨by rw [enterAfter, (enter_pieces h).1]; rfl, (enter_pieces h).2⟩
  | name read =>
    rw [step, hp, if_neg Bool.false_ne_true]
    exact ⟨by rw [enterAfter, (enter_pieces h).1]; rfl, (enter_pieces h).2⟩
  | _ =>
    rw [finish_of_not_pending rfl]
    exact step_of_not_pending rfl h

/-! ## Texts that are copied after any text -/

/-- Without a colon, and with nothing pending before it, a text is copied from every state. -/
theorem scan_of_not_pending {s : Lexical} {xs : List Char} (hs : isPending s = false)
    (h : ':' ∉ xs) : scan s xs = xs.map .char := by
  induction xs generalizing s with
  | nil => exact finish_of_not_pending hs
  | cons c xs ih =>
    have hc : c ≠ ':' := fun hc => h (hc ▸ List.mem_cons_self)
    obtain ⟨hpieces, hnext⟩ := step_of_not_pending hs hc
    rw [scan, hpieces, ih hnext fun hm => h (List.mem_cons_of_mem _ hm)]
    rfl

/-- A text that neither begins a placeholder nor goes on with the name of one before it. -/
structure IsInert (xs : List Char) : Prop where
  no_colon : ':' ∉ xs
  no_part : ∀ c ∈ xs.head?, Identifier.isPart c = false

theorem forall_mem_head {P : Char → Prop} {c : Char} {xs : List Char} (h : P c) :
    ∀ d ∈ (c :: xs).head?, P d := by
  intro d hd
  obtain rfl : c = d := Option.some.inj hd
  exact h

theorem isInert_nil : IsInert [] := ⟨by simp, by simp⟩

theorem IsInert.append {xs ys : List Char} (hx : IsInert xs) (hy : IsInert ys) :
    IsInert (xs ++ ys) where
  no_colon := by
    rw [List.mem_append]
    exact not_or.2 ⟨hx.no_colon, hy.no_colon⟩
  no_part := by
    cases xs with
    | nil => exact hy.no_part
    | cons c xs => exact hx.no_part

/-- **An inert text is copied after any text**, whatever that text leaves open or pending. -/
theorem scan_append_inert (s : Lexical) (xs : List Char) {ys : List Char} (h : IsInert ys) :
    scan s (xs ++ ys) = scan s xs ++ ys.map .char := by
  rw [scan_append, scan_eq_emitted s xs, List.append_assoc]
  congr 1
  cases ys with
  | nil => simp [scan]
  | cons c ys =>
    have hc : c ≠ ':' := fun hc => h.no_colon (hc ▸ List.mem_cons_self)
    obtain ⟨hpieces, hnext⟩ := step_completes (s := after s xs) hc (h.no_part c rfl)
    have hrest := scan_of_not_pending hnext fun hm => h.no_colon (List.mem_cons_of_mem _ hm)
    rw [scan, hpieces, hrest, List.append_assoc]
    rfl

/-- A text without a colon that leaves nothing open is copied before any text. -/
theorem scan_closed_append {xs : List Char} (h : ':' ∉ xs) (hc : after .code xs = .code)
    (ys : List Char) : scan .code (xs ++ ys) = xs.map .char ++ scan .code ys := by
  have hx := scan_of_not_pending (s := .code) rfl h
  rw [scan_eq_emitted, hc, finish_of_not_pending (s := .code) rfl, List.append_nil] at hx
  rw [scan_append, hc, hx]

/-! ## Texts that are scanned as if they stood alone -/

/-- The mark that a state remembers is a quote. -/
def remembersQuote : Lexical → Bool
  | .quoted mark | .closing mark => isQuote mark
  | _ => true

theorem remembersQuote_enter (c : Char) : remembersQuote (enter c).1 = true := by
  unfold enter
  split
  · assumption
  · split
    · rfl
    · split
      · rfl
      · split <;> rfl

theorem remembersQuote_step {s : Lexical} (hs : remembersQuote s = true) (c : Char) :
    remembersQuote (step s c).1 = true := by
  cases s with
  | code => exact remembersQuote_enter c
  | quoted mark =>
    rw [step]
    split <;> exact hs
  | lineComment | blockComment =>
    rw [step]
    split <;> rfl
  | star =>
    rw [step]
    split
    · rfl
    · split <;> rfl
  | colon =>
    rw [step]
    split
    · rfl
    · split
      · rfl
      · exact remembersQuote_enter c
  | dash | slash | name =>
    rw [step]
    split
    · rfl
    · exact remembersQuote_enter c
  | closing mark =>
    rw [step]
    split
    · exact hs
    · exact remembersQuote_enter c

/-- Every state that a scan reaches remembers a quote, if it remembers a mark. -/
theorem remembersQuote_after {s : Lexical} (hs : remembersQuote s = true) (xs : List Char) :
    remembersQuote (after s xs) = true := by
  induction xs generalizing s with
  | nil => exact hs
  | cons c xs ih => exact ih (remembersQuote_step hs c)

/-- A character that neither goes on with anything outside quotes and comments nor begins a part
of more than one character. -/
def isSeparator (c : Char) : Bool :=
  !Identifier.isPart c && !isQuote c && !(c == '-') && !(c == '/') && !(c == '*') && !(c == ':')

theorem not_isPart_of_separator {c : Char} (h : isSeparator c = true) :
    Identifier.isPart c = false := by
  simp only [isSeparator, Bool.and_eq_true, Bool.not_eq_true'] at h
  exact h.1.1.1.1.1

/-- A separating character completes what is pending and stands for itself, and the scan goes on as
at the start of a statement. -/
theorem step_separator {s : Lexical} {c : Char} (hl : isLive s = true)
    (hs : remembersQuote s = true) (hc : isSeparator c = true) :
    step s c = (.code, finish s ++ [.char c]) := by
  simp only [isSeparator, Bool.and_eq_true, Bool.not_eq_true', beq_eq_false_iff_ne] at hc
  obtain ⟨⟨⟨⟨⟨hpart, hquote⟩, hdash⟩, hslash⟩, hstar⟩, hcolon⟩ := hc
  have hstate : enter c = (.code, [.char c]) := by
    rw [enter, hquote, if_neg Bool.false_ne_true, if_neg hdash, if_neg hslash, if_neg hcolon]
  have hpieces : (step s c).2 = finish s ++ [.char c] := (step_completes hcolon hpart).1
  refine Prod.ext ?_ hpieces
  cases s with
  | code => rw [step, hstate]
  | dash => rw [step, if_neg hdash, hstate]
  | slash => rw [step, if_neg hstar, hstate]
  | colon =>
    have hstart : Identifier.isStart c = false :=
      Bool.eq_false_iff.2 fun h => Bool.false_ne_true (hpart ▸ Identifier.isPart_of_isStart h)
    rw [step, if_neg hcolon, hstart, if_neg Bool.false_ne_true, enterAfter, hstate]
  | name read => rw [step, hpart, if_neg Bool.false_ne_true, enterAfter, hstate]
  | closing mark =>
    -- the mark is a quote and the separating character is none, so the run is closed
    have hne : c ≠ mark := fun h => Bool.false_ne_true (hquote ▸ h ▸ hs)
    rw [step, if_neg hne, hstate]
  | quoted | lineComment | blockComment | star => exact absurd hl Bool.false_ne_true

/-- **A seam.**  After a text that ends outside quotes and comments, a text that begins with a
separating character is scanned as if it stood alone. -/
theorem scan_append_seam {xs ys : List Char} (hl : isLive (after .code xs) = true)
    (hy : ∀ c ∈ ys.head?, isSeparator c = true) :
    scan .code (xs ++ ys) = scan .code xs ++ scan .code ys := by
  rw [scan_append, scan_eq_emitted .code xs, List.append_assoc]
  congr 1
  cases ys with
  | nil => simp [scan, finish]
  | cons c ys =>
    have hs : remembersQuote (after .code xs) = true := remembersQuote_after rfl xs
    rw [scan, scan, step_separator hl hs (hy c rfl), step_separator rfl rfl (hy c rfl)]
    rw [← List.append_assoc]
    rfl

/-- After a seam, what is open is what the second text opens on its own. -/
theorem live_append_seam {xs ys : List Char} (hl : isLive (after .code xs) = true)
    (hy : ∀ c ∈ ys.head?, isSeparator c = true) :
    isLive (after .code (xs ++ ys)) = isLive (after .code ys) := by
  cases ys with
  | nil => rw [List.append_nil, hl]; rfl
  | cons c ys =>
    have hs : remembersQuote (after .code xs) = true := remembersQuote_after rfl xs
    rw [after_append, after_cons, after_cons, step_separator hl hs (hy c rfl),
      step_separator rfl rfl (hy c rfl)]

/-! ## Identifiers and placeholders -/

/-- All characters of an identifier go on with one. -/
theorem isPart_of_identifierText {name : List Char} (h : isIdentifierText name = true) :
    ∀ c ∈ name, Identifier.isPart c = true := by
  cases name with
  | nil => exact absurd h (by decide)
  | cons c name =>
    rw [isIdentifierText, Bool.and_eq_true, List.all_eq_true] at h
    rw [List.forall_mem_cons]
    exact ⟨Identifier.isPart_of_isStart h.1, h.2⟩

theorem colon_not_mem_identifierText {name : List Char} (h : isIdentifierText name = true) :
    ':' ∉ name :=
  fun hc => absurd (isPart_of_identifierText h _ hc) (by decide)

theorem blank_not_mem_identifierText {name : List Char} (h : isIdentifierText name = true) :
    ' ' ∉ name :=
  fun hc => absurd (isPart_of_identifierText h _ hc) (by decide)

/-- The characters of identifiers leave no mark on the scanner. -/
theorem after_parts {xs : List Char} (h : ∀ c ∈ xs, Identifier.isPart c = true) :
    after .code xs = .code := by
  induction xs with
  | nil => rfl
  | cons c xs ih =>
    have hc : Identifier.isPart c = true := h c List.mem_cons_self
    have hquote : ¬isQuote c = true := by
      intro hq
      rw [isQuote, Bool.or_eq_true, beq_iff_eq, beq_iff_eq] at hq
      rcases hq with rfl | rfl
      · exact absurd hc (by decide)
      · exact absurd hc (by decide)
    have hdash : c ≠ '-' := by rintro rfl; exact absurd hc (by decide)
    have hslash : c ≠ '/' := by rintro rfl; exact absurd hc (by decide)
    have hcolon : c ≠ ':' := by rintro rfl; exact absurd hc (by decide)
    have hstep : step .code c = (.code, [.char c]) := by
      rw [step, enter, if_neg hquote, if_neg hdash, if_neg hslash, if_neg hcolon]
    rw [after_cons, hstep]
    exact ih fun d hd => h d (List.mem_cons_of_mem _ hd)

theorem after_name (read : List Char) {name : List Char}
    (h : ∀ c ∈ name, Identifier.isPart c = true) :
    after (.name read) name = .name (read ++ name) := by
  induction name generalizing read with
  | nil => rw [List.append_nil]; rfl
  | cons c name ih =>
    have hstep : step (.name read) c = (.name (read ++ [c]), []) :=
      if_pos (h c List.mem_cons_self)
    rw [after_cons, hstep, ih _ fun d hd => h d (List.mem_cons_of_mem _ hd), List.append_assoc]
    rfl

/-- A colon and the start of an identifier are the start of a name. -/
theorem step_colon_start {c : Char} (h : Identifier.isStart c = true) :
    step .colon c = (.name [c], []) := by
  have hc : c ≠ ':' := by
    rintro rfl
    exact absurd h (by decide)
  rw [step, if_neg hc, if_pos h]

/-- Inside a name, the longest run of identifier characters completes the placeholder. -/
theorem scan_name (read : List Char) {name rest : List Char}
    (hn : ∀ c ∈ name, Identifier.isPart c = true)
    (hr : ∀ c ∈ rest.head?, Identifier.isPart c = false) :
    scan (.name read) (name ++ rest)
      = .placeholder (String.ofList (read ++ name)) :: scan .code rest := by
  induction name generalizing read with
  | nil =>
    rw [List.nil_append, List.append_nil]
    cases rest with
    | nil => rfl
    | cons c rest =>
      rw [scan, step, hr c rfl, if_neg Bool.false_ne_true, enterAfter]
      rfl
  | cons c name ih =>
    rw [List.cons_append, scan, step, hn c List.mem_cons_self, if_pos rfl]
    rw [ih (read ++ [c]) fun d hd => hn d (List.mem_cons_of_mem _ hd)]
    rw [List.append_assoc]
    rfl

/-- **A colon and an identifier are one placeholder** where nothing is pending, if no character of
a name follows. -/
theorem scan_placeholder {name rest : List Char} (hn : isIdentifierText name = true)
    (hr : ∀ c ∈ rest.head?, Identifier.isPart c = false) :
    scan .code (':' :: (name ++ rest))
      = .placeholder (String.ofList name) :: scan .code rest := by
  cases name with
  | nil => exact absurd hn (by decide)
  | cons c name =>
    rw [isIdentifierText, Bool.and_eq_true, List.all_eq_true] at hn
    obtain ⟨hstart, hparts⟩ := hn
    have hcolon : step .code ':' = (.colon, []) := rfl
    rw [List.cons_append, scan, hcolon, scan, step_colon_start hstart]
    exact scan_name [c] hparts hr

/-- After a placeholder its name is pending. -/
theorem after_placeholder {name : List Char} (hn : isIdentifierText name = true) :
    after .code (':' :: name) = .name name := by
  cases name with
  | nil => exact absurd hn (by decide)
  | cons c name =>
    rw [isIdentifierText, Bool.and_eq_true, List.all_eq_true] at hn
    have hcolon : step .code ':' = (.colon, []) := rfl
    rw [after_cons, hcolon, after_cons, step_colon_start hn.1, after_name [c] hn.2]
    rfl

end TableQuery.Lexical
