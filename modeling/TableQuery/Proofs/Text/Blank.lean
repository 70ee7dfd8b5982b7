import Mathlib.Data.List.TakeWhile
import TableQuery.Text.Blank

/-!
# What trimming takes away

A text is its trimmed form between two runs of blanks, and nothing is left of a text just if it is
blank.

* `exists_dropEndWhile` — what a final run takes away;
* `exists_trimChars` — the blanks around a trimmed text;
* `dropWhile_dropEndWhile` — dropping at one end and at the other;
* `trimChars_between` — what remains of a text without blanks between two runs of them;
* `exists_trimChars_cons` — what remains of blanks with separators among them;
* `trim_eq_empty_iff` — a text of which nothing is left.
-/

namespace TableQuery.Text

/-- A list is what remains of it, and then the run that was dropped. -/
theorem exists_dropEndWhile {α : Type} (p : α → Bool) (xs : List α) :
    ∃ run, xs = dropEndWhile p xs ++ run ∧ ∀ x ∈ run, p x = true := by
  refine ⟨(xs.reverse.takeWhile p).reverse, ?_, fun x hx => ?_⟩
  · rw [dropEndWhile, ← List.reverse_append, List.takeWhile_append_dropWhile, List.reverse_reverse]
  · exact List.mem_takeWhile_imp (List.mem_reverse.1 hx)

/-- **A text is its trimmed form between blanks.** -/
theorem exists_trimChars (cs : List Char) :
    ∃ front back, cs = front ++ (trimChars cs ++ back) ∧
      (∀ c ∈ front, isBlank c = true) ∧ ∀ c ∈ back, isBlank c = true := by
  obtain ⟨back, hback, hblank⟩ := exists_dropEndWhile isBlank (trimStart cs)
  refine ⟨cs.takeWhile isBlank, back, ?_, fun c hc => List.mem_takeWhile_imp hc, hblank⟩
  rw [trimChars, trimEnd, ← hback, trimStart, List.takeWhile_append_dropWhile]

/-- Nothing is left of blanks. -/
theorem trimChars_of_blank {cs : List Char} (h : ∀ c ∈ cs, isBlank c = true) :
    trimChars cs = [] := by
  rw [trimChars, trimStart, List.dropWhile_eq_nil_iff.2 h]
  rfl

theorem trimChars_eq_nil_iff {cs : List Char} :
    trimChars cs = [] ↔ ∀ c ∈ cs, isBlank c = true := by
  refine ⟨fun h => ?_, trimChars_of_blank⟩
  obtain ⟨front, back, hcs, hfront, hback⟩ := exists_trimChars cs
  rw [h, List.nil_append] at hcs
  rw [hcs]
  exact List.forall_mem_append.2 ⟨hfront, hback⟩

theorem head?_dropWhile {α : Type} (p : α → Bool) (xs : List α) :
    ∀ x ∈ (xs.dropWhile p).head?, p x = false := by
  intro x hx
  have h := List.head?_dropWhile_not p xs
  rw [Option.mem_def.1 hx] at h
  exact h

theorem dropWhile_of_head? {α : Type} {p : α → Bool} {xs : List α}
    (h : ∀ x ∈ xs.head?, p x = false) : xs.dropWhile p = xs := by
  cases xs with
  | nil => rfl
  | cons x xs => exact List.dropWhile_cons_of_neg (Bool.eq_false_iff.1 (h x rfl))

theorem dropWhile_of_forall_not {α : Type} {p : α → Bool} {xs : List α}
    (h : ∀ x ∈ xs, p x = false) : xs.dropWhile p = xs := by
  cases xs with
  | nil => rfl
  | cons x xs => exact List.dropWhile_cons_of_neg (Bool.eq_false_iff.1 (h x List.mem_cons_self))

/-- A final run is dropped, and nothing before it that has none of its elements. -/
theorem dropEndWhile_append {α : Type} {p : α → Bool} {xs run : List α}
    (hrun : ∀ x ∈ run, p x = true) (hxs : ∀ x ∈ xs, p x = false) :
    dropEndWhile p (xs ++ run) = xs := by
  have hlast : xs.reverse.dropWhile p = xs.reverse :=
    dropWhile_of_forall_not fun x hx => hxs x (List.mem_reverse.1 hx)
  rw [dropEndWhile, List.reverse_append,
    List.dropWhile_append_of_pos fun x hx => hrun x (List.mem_reverse.1 hx), hlast,
    List.reverse_reverse]

/-- With one element more in front, the rest keeps what it kept, or nothing is kept. -/
theorem dropEndWhile_cons {α : Type} (p : α → Bool) (x : α) (xs : List α) :
    dropEndWhile p (x :: xs) = x :: dropEndWhile p xs ∨
      dropEndWhile p (x :: xs) = [] ∧ dropEndWhile p xs = [] := by
  rw [dropEndWhile, dropEndWhile, List.reverse_cons, List.dropWhile_append]
  cases xs.reverse.dropWhile p with
  | nil => cases hx : p x <;> simp [List.dropWhile, hx]
  | cons y ys => exact .inl (List.reverse_append ..)

/-- **It does not matter at which end one drops first.** -/
theorem dropWhile_dropEndWhile {α : Type} (p q : α → Bool) (xs : List α) :
    (dropEndWhile p xs).dropWhile q = dropEndWhile p (xs.dropWhile q) := by
  induction xs with
  | nil => rfl
  | cons x xs ih =>
    cases hx : q x with
    | true =>
      rw [List.dropWhile_cons_of_pos hx, ← ih]
      rcases dropEndWhile_cons p x xs with h | ⟨h, hrest⟩
      · rw [h, List.dropWhile_cons_of_pos hx]
      · rw [h, hrest]
    | false =>
      rw [List.dropWhile_cons_of_neg (Bool.eq_false_iff.1 hx)]
      rcases dropEndWhile_cons p x xs with h | ⟨h, -⟩
      · rw [h, List.dropWhile_cons_of_neg (Bool.eq_false_iff.1 hx)]
      · rw [h]
        rfl

/-- **Between blanks a text without blanks remains.** -/
theorem trimChars_between {front cs back : List Char} (hfront : ∀ c ∈ front, isBlank c = true)
    (hback : ∀ c ∈ back, isBlank c = true) (hcs : ∀ c ∈ cs, isBlank c = false) :
    trimChars (front ++ (cs ++ back)) = cs := by
  cases cs with
  | nil => exact trimChars_of_blank (List.forall_mem_append.2 ⟨hfront, hback⟩)
  | cons c cs =>
    have hc : ¬isBlank c = true := Bool.eq_false_iff.1 (hcs c List.mem_cons_self)
    have hstart : trimStart (front ++ (c :: cs ++ back)) = c :: cs ++ back := by
      rw [trimStart, List.dropWhile_append_of_pos hfront]
      exact List.dropWhile_cons_of_neg hc
    rw [trimChars, hstart, trimEnd, dropEndWhile_append hback hcs]

theorem trim_between {front s back : String} (hfront : isBlankText front = true)
    (hback : isBlankText back = true) (hs : ∀ c ∈ s.toList, isBlank c = false) :
    trim (front ++ s ++ back) = s := by
  rw [trim, String.toList_append, String.toList_append, List.append_assoc,
    trimChars_between (List.all_eq_true.1 hfront) (List.all_eq_true.1 hback) hs,
    String.ofList_toList]

theorem trim_of_forall_not {s : String} (hs : ∀ c ∈ s.toList, isBlank c = false) : trim s = s := by
  have hnone : isBlankText "" = true := rfl
  have h := trim_between hnone hnone hs
  rw [String.empty_append, String.append_empty] at h
  exact h

/-- Of blanks with separators among them, what remains begins with a separator. -/
theorem exists_trimChars_cons {sep : Char} {cs : List Char} (hsep : isBlank sep = false)
    (hcs : ∀ c ∈ cs, isBlank c = true ∨ c = sep) (hmem : sep ∈ cs) :
    ∃ rest, trimChars cs = sep :: rest := by
  have hstart : ∃ rest, trimStart cs = sep :: rest := by
    induction cs with
    | nil => cases hmem
    | cons c cs ih =>
      rw [List.forall_mem_cons] at hcs
      cases hc : isBlank c with
      | true =>
        have hne : sep ≠ c := fun heq => by rw [heq, hc] at hsep; cases hsep
        rw [trimStart, List.dropWhile_cons_of_pos hc]
        exact ih hcs.2 ((List.mem_cons.1 hmem).resolve_left hne)
      | false =>
        rw [hc] at hcs
        obtain rfl : c = sep := hcs.1.resolve_left Bool.false_ne_true
        rw [trimStart, List.dropWhile_cons_of_neg (Bool.eq_false_iff.1 hc)]
        exact ⟨cs, rfl⟩
  obtain ⟨rest, hrest⟩ := hstart
  obtain ⟨run, hrun, hblank⟩ := exists_dropEndWhile isBlank (sep :: rest)
  rw [trimChars, hrest, trimEnd]
  cases hend : dropEndWhile isBlank (sep :: rest) with
  | nil =>
    rw [hend, List.nil_append] at hrun
    have hbad : isBlank sep = true := hblank sep (hrun ▸ List.mem_cons_self)
    rw [hsep] at hbad
    cases hbad
  | cons c cs =>
    rw [hend] at hrun
    obtain ⟨rfl, -⟩ := List.cons.inj hrun
    exact ⟨cs, rfl⟩

theorem trim_eq_empty_iff {s : String} : trim s = "" ↔ isBlankText s = true := by
  rw [trim, isBlankText, List.all_eq_true, ← trimChars_eq_nil_iff, ← String.toList_inj]
  simp

theorem trim_ne_empty {s : String} (h : isBlankText s = false) : trim s ≠ "" := fun hs => by
  rw [trim_eq_empty_iff.1 hs] at h
  cases h

end TableQuery.Text
