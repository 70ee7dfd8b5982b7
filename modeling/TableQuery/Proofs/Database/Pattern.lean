import Mathlib.Data.List.Forall2
import TableQuery.Database.Like

/-!
# What patterns match

The match of a pattern cuts it into runs and places each of them as early as it can.  What a pattern
stands for is said here one character at a time, and the two are the same: behind the earliest place
of a run there is at least as much text as behind any other one.

* `Matches` — a text has the form of a pattern, one character after the other;
* `afterFirst?_of_suffix` — the earliest place of a run leaves the longest text;
* `isLike_iff` — the match by runs finds just the texts of that form;
* `matches_append`, `matches_iff_eq` — patterns in a row, and patterns without special characters.
-/

namespace TableQuery.Database

/-! ## Forms of texts -/

/-- A text has the form of a pattern: a percent sign stands for any characters, an underscore for
one, and every other character for itself. -/
inductive Matches : List Char → List Char → Prop where
  | nil : Matches [] []
  | any {pattern text} (skipped : List Char) (h : Matches pattern text) :
      Matches ('%' :: pattern) (skipped ++ text)
  | one {pattern text} (c : Char) (h : Matches pattern text) : Matches ('_' :: pattern) (c :: text)
  | same {c pattern text} (hany : c ≠ '%') (hone : c ≠ '_') (h : Matches pattern text) :
      Matches (c :: pattern) (c :: text)

/-- A character of a pattern stands for a character of a text. -/
def Stands (p c : Char) : Prop := p = '_' ∨ p = c

variable {run pattern text rest : List Char}

theorem matches_nil_iff : Matches [] text ↔ text = [] := by
  constructor
  · intro h
    cases h
    rfl
  · rintro rfl
    exact .nil

theorem matches_any_iff :
    Matches ('%' :: pattern) text ↔ ∃ rest, rest <:+ text ∧ Matches pattern rest := by
  constructor
  · intro h
    cases h with
    | any skipped h => exact ⟨_, List.suffix_append _ _, h⟩
    | same hany => exact absurd rfl hany
  · rintro ⟨rest, ⟨skipped, rfl⟩, h⟩
    exact .any skipped h

theorem not_matches_nil {p : Char} (hp : p ≠ '%') : ¬Matches (p :: pattern) [] := by
  intro h
  generalize htext : ([] : List Char) = text at h
  cases h with
  | any => exact hp rfl
  | one => cases htext
  | same => cases htext

theorem matches_cons_iff {p c : Char} (hp : p ≠ '%') :
    Matches (p :: pattern) (c :: text) ↔ Stands p c ∧ Matches pattern text := by
  constructor
  · intro h
    generalize htext : c :: text = t at h
    cases h with
    | any => exact absurd rfl hp
    | one c' h =>
      obtain ⟨rfl, rfl⟩ := List.cons.inj htext
      exact ⟨.inl rfl, h⟩
    | same _ _ h =>
      obtain ⟨rfl, rfl⟩ := List.cons.inj htext
      exact ⟨.inr rfl, h⟩
  · rintro ⟨rfl | rfl, h⟩
    · exact .one c h
    · by_cases hone : p = '_'
      · subst hone
        exact .one _ h
      · exact .same hp hone h

/-! ## Runs -/

/-- A run is found at the start of a text whose first characters it stands for. -/
theorem afterRun?_eq_some : afterRun? run text = some rest ↔
    ∃ front, text = front ++ rest ∧ List.Forall₂ Stands run front := by
  induction run generalizing text with
  | nil => simp [afterRun?]
  | cons p run ih =>
    cases text with
    | nil => simp [afterRun?]
    | cons c text =>
      rw [afterRun?]
      split
      next hpc =>
        rw [ih]
        constructor
        · rintro ⟨front, rfl, hrun⟩
          exact ⟨c :: front, rfl, .cons hpc hrun⟩
        · rintro ⟨_, htext, hfront⟩
          cases hfront with
          | cons _ hrun =>
            obtain ⟨rfl, rfl⟩ := List.cons.inj htext
            exact ⟨_, rfl, hrun⟩
      next hpc =>
        constructor
        · intro h
          cases h
        · rintro ⟨_, htext, hfront⟩
          cases hfront with
          | cons hstands =>
            obtain ⟨rfl, rfl⟩ := List.cons.inj htext
            exact absurd hstands hpc

theorem suffix_of_afterRun? (h : afterRun? run text = some rest) :
    rest <:+ text ∧ text.length = run.length + rest.length := by
  obtain ⟨front, rfl, hrun⟩ := afterRun?_eq_some.1 h
  exact ⟨List.suffix_append _ _, by rw [List.length_append, hrun.length_eq]⟩

theorem afterFirst?_cons (c : Char) : afterFirst? run (c :: text)
    = (afterRun? run (c :: text)).or (afterFirst? run text) := by
  rw [afterFirst?, suffixes, List.findSome?_cons]
  cases afterRun? run (c :: text) <;> rfl

/-- The run stands somewhere where the search finds it. -/
theorem exists_of_afterFirst? (h : afterFirst? run text = some rest) :
    ∃ start, start <:+ text ∧ afterRun? run start = some rest := by
  induction text with
  | nil => exact ⟨[], List.suffix_refl _, by simpa [afterFirst?, suffixes] using h⟩
  | cons c text ih =>
    rw [afterFirst?_cons] at h
    cases hhere : afterRun? run (c :: text) with
    | some rest' =>
      rw [hhere] at h
      exact ⟨c :: text, List.suffix_refl _, hhere.trans h⟩
    | none =>
      rw [hhere] at h
      obtain ⟨start, hstart, hrun⟩ := ih h
      exact ⟨start, hstart.trans (List.suffix_cons c text), hrun⟩

/-- **The earliest place leaves the longest text**: wherever the run stands, the search leaves at
least what stands behind it there. -/
theorem afterFirst?_of_suffix {start : List Char} (hstart : start <:+ text)
    (h : afterRun? run start = some rest) :
    ∃ longest, afterFirst? run text = some longest ∧ rest <:+ longest := by
  induction text with
  | nil =>
    obtain rfl := List.suffix_nil.1 hstart
    exact ⟨rest, by simpa [afterFirst?, suffixes] using h, List.suffix_refl _⟩
  | cons c text ih =>
    rw [afterFirst?_cons]
    cases hhere : afterRun? run (c :: text) with
    | some rest' =>
      -- both are ends of the text, and the one behind the earlier place is not shorter
      obtain ⟨hsuffix, hlength⟩ := suffix_of_afterRun? h
      obtain ⟨hsuffix', hlength'⟩ := suffix_of_afterRun? hhere
      have hle := hstart.length_le
      exact ⟨rest', rfl, List.suffix_of_suffix_length_le (hsuffix.trans hstart) hsuffix' (by omega)⟩
    | none =>
      rcases List.suffix_cons_iff.1 hstart with rfl | hlater
      · rw [hhere] at h
        cases h
      · exact ih hlater

theorem endsWithRun_iff : endsWithRun run text = true ↔
    ∃ last, last <:+ text ∧ List.Forall₂ Stands run last := by
  rw [endsWithRun, Option.isSome_iff_exists]
  simp only [afterRun?_eq_some]
  constructor
  · rintro ⟨front, last, htext, hlast⟩
    refine ⟨last.reverse, ⟨front.reverse, ?_⟩, ?_⟩
    · rw [← List.reverse_append, ← htext, List.reverse_reverse]
    · rw [← List.reverse_reverse run]
      exact List.forall₂_reverse_iff.2 hlast
  · rintro ⟨last, ⟨front, rfl⟩, hlast⟩
    exact ⟨front.reverse, last.reverse, List.reverse_append, List.forall₂_reverse_iff.2 hlast⟩

/-- More text before it is skipped. -/
theorem isLikeRuns_of_suffix {run : List Char} {runs : List (List Char)} (hsuffix : rest <:+ text)
    (h : isLikeRuns (run :: runs) rest = true) : isLikeRuns (run :: runs) text = true := by
  induction runs generalizing run rest text with
  | nil =>
    obtain ⟨last, hlast, hrun⟩ := endsWithRun_iff.1 h
    exact endsWithRun_iff.2 ⟨last, hlast.trans hsuffix, hrun⟩
  | cons next runs ih =>
    obtain ⟨behind, hbehind, hruns⟩ := (Option.any_eq_true _ _).1 h
    obtain ⟨start, hstart, hrun⟩ := exists_of_afterFirst? hbehind
    obtain ⟨longest, hlongest, hle⟩ := afterFirst?_of_suffix (hstart.trans hsuffix) hrun
    exact (Option.any_eq_true _ _).2 ⟨longest, hlongest, ih hle hruns⟩

/-! ## Patterns -/

/-- Runs behind any characters have a form that the text has from some place on. -/
theorem isLikeRuns_iff {run : List Char} {runs : List (List Char)} :
    isLikeRuns (run :: runs) text = true ↔
      ∃ start, start <:+ text ∧ (afterRun? run start).any (isLikeRuns runs) = true := by
  cases runs with
  | nil =>
    rw [isLikeRuns, endsWithRun_iff]
    refine exists_congr fun last => and_congr_right fun _ => ?_
    simp [Option.any_eq_true, afterRun?_eq_some, isLikeRuns]
  | cons next runs =>
    rw [isLikeRuns]
    simp only [Option.any_eq_true]
    constructor
    · rintro ⟨behind, hbehind, hruns⟩
      obtain ⟨start, hstart, hrun⟩ := exists_of_afterFirst? hbehind
      exact ⟨start, hstart, behind, hrun, hruns⟩
    · rintro ⟨start, hstart, behind, hrun, hruns⟩
      obtain ⟨longest, hlongest, hle⟩ := afterFirst?_of_suffix hstart hrun
      exact ⟨longest, hlongest, isLikeRuns_of_suffix hle hruns⟩

/-- **The match by runs finds just the texts of the form of the pattern.** -/
theorem isLike_iff : isLike pattern text = true ↔ Matches pattern text := by
  induction pattern generalizing text with
  | nil => simp [isLike, Text.pieces, afterRun?, isLikeRuns, matches_nil_iff]
  | cons p pattern ih =>
    rw [isLike, Text.pieces]
    cases hruns : Text.pieces '%' pattern with
    | nil => exact absurd hruns (Text.pieces_ne_nil '%' pattern)
    | cons run runs =>
      have ih : ∀ text, (afterRun? run text).any (isLikeRuns runs) = true ↔ Matches pattern text :=
        fun text => by rw [← ih, isLike, hruns]
      by_cases hp : p = '%'
      · -- behind a percent sign the form stands from some place on
        subst hp
        simp only [if_true]
        rw [matches_any_iff, afterRun?, Option.any_some, isLikeRuns_iff]
        simp only [ih]
      · simp only [if_neg hp]
        cases text with
        | nil => simp [afterRun?, not_matches_nil hp]
        | cons c text =>
          rw [matches_cons_iff hp, ← ih, afterRun?]
          split
          next hstands => exact (and_iff_right hstands).symm
          next hstands => exact iff_of_false (by simp) fun h => hstands h.1

/-! ## Patterns in a row -/

theorem matches_append {pattern' : List Char} : Matches (pattern ++ pattern') text ↔
    ∃ front back, text = front ++ back ∧ Matches pattern front ∧ Matches pattern' back := by
  induction pattern generalizing text with
  | nil => simp [matches_nil_iff]
  | cons p pattern ih =>
    rw [List.cons_append]
    by_cases hp : p = '%'
    · subst hp
      rw [matches_any_iff]
      simp only [ih]
      constructor
      · rintro ⟨_, ⟨skipped, rfl⟩, front, back, rfl, hfront, hback⟩
        exact ⟨skipped ++ front, back, by rw [List.append_assoc], .any skipped hfront, hback⟩
      · rintro ⟨front, back, rfl, hfront, hback⟩
        obtain ⟨rest, ⟨skipped, rfl⟩, hrest⟩ := matches_any_iff.1 hfront
        exact ⟨rest ++ back, ⟨skipped, by rw [List.append_assoc]⟩, rest, back, rfl, hrest, hback⟩
    · cases text with
      | nil =>
        refine iff_of_false (not_matches_nil hp) ?_
        rintro ⟨front, back, htext, hfront, -⟩
        obtain ⟨rfl, -⟩ := List.append_eq_nil_iff.1 htext.symm
        exact not_matches_nil hp hfront
      | cons c text =>
        rw [matches_cons_iff hp, ih]
        constructor
        · rintro ⟨hstands, front, back, rfl, hfront, hback⟩
          exact ⟨c :: front, back, rfl, (matches_cons_iff hp).2 ⟨hstands, hfront⟩, hback⟩
        · rintro ⟨front, back, htext, hfront, hback⟩
          cases front with
          | nil => exact absurd hfront (not_matches_nil hp)
          | cons d front =>
            obtain ⟨rfl, rfl⟩ := List.cons.inj htext
            obtain ⟨hstands, hfront⟩ := (matches_cons_iff hp).1 hfront
            exact ⟨hstands, front, back, rfl, hfront, hback⟩

/-- Any characters may stand before and after a pattern between percent signs. -/
theorem matches_between : Matches ('%' :: (pattern ++ ['%'])) text ↔
    ∃ part, part <:+: text ∧ Matches pattern part := by
  rw [matches_any_iff]
  simp only [matches_append]
  constructor
  · rintro ⟨_, ⟨skipped, rfl⟩, part, back, rfl, hpart, -⟩
    exact ⟨part, ⟨skipped, back, by rw [List.append_assoc]⟩, hpart⟩
  · rintro ⟨part, ⟨skipped, back, rfl⟩, hpart⟩
    refine ⟨part ++ back, ⟨skipped, by rw [List.append_assoc]⟩, part, back, rfl, hpart, ?_⟩
    exact matches_any_iff.2 ⟨[], List.nil_suffix, .nil⟩

/-! ## Special characters -/

/-- **A pattern without special characters** stands for itself alone. -/
theorem matches_iff_eq (hany : '%' ∉ pattern) (hone : '_' ∉ pattern) :
    Matches pattern text ↔ text = pattern := by
  induction pattern generalizing text with
  | nil => exact matches_nil_iff
  | cons p pattern ih =>
    rw [List.mem_cons, not_or] at hany hone
    have hp : p ≠ '%' := fun h => hany.1 h.symm
    have hp' : p ≠ '_' := fun h => hone.1 h.symm
    cases text with
    | nil => exact iff_of_false (not_matches_nil hp) (by simp)
    | cons c text =>
      rw [matches_cons_iff hp, ih hany.2 hone.2, List.cons.injEq, Stands, or_iff_right hp', eq_comm]

/-- A pattern has its own form: special characters stand for themselves too. -/
theorem matches_self (pattern : List Char) : Matches pattern pattern := by
  induction pattern with
  | nil => exact .nil
  | cons p pattern ih =>
    by_cases hp : p = '%'
    · subst hp
      exact .any ['%'] ih
    · exact (matches_cons_iff hp).2 ⟨.inr rfl, ih⟩

/-- A text of the form of a pattern, without special characters. -/
def plainForm (pattern : List Char) : List Char :=
  (pattern.filter fun p => p ≠ '%').map fun p => if p = '_' then '-' else p

theorem matches_plainForm (pattern : List Char) : Matches pattern (plainForm pattern) := by
  induction pattern with
  | nil => exact .nil
  | cons p pattern ih =>
    by_cases hp : p = '%'
    · subst hp
      exact .any [] ih
    · have hform : plainForm (p :: pattern) = (if p = '_' then '-' else p) :: plainForm pattern := by
        rw [plainForm, List.filter_cons_of_pos (by simpa using hp), List.map_cons]
        rfl
      rw [hform, matches_cons_iff hp]
      refine ⟨?_, ih⟩
      by_cases hone : p = '_'
      · exact .inl hone
      · exact .inr (if_neg hone).symm

theorem any_not_mem_plainForm (pattern : List Char) : '%' ∉ plainForm pattern := by
  intro h
  obtain ⟨p, hp, heq⟩ := List.mem_map.1 h
  have hne : p ≠ '%' := by simpa using (List.mem_filter.1 hp).2
  split at heq
  · exact absurd heq (by decide)
  · exact hne heq

theorem one_not_mem_plainForm (pattern : List Char) : '_' ∉ plainForm pattern := by
  intro h
  obtain ⟨p, -, heq⟩ := List.mem_map.1 h
  split at heq
  next => exact absurd heq (by decide)
  next hne => exact hne heq

/-- **A pattern between percent signs looks for itself** just if it has no special characters. -/
theorem matches_between_iff_infix :
    (∀ text, Matches ('%' :: (pattern ++ ['%'])) text ↔ pattern <:+: text) ↔
      '%' ∉ pattern ∧ '_' ∉ pattern := by
  constructor
  · intro h
    -- a text that is found for its form has the pattern inside it, but no special character
    have hwithin := (h (plainForm pattern)).1 <|
      matches_between.2 ⟨_, List.infix_refl _, matches_plainForm pattern⟩
    exact ⟨fun hmem => any_not_mem_plainForm pattern (hwithin.subset hmem),
      fun hmem => one_not_mem_plainForm pattern (hwithin.subset hmem)⟩
  · rintro ⟨hany, hone⟩ text
    rw [matches_between]
    simp only [matches_iff_eq hany hone, exists_eq_right]

end TableQuery.Database
