import Mathlib.Data.List.Infix
import TableQuery.Proofs.Text.Split

/-!
# Where texts are cut

A cut at a separator falls at the one place where the text before it, or behind it, has no separator.
A cut around a word falls behind a text in which the word does not stand; and if the first character
of the word does not come again in it, behind every such text that has the word behind it.

* `cutAt_eq_some_iff`, `cutAtLast_eq_some_iff` — the first and the last separator;
* `cutAround_eq_none_iff` — a word that is not found;
* `not_infix_of_cutAround`, `cutAround_of_absent` — the first occurrence of a word.
-/

namespace TableQuery.Text

/-- **The first separator** is where the text before it has none. -/
theorem cutAt_eq_some_iff {sep : Char} {cs front back : List Char} :
    cutAt sep cs = some (front, back) ↔ cs = front ++ sep :: back ∧ sep ∉ front := by
  refine ⟨fun h => ?_, fun ⟨hcs, hfront⟩ => hcs ▸ cutAt_of_not_mem hfront back⟩
  induction cs generalizing front with
  | nil => cases h
  | cons c cs ih =>
    rw [cutAt] at h
    split at h
    next hc =>
      obtain ⟨rfl, rfl⟩ := Prod.mk.inj (Option.some.inj h)
      exact ⟨hc ▸ rfl, List.not_mem_nil⟩
    next hc =>
      obtain ⟨⟨front', back'⟩, hcut, heq⟩ := Option.map_eq_some_iff.1 h
      obtain ⟨rfl, rfl⟩ := Prod.mk.inj heq
      obtain ⟨hcs, hfront⟩ := ih hcut
      refine ⟨congrArg (c :: ·) hcs, fun hmem => ?_⟩
      rcases List.mem_cons.1 hmem with hsep | hmem
      · exact hc hsep.symm
      · exact hfront hmem

theorem cutAtLast_eq_none_iff {sep : Char} {cs : List Char} :
    cutAtLast sep cs = none ↔ sep ∉ cs := by
  induction cs with
  | nil => exact iff_of_true rfl List.not_mem_nil
  | cons c cs ih =>
    rw [cutAtLast, List.mem_cons, not_or, ← ih]
    split
    next hcut =>
      rw [hcut]
      exact iff_of_false (fun h => by cases h) (fun h => by cases h.2)
    next hcut =>
      rw [hcut, and_iff_left rfl]
      split
      next hc => exact iff_of_false (fun h => by cases h) (fun h => h hc.symm)
      next hc => exact iff_of_true rfl (Ne.symm hc)

theorem cutAtLast_of_not_mem {sep : Char} {back : List Char} (h : sep ∉ back) (front : List Char) :
    cutAtLast sep (front ++ sep :: back) = some (front, back) := by
  induction front with
  | nil => rw [List.nil_append, cutAtLast, cutAtLast_eq_none_iff.2 h, if_pos rfl]
  | cons c front ih => rw [List.cons_append, cutAtLast, ih]

/-- **The last separator** is where the text behind it has none. -/
theorem cutAtLast_eq_some_iff {sep : Char} {cs front back : List Char} :
    cutAtLast sep cs = some (front, back) ↔ cs = front ++ sep :: back ∧ sep ∉ back := by
  refine ⟨fun h => ?_, fun ⟨hcs, hback⟩ => hcs ▸ cutAtLast_of_not_mem hback front⟩
  induction cs generalizing front with
  | nil => cases h
  | cons c cs ih =>
    rw [cutAtLast] at h
    split at h
    next before after hcut =>
      obtain ⟨rfl, rfl⟩ := Prod.mk.inj (Option.some.inj h)
      obtain ⟨hcs, hback⟩ := ih hcut
      exact ⟨congrArg (c :: ·) hcs, hback⟩
    next hcut =>
      split at h
      next hc =>
        obtain ⟨rfl, rfl⟩ := Prod.mk.inj (Option.some.inj h)
        exact ⟨hc ▸ rfl, cutAtLast_eq_none_iff.1 hcut⟩
      next => cases h

/-- A separator that is not behind a cut stands before it. -/
theorem exists_append_of_not_mem {sep : Char} {front rest before back : List Char}
    (h : sep ∉ rest) (htext : front ++ rest = before ++ sep :: back) :
    ∃ other, front = before ++ sep :: other := by
  rcases List.append_eq_append_iff.1 htext with ⟨other, -, hrest⟩ | ⟨other, hfront, hback⟩
  · exact absurd (hrest ▸ List.mem_append_right other List.mem_cons_self) h
  · cases other with
    | nil => exact absurd ((List.nil_append rest ▸ hback) ▸ List.mem_cons_self) h
    | cons c other =>
      obtain ⟨rfl, -⟩ := List.cons.inj hback
      exact ⟨other, hfront⟩

theorem exists_last {sep : Char} {cs : List Char} (h : sep ∈ cs) :
    ∃ front back, cs = front ++ sep :: back ∧ sep ∉ back := by
  obtain ⟨⟨front, back⟩, hcut⟩ :=
    Option.ne_none_iff_exists'.1 fun hnone => cutAtLast_eq_none_iff.1 hnone h
  exact ⟨front, back, cutAtLast_eq_some_iff.1 hcut⟩

/-- A word is not found just if it stands nowhere in the text. -/
theorem cutAround_eq_none_iff {word text : List Char} :
    cutAround word text = none ↔ ¬word <:+: text := by
  induction text with
  | nil =>
    rw [cutAround, Option.map_eq_none_iff, List.infix_nil, ← List.prefix_nil, ← exists_after?_iff,
      Option.eq_none_iff_forall_ne_some, not_exists]
  | cons c text ih =>
    rw [List.infix_cons_iff, not_or, ← ih, ← exists_after?_iff, not_exists,
      ← Option.eq_none_iff_forall_ne_some, cutAround]
    split
    next hafter => simp [hafter]
    next hafter => rw [hafter, Option.map_eq_none_iff, and_iff_right rfl]

/-- Before the first occurrence of a word there is none. -/
theorem not_infix_of_cutAround {word text before rest : List Char} (hword : word ≠ [])
    (h : cutAround word text = some (before, rest)) : ¬word <:+: before := by
  induction text generalizing before with
  | nil =>
    rw [cutAround] at h
    obtain ⟨_, -, heq⟩ := Option.map_eq_some_iff.1 h
    obtain ⟨rfl, -⟩ := Prod.mk.inj heq
    exact fun hinfix => hword (List.infix_nil.1 hinfix)
  | cons c text ih =>
    rw [cutAround] at h
    split at h
    next =>
      obtain ⟨rfl, -⟩ := Prod.mk.inj (Option.some.inj h)
      exact fun hfound => hword (List.infix_nil.1 hfound)
    next hafter =>
      obtain ⟨⟨before', rest'⟩, hcut, heq⟩ := Option.map_eq_some_iff.1 h
      obtain ⟨rfl, rfl⟩ := Prod.mk.inj heq
      intro hfound
      rcases List.infix_cons_iff.1 hfound with hstart | hlater
      · -- it would have been found where the text begins
        have htext : c :: before' <+: c :: text := by
          rw [cutAround_eq_some hcut, List.append_assoc]
          exact List.prefix_append (c :: before') _
        obtain ⟨_, hsome⟩ := exists_after?_iff.2 (hstart.trans htext)
        rw [hafter] at hsome
        cases hsome
      · exact ih hcut hlater

/-- A word whose first character does not come again in it is found behind a text in which it does
not stand: it cannot begin in the one and end in the other. -/
theorem cutAround_of_absent {w : Char} {word front : List Char} (hw : w ∉ word)
    (h : ¬w :: word <:+: front) (back : List Char) :
    cutAround (w :: word) (front ++ w :: (word ++ back)) = some (front, back) := by
  induction front with
  | nil => exact cutAround_self (w :: word) back
  | cons c front ih =>
    rw [List.infix_cons_iff, not_or] at h
    have hafter : after? (w :: word) (c :: front ++ w :: (word ++ back)) = none := by
      rw [Option.eq_none_iff_forall_ne_some]
      intro rest hrest
      rcases List.append_eq_append_iff.1 (after?_eq_some.1 hrest) with
        ⟨other, hword, hother⟩ | ⟨other, hfront, -⟩
      · cases other with
        | nil => exact h.1 ⟨[], by rw [hword, List.append_nil, List.append_nil]⟩
        | cons d other =>
          obtain ⟨rfl, -⟩ := List.cons.inj hother
          refine hw ?_
          rw [(List.cons.inj hword).2]
          exact List.mem_append_right _ List.mem_cons_self
      · exact h.1 ⟨other, hfront.symm⟩
    rw [List.cons_append] at hafter ⊢
    rw [cutAround, hafter, ih h.2]
    rfl

end TableQuery.Text
