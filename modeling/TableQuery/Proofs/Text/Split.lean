import TableQuery.Text.Split

/-!
# Words in texts

What the search for a word says about a text: a word is found just if the text is the word between
two others, and it is found where its first character first occurs, if it stands there.

* `append_cons_cancel` — the first separator of a text is at one place only;
* `after?_eq_some`, `cutAround_eq_some` — nothing is lost by a cut;
* `cutAround_append` — what stands behind the first occurrence of a word does not matter;
* `flatMap_pieces`, `flatMap_concat`, `forall_mem_intercalate` — the pieces of a text with their
  separators, and texts put together with separators between them;
* `replaceFirst` — another text in place of a word.
-/

namespace TableQuery.Text

theorem cutAt_of_not_mem {sep : Char} {front : List Char} (h : sep ∉ front) (back : List Char) :
    cutAt sep (front ++ sep :: back) = some (front, back) := by
  induction front with
  | nil => simp [cutAt]
  | cons c front ih =>
    have hc : c ≠ sep := fun hc => h (hc ▸ List.mem_cons_self)
    have hfront : sep ∉ front := fun hm => h (List.mem_cons_of_mem _ hm)
    rw [List.cons_append, cutAt, if_neg hc, ih hfront]
    rfl

theorem append_cons_cancel {sep : Char} {front front' back back' : List Char} (h : sep ∉ front)
    (h' : sep ∉ front') (heq : front ++ sep :: back = front' ++ sep :: back') :
    front = front' ∧ back = back' := by
  have hcut := congrArg (cutAt sep) heq
  rw [cutAt_of_not_mem h, cutAt_of_not_mem h'] at hcut
  exact Prod.mk.inj (Option.some.inj hcut)

theorem after?_eq_some {word text rest : List Char} :
    after? word text = some rest ↔ text = word ++ rest := by
  induction word generalizing text with
  | nil => exact Option.some_inj
  | cons w word ih =>
    cases text with
    | nil => simp [after?]
    | cons c text =>
      rw [after?, List.cons_append, List.cons.injEq]
      split
      · rename_i hwc
        rw [ih]
        exact (and_iff_right hwc.symm).symm
      · rename_i hwc
        constructor
        · intro h
          exact absurd h (by simp)
        · rintro ⟨hcw, -⟩
          exact absurd hcw.symm hwc

theorem startsWith_slash_iff {s : String} :
    startsWith "/" s = true ↔ s.toList.head? = some '/' := by
  rw [startsWith, Option.isSome_iff_exists]
  simp only [after?_eq_some]
  show (∃ rest, s.toList = '/' :: rest) ↔ _
  rw [List.head?_eq_some_iff]

theorem endsWith_slash_iff {s : String} :
    endsWith "/" s = true ↔ s.toList.getLast? = some '/' := by
  rw [endsWith, Option.isSome_iff_exists, ← List.head?_reverse, List.head?_eq_some_iff]
  simp only [after?_eq_some]
  exact Iff.rfl

theorem cutAround_eq_some {word text before rest : List Char}
    (h : cutAround word text = some (before, rest)) : text = before ++ word ++ rest := by
  induction text generalizing before with
  | nil =>
    rw [cutAround] at h
    obtain ⟨rest', hafter, heq⟩ := Option.map_eq_some_iff.1 h
    obtain ⟨rfl, rfl⟩ := Prod.mk.inj heq
    exact after?_eq_some.1 hafter
  | cons c text ih =>
    rw [cutAround] at h
    split at h
    · rename_i rest' hafter
      obtain ⟨rfl, rfl⟩ := Prod.mk.inj (Option.some.inj h)
      exact after?_eq_some.1 hafter
    · obtain ⟨⟨before', rest'⟩, hcut, heq⟩ := Option.map_eq_some_iff.1 h
      obtain ⟨rfl, rfl⟩ := Prod.mk.inj heq
      rw [ih hcut]
      rfl

/-- A word is found where its first character first occurs, if it stands there. -/
theorem cutAround_of_not_mem {w : Char} {front : List Char} (h : w ∉ front)
    (word back : List Char) :
    cutAround (w :: word) (front ++ w :: (word ++ back)) = some (front, back) := by
  induction front with
  | nil =>
    have hafter : after? (w :: word) (w :: (word ++ back)) = some back := after?_eq_some.2 rfl
    rw [List.nil_append, cutAround, hafter]
  | cons c front ih =>
    have hc : w ≠ c := fun hc => h (hc ▸ List.mem_cons_self)
    have hfront : w ∉ front := fun hm => h (List.mem_cons_of_mem _ hm)
    rw [List.cons_append, cutAround, after?, if_neg hc, ih hfront]
    rfl

theorem exists_after?_iff {word text : List Char} :
    (∃ rest, after? word text = some rest) ↔ word <+: text := by
  simp only [after?_eq_some]
  exact exists_congr fun rest => eq_comm

/-- Whether a text begins with a word is settled by its front, where that is as long as the word. -/
theorem after?_append_eq_none {word front back : List Char} (h : after? word (front ++ back) = none)
    (hlength : word.length ≤ front.length) (other : List Char) :
    after? word (front ++ other) = none := by
  rw [Option.eq_none_iff_forall_ne_some]
  intro found hfound
  have hfront : word <+: front := List.prefix_of_prefix_length_le
    (exists_after?_iff.1 ⟨found, hfound⟩) (List.prefix_append _ _) hlength
  obtain ⟨found', hfound'⟩ := exists_after?_iff.2 (hfront.trans (List.prefix_append front back))
  rw [h] at hfound'
  cases hfound'

theorem cutAround_self (word other : List Char) :
    cutAround word (word ++ other) = some ([], other) := by
  have hafter : after? word (word ++ other) = some other := after?_eq_some.2 rfl
  cases htext : word ++ other with
  | nil =>
    rw [htext] at hafter
    rw [cutAround, hafter]
    rfl
  | cons c text =>
    rw [htext] at hafter
    rw [cutAround, hafter]

/-- A single character is found where it first stands. -/
theorem cutAround_singleton (w : Char) (cs : List Char) :
    cutAround [w] cs = (cs.findIdx? (· == w)).map fun n => (cs.take n, cs.drop (n + 1)) := by
  induction cs with
  | nil => rfl
  | cons c cs ih =>
    rw [List.findIdx?_cons]
    by_cases hc : w = c
    · subst hc
      rw [beq_self_eq_true, if_pos rfl]
      exact cutAround_self [w] cs
    · have hafter : after? [w] (c :: cs) = none := if_neg hc
      rw [beq_false_of_ne (Ne.symm hc), if_neg Bool.false_ne_true, cutAround, hafter, ih]
      cases cs.findIdx? (· == w) <;> rfl

/-- The first occurrence of a word is found whatever stands behind it. -/
theorem cutAround_append {word text before rest : List Char}
    (h : cutAround word text = some (before, rest)) (other : List Char) :
    cutAround word (before ++ word ++ other) = some (before, other) := by
  induction text generalizing before with
  | nil =>
    rw [cutAround] at h
    obtain ⟨_, -, heq⟩ := Option.map_eq_some_iff.1 h
    obtain ⟨rfl, -⟩ := Prod.mk.inj heq
    exact cutAround_self word other
  | cons c text ih =>
    rw [cutAround] at h
    split at h
    next =>
      obtain ⟨rfl, -⟩ := Prod.mk.inj (Option.some.inj h)
      exact cutAround_self word other
    next hafter =>
      obtain ⟨⟨before', rest'⟩, hcut, heq⟩ := Option.map_eq_some_iff.1 h
      obtain ⟨rfl, rfl⟩ := Prod.mk.inj heq
      -- a word that stood here would end before the other text begins
      have hlength : word.length ≤ (c :: (before' ++ word)).length := by
        rw [List.length_cons, List.length_append]
        omega
      rw [cutAround_eq_some hcut] at hafter
      have hnone : after? word (c :: (before' ++ word) ++ other) = none :=
        after?_append_eq_none hafter hlength other
      rw [List.cons_append] at hnone
      rw [List.cons_append, List.cons_append, cutAround, hnone, ih hcut]
      rfl

/-- A text with another one in place of the first occurrence of a word. -/
def replaceFirst (word other text : List Char) : List Char :=
  match cutAround word text with
  | some (front, back) => front ++ other ++ back
  | none => text

theorem replaceFirst_of_not_mem {w : Char} {front : List Char} (h : w ∉ front)
    (word other back : List Char) :
    replaceFirst (w :: word) other (front ++ w :: (word ++ back)) = front ++ other ++ back := by
  rw [replaceFirst, cutAround_of_not_mem h]

/-- The pieces of a text, each with its separator, are the text with one separator more. -/
theorem flatMap_pieces (sep : Char) (cs : List Char) :
    ((pieces sep cs).flatMap fun piece => piece ++ [sep]) = cs ++ [sep] := by
  induction cs with
  | nil => rfl
  | cons c cs ih =>
    rw [pieces]
    split
    next hc => rw [List.flatMap_cons, ih, List.nil_append, List.singleton_append, hc, List.cons_append]
    next =>
      cases hpieces : pieces sep cs with
      | nil => exact absurd hpieces (pieces_ne_nil sep cs)
      | cons piece rest =>
        rw [hpieces, List.flatMap_cons] at ih
        rw [List.cons_append, ← ih, List.flatMap_cons]
        rfl

theorem not_mem_of_mem_pieces {sep : Char} {cs piece : List Char} (h : piece ∈ pieces sep cs) :
    sep ∉ piece := by
  induction cs generalizing piece with
  | nil =>
    rw [List.mem_singleton.1 h]
    exact List.not_mem_nil
  | cons c cs ih =>
    rw [pieces] at h
    split at h
    next =>
      rcases List.mem_cons.1 h with rfl | h
      · exact List.not_mem_nil
      · exact ih h
    next hc =>
      split at h
      next => exact absurd ‹_› (pieces_ne_nil sep cs)
      next first rest hpieces =>
        rw [hpieces] at ih
        rcases List.mem_cons.1 h with rfl | h
        · rw [List.mem_cons, not_or]
          exact ⟨fun heq => hc heq.symm, ih List.mem_cons_self⟩
        · exact ih (List.mem_cons_of_mem _ h)

/-- The pieces of a text have what all its characters have that are no separators. -/
theorem forall_mem_of_mem_pieces {P : Char → Prop} {sep : Char} {cs piece : List Char}
    (h : ∀ c ∈ cs, P c ∨ c = sep) (hpiece : piece ∈ pieces sep cs) : ∀ c ∈ piece, P c := by
  intro c hc
  have hne : c ≠ sep := fun heq => not_mem_of_mem_pieces hpiece (heq ▸ hc)
  have hmem : c ∈ cs ++ [sep] := by
    rw [← flatMap_pieces]
    exact List.mem_flatMap.2 ⟨piece, hpiece, List.mem_append_left _ hc⟩
  rcases List.mem_append.1 hmem with hmem | hmem
  · exact (h c hmem).resolve_right hne
  · exact absurd (List.mem_singleton.1 hmem) hne

/-- Texts with a separator between them, and one more behind the last one. -/
theorem flatMap_concat (sep : Char) {texts : List (List Char)} (h : texts ≠ []) :
    (texts.flatMap fun text => text ++ [sep]) = [sep].intercalate texts ++ [sep] := by
  induction texts with
  | nil => exact absurd rfl h
  | cons text texts ih =>
    cases texts with
    | nil => simp [List.intercalate]
    | cons text' texts =>
      rw [List.flatMap_cons, ih (List.cons_ne_nil _ _)]
      simp [List.intercalate]

/-- What holds of all characters of a separator and of texts holds of the texts with the separator
between them. -/
theorem forall_mem_intercalate {P : Char → Prop} {sep : String} {texts : List String}
    (hsep : ∀ c ∈ sep.toList, P c) (h : ∀ text ∈ texts, ∀ c ∈ text.toList, P c) :
    ∀ c ∈ (sep.intercalate texts).toList, P c := by
  induction texts with
  | nil =>
    rw [String.intercalate_nil]
    exact nofun
  | cons text texts ih =>
    rw [List.forall_mem_cons] at h
    cases texts with
    | nil =>
      rw [String.intercalate_singleton]
      exact h.1
    | cons text' texts =>
      rw [String.intercalate_cons_cons, String.toList_append, String.toList_append,
        List.forall_mem_append, List.forall_mem_append]
      exact ⟨⟨h.1, hsep⟩, ih h.2⟩

end TableQuery.Text
