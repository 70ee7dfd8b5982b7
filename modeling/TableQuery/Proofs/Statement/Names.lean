import TableQuery.Proofs.Statement.Placeholders
import TableQuery.Proofs.Statement.Tokens
import TableQuery.Text.Pattern

/-!
# Identifiers and the names of placeholders

What is an identifier is said in three ways: by a search pattern, by the check of aliases and order
keys, and by the scanner, which reads a name behind a colon.  The three agree.  A text matches the
pattern just if the check passes, just if a colon before it is a placeholder of this name and nothing
else; and behind a colon the scanner reads an identifier to its end and no further.

* `Text.Pattern.Spans`, `Text.Pattern.IsMatch` — what a search pattern finds in a text;
* `Identifier.form`, `Identifier.isMatch_form` — the pattern of identifiers, and what matches it;
* `Lexical.isIdentifier_of_mem_placeholders` — every name that the scanner reads is an identifier;
* `Lexical.scan_colon_identifier` — an identifier behind a colon, before any other text;
* `identifier_iff_bound` — the three ways agree.
-/

namespace TableQuery

/-! ## What a pattern finds -/

namespace Text.Pattern

/-- A piece of the form stands in a text between a front and a back: `Spans p front piece back`. -/
inductive Spans : Pattern → List Char → List Char → List Char → Prop where
  | empty {front back} : Spans .empty front [] back
  | oneOf {ranges negated c front back} (h : inRanges ranges c ≠ negated) :
    Spans (.oneOf ranges negated) front [c] back
  | start {back} : Spans .start [] [] back
  | stop {front} : Spans .stop front [] []
  | seq {a b front x y back} (ha : Spans a front x (y ++ back)) (hb : Spans b (front ++ x) y back) :
    Spans (.seq a b) front (x ++ y) back
  | left {a b front piece back} (h : Spans a front piece back) :
    Spans (.either a b) front piece back
  | right {a b front piece back} (h : Spans b front piece back) :
    Spans (.either a b) front piece back
  | none {a greedy front back} : Spans (.many a greedy) front [] back
  | more {a greedy front x y back} (ha : Spans a front x (y ++ back))
    (hb : Spans (.many a greedy) (front ++ x) y back) : Spans (.many a greedy) front (x ++ y) back

/-- A piece of the form stands somewhere in the text. -/
def IsMatch (p : Pattern) (text : String) : Prop :=
  ∃ front piece back, text.toList = front ++ piece ++ back ∧ Spans p front piece back

variable {a b : Pattern} {ranges : List (Char × Char)} {greedy : Bool}
  {front piece back : List Char}

theorem spans_start_iff : Spans .start front piece back ↔ front = [] ∧ piece = [] := by
  constructor
  · rintro ⟨⟩
    exact ⟨rfl, rfl⟩
  · rintro ⟨rfl, rfl⟩
    exact .start

theorem spans_stop_iff : Spans .stop front piece back ↔ piece = [] ∧ back = [] := by
  constructor
  · rintro ⟨⟩
    exact ⟨rfl, rfl⟩
  · rintro ⟨rfl, rfl⟩
    exact .stop

theorem spans_oneOf_iff : Spans (.oneOf ranges false) front piece back ↔
    ∃ c, piece = [c] ∧ inRanges ranges c = true := by
  constructor
  · rintro ⟨⟩
    rename_i c h
    exact ⟨c, rfl, eq_true_of_ne_false h⟩
  · rintro ⟨c, rfl, hc⟩
    exact .oneOf (ne_false_of_eq_true hc)

theorem spans_seq_iff : Spans (.seq a b) front piece back ↔
    ∃ x y, piece = x ++ y ∧ Spans a front x (y ++ back) ∧ Spans b (front ++ x) y back := by
  constructor
  · rintro ⟨⟩
    exact ⟨_, _, rfl, ‹_›, ‹_›⟩
  · rintro ⟨x, y, rfl, ha, hb⟩
    exact .seq ha hb

/-- Any number of characters of a class: from left to right by induction on the characters, and back
by induction on the pieces. -/
theorem spans_many_oneOf_iff : Spans (.many (.oneOf ranges false) greedy) front piece back ↔
    piece.all (inRanges ranges) = true := by
  constructor
  · intro h
    generalize hform : Pattern.many (.oneOf ranges false) greedy = form at h
    induction h with
    | none => rfl
    | more ha _ _ ih =>
      obtain ⟨rfl, rfl⟩ := Pattern.many.inj hform
      obtain ⟨c, rfl, hc⟩ := spans_oneOf_iff.1 ha
      rw [List.singleton_append, List.all_cons, hc, ih rfl, Bool.and_self]
    | _ => cases hform
  · intro h
    induction piece generalizing front with
    | nil => exact .none
    | cons c piece ih =>
      rw [List.all_cons, Bool.and_eq_true] at h
      exact .more (x := [c]) (spans_oneOf_iff.2 ⟨c, rfl, h.1⟩) (ih h.2)

end Text.Pattern

/-! ## The form of an identifier -/

namespace Identifier

open Text (Pattern)
open Text.Pattern

/-- The ranges of the characters that an identifier may start with. -/
def startRanges : List (Char × Char) := [('A', 'Z'), ('a', 'z'), ('_', '_')]

/-- The ranges of the characters that an identifier may go on with. -/
def partRanges : List (Char × Char) := [('A', 'Z'), ('a', 'z'), ('0', '9'), ('_', '_')]

/-- The form of an identifier, from the start of a text to its end. -/
def form : Pattern :=
  .seq (.seq (.seq .start (.oneOf startRanges false)) (.many (.oneOf partRanges false) true)) .stop

theorem read?_form : read? "^[A-Za-z_][A-Za-z0-9_]*$" = some form := by decide +kernel

/-- A character in the range of another one is that one. -/
theorem le_and_le_iff_eq (c d : Char) : (decide (d ≤ c) && decide (c ≤ d)) = (c == d) := by
  rw [Bool.eq_iff_iff, Bool.and_eq_true, decide_eq_true_iff, decide_eq_true_iff, beq_iff_eq]
  constructor
  · intro h
    exact Char.le_antisymm h.2 h.1
  · rintro rfl
    exact ⟨Char.le_refl _, Char.le_refl _⟩

theorem inRanges_startRanges : inRanges startRanges = isStart := by
  rw [← Token.startsName_eq]
  funext c
  simp only [inRanges, startRanges, List.any_cons, List.any_nil, Bool.or_false, le_and_le_iff_eq]
  rw [← Bool.or_assoc]
  rfl

theorem inRanges_partRanges : inRanges partRanges = isPart := by
  rw [← Token.continuesName_eq]
  funext c
  simp only [inRanges, partRanges, List.any_cons, List.any_nil, Bool.or_false, le_and_le_iff_eq]
  rw [← Bool.or_assoc, ← Bool.or_assoc, Bool.or_right_comm]
  rfl

/-- **A text that matches the form is an identifier**, and so is nothing else: the marks at both ends
leave nothing before and nothing behind it. -/
theorem isMatch_form (s : String) : form.IsMatch s ↔ isIdentifier s = true := by
  rw [isIdentifier]
  constructor
  · rintro ⟨front, piece, back, htext, hspans⟩
    obtain ⟨_, _, rfl, hfront, hstop⟩ := spans_seq_iff.1 hspans
    obtain ⟨_, rest, rfl, hhead, hrest⟩ := spans_seq_iff.1 hfront
    obtain ⟨_, _, rfl, hstart, hfirst⟩ := spans_seq_iff.1 hhead
    obtain ⟨rfl, rfl⟩ := spans_start_iff.1 hstart
    obtain ⟨c, rfl, hc⟩ := spans_oneOf_iff.1 hfirst
    obtain ⟨rfl, rfl⟩ := spans_stop_iff.1 hstop
    rw [spans_many_oneOf_iff] at hrest
    have htext : s.toList = c :: rest := by simpa using htext
    rw [htext, isIdentifierText, ← inRanges_startRanges, hc, Bool.true_and, ← inRanges_partRanges,
      hrest]
  · intro h
    cases htext : s.toList with
    | nil =>
      rw [htext] at h
      cases h
    | cons c rest =>
      rw [htext, isIdentifierText, ← inRanges_startRanges, ← inRanges_partRanges,
        Bool.and_eq_true] at h
      have hfirst : Spans (.seq .start (.oneOf startRanges false)) [] ([] ++ [c]) (rest ++ []) :=
        .seq .start (spans_oneOf_iff.2 ⟨c, rfl, h.1⟩)
      exact ⟨[], _, [], htext.trans (by simp), .seq (.seq hfirst (spans_many_oneOf_iff.2 h.2)) .stop⟩

end Identifier

/-! ## The names that the scanner reads -/

/-- A name token has an identifier. -/
theorem isIdentifierText_of_named {text name : List Char} (h : Token.named name ∈ tokens text) :
    isIdentifierText name = true := by
  fun_induction tokens text with
  | case1 => cases h
  | case2 c rest ih =>
    rcases List.mem_cons.1 h with hfirst | hrest
    · rw [Token.first_eq] at hfirst
      split_ifs at hfirst with hquote hline hblock hcast hname
      · obtain rfl := Token.named.inj hfirst
        exact Lexical.isIdentifierText_takeWhile hname.2
    · exact ih hrest

/-- **Every name that the scanner reads is an identifier.** -/
theorem Lexical.isIdentifier_of_mem_placeholders {text : List Char} {name : String}
    (h : name ∈ placeholders text) : isIdentifier name = true := by
  rw [placeholders, scan_eq_tokens] at h
  obtain ⟨piece, hpiece, hname⟩ := List.mem_filterMap.1 h
  obtain ⟨t, ht, hpiece⟩ := List.mem_flatMap.1 hpiece
  cases t with
  | named read =>
    obtain rfl := List.mem_singleton.1 hpiece
    obtain rfl := Option.some.inj hname
    rw [isIdentifier, String.toList_ofList]
    exact isIdentifierText_of_named ht
  | _ =>
    obtain ⟨c, -, rfl⟩ := List.mem_map.1 hpiece
    cases hname

/-- **An identifier behind a colon is read to its end**, if no character of a name follows. -/
theorem Lexical.scan_colon_identifier {s t : String} (hs : isIdentifier s = true)
    (ht : ∀ c ∈ t.toList.head?, Identifier.isPart c = false) :
    scan .code (":" ++ s ++ t).toList = .placeholder s :: scan .code t.toList := by
  rw [String.toList_append, String.toList_append, List.append_assoc]
  have h := scan_placeholder hs ht
  rw [String.ofList_toList] at h
  exact h

/-! ## The three ways agree -/

section

variable (d : Dialect) {s : String} {v : Value}

/-- An identifier behind a colon is bound to its value. -/
theorem Dialect.bind_colon_identifier (hs : isIdentifier s = true) (hv : v.operands = [v]) :
    d.bind (":" ++ s) (Keyed.empty.insert s v) = .ok ⟨d.numbered 1, [v]⟩ := by
  have hscan := Lexical.scan_colon_identifier hs (t := "") (by simp)
  have hget : (Keyed.empty.insert s v).get? s = some v := by simp
  rw [String.append_empty] at hscan
  rw [bind_eq_map, hscan, fill_placeholder d _ hget, hv]
  show Except.ok (⟨String.ofList ((d.slots 0 1).toList ++ []), _⟩ : BoundStatement) = _
  rw [List.append_nil, String.ofList_toList, slots_one]
  rfl

/-- Where values of this name alone are bound and some are, the name is that of a placeholder. -/
theorem Dialect.isIdentifier_of_bind {sql : String} {b : BoundStatement}
    (h : d.bind sql (Keyed.empty.insert s v) = .ok b) (hb : b.values ≠ []) :
    isIdentifier s = true := by
  have hvalues := d.bind_values (Keyed.empty.insert s v) sql
  rw [h] at hvalues
  cases hnames : Lexical.placeholders sql.toList with
  | nil =>
    rw [hnames] at hvalues
    exact absurd (Except.ok.inj hvalues) hb
  | cons name names =>
    rw [hnames, valuesOf] at hvalues
    have hname : name = s := by
      by_contra hne
      rw [Keyed.get?_insert, if_neg hne, Keyed.get?_empty] at hvalues
      cases hvalues
    have hmem : name ∈ Lexical.placeholders sql.toList := hnames ▸ List.mem_cons_self
    exact hname ▸ Lexical.isIdentifier_of_mem_placeholders hmem

end

/-- **The check of identifiers and the scanner recognise the same names.**  A text passes the check
just if the search pattern matches in it, and just if a colon before it is bound to the value of this
name as the first placeholder and nothing else.  Where no character of a name follows, the scanner
reads it to its end, and reads what follows as if it stood alone. -/
theorem identifier_iff_bound (d : Dialect) (s : String) {v : Value}
    (hv : ∀ items, v ≠ .list items) :
    (∃ form, Text.Pattern.read? "^[A-Za-z_][A-Za-z0-9_]*$" = some form ∧
      (form.IsMatch s ↔ isIdentifier s = true)) ∧
    (isIdentifier s = true ↔
      d.bind (":" ++ s) (Keyed.empty.insert s v) = .ok ⟨d.numbered 1, [v]⟩) ∧
    ∀ t : String, isIdentifier s = true → (∀ c ∈ t.toList.head?, Identifier.isPart c = false) →
      Lexical.scan .code (":" ++ s ++ t).toList
        = .placeholder s :: Lexical.scan .code t.toList := by
  have hoperands : v.operands = [v] := by
    cases v with
    | list items => exact absurd rfl (hv items)
    | _ => rfl
  refine ⟨⟨_, Identifier.read?_form, Identifier.isMatch_form s⟩, ⟨?_, ?_⟩, ?_⟩
  · intro hs
    exact d.bind_colon_identifier hs hoperands
  · intro hbind
    exact d.isIdentifier_of_bind hbind (List.cons_ne_nil _ _)
  · intro t hs ht
    exact Lexical.scan_colon_identifier hs ht

/-- A letter beyond ASCII ends a name: behind the colon of `größe` the scanner reads `gr`. -/
theorem identifier_iff_bound_umlaut :
    (∀ items, Value.integer 7 ≠ .list items) ∧
    isIdentifier "größe" = false ∧
    Dialect.sqlite.bind ":größe" (Keyed.empty.insert "größe" (.integer 7))
      = .error (.unboundParameter "gr") ∧
    isIdentifier "gr" = true ∧
    Dialect.sqlite.bind ":gr" (Keyed.empty.insert "gr" (.integer 7))
      = .ok ⟨"?1", [.integer 7]⟩ ∧
    Lexical.scan .code ":größe = :x".toList
      = .placeholder "gr" :: Lexical.scan .code "öße = :x".toList := by
  have hv : ∀ items, Value.integer 7 ≠ .list items := fun items h => by cases h
  have hlong : isIdentifier "größe" = false := by decide
  have hshort : isIdentifier "gr" = true := by decide
  have hunbound : Dialect.sqlite.bind ":größe" (Keyed.empty.insert "größe" (.integer 7))
      = .error (.unboundParameter "gr") := rfl
  have hnext : ∀ c ∈ "öße = :x".toList.head?, Identifier.isPart c = false :=
    fun c hc => Option.some.inj hc ▸ rfl
  obtain ⟨-, hbound, hread⟩ := identifier_iff_bound .sqlite "gr" hv
  exact ⟨hv, hlong, hunbound, hshort, hbound.1 hshort, hread "öße = :x" hshort hnext⟩

end TableQuery
