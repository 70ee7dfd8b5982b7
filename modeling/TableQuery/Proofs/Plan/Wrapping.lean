import TableQuery.Proofs.Plan.Placement
import TableQuery.Proofs.Statement.Separators
import TableQuery.Proofs.Text.Blank

/-!
# Base queries in brackets

A plan takes the blanks and semicolons away from the ends of its base query and puts the rest in
brackets.  They open nothing, but a line break among them may be what ends a comment: without it the
comment takes in the bracket, and all that a plan puts behind it, which has no line break.

* `exists_bareBase`, `live_bareBase_iff` — what stands in the brackets, and when it is live;
* `after_wrapBase_of_live`, `after_wrapBase_of_comment` — what is read behind the brackets;
* `placeholders_scope`, `placeholders_commented_scope` — the placeholders of the base query and the
  conditions in both cases;
* `Plan.wrapped_live` — when all that a plan puts behind its base query is live.
-/

namespace TableQuery

open Lexical

variable {base : String}

/-! ## What stands in the brackets -/

/-- A base query is what is put in brackets, between blanks and semicolons. -/
theorem exists_bareBase (base : String) : ∃ front back,
    base.toList = front ++ ((bareBase base).toList ++ back) ∧
      (∀ c ∈ front, isSeparator c = true) ∧ ∀ c ∈ back, isSeparator c = true := by
  obtain ⟨front, back, hbase, hfront, hback⟩ := Text.exists_trimChars base.toList
  obtain ⟨semicolons, htrimmed, hsemicolons⟩ :=
    Text.exists_dropEndWhile (· == ';') (Text.trimChars base.toList)
  obtain ⟨blanks, hbare, hblanks⟩ :=
    Text.exists_dropEndWhile Text.isBlank
      (Text.dropEndWhile (· == ';') (Text.trimChars base.toList))
  refine ⟨front, blanks ++ (semicolons ++ back), ?_,
    fun c hc => isSeparator_of_isBlank (hfront c hc), fun c hc => ?_⟩
  · rw [bareBase, String.toList_ofList, Text.trimEnd]
    conv_lhs => rw [hbase, htrimmed, hbare]
    simp only [List.append_assoc]
  · simp only [List.mem_append] at hc
    rcases hc with hc | hc | hc
    · exact isSeparator_of_isBlank (hblanks c hc)
    · rw [eq_of_beq (hsemicolons c hc)]
      decide
    · exact isSeparator_of_isBlank (hback c hc)

/-- **What stands in the brackets is live** unless it leaves a comment open that only the end of a
line behind it ends. -/
theorem live_bareBase_iff (h : isLive (after .code base.toList) = true) :
    isLive (after .code (bareBase base).toList) = true ↔
      after .code (bareBase base).toList ≠ .lineComment := by
  constructor
  · rintro hlive hcomment
    rw [hcomment] at hlive
    exact Bool.false_ne_true hlive
  · intro hcomment
    obtain ⟨front, back, hbase, hfront, hback⟩ := exists_bareBase base
    have hskip : after .code front = .code :=
      (skip_separators rfl rfl hfront fun heq => by cases heq).1
    have hquote : remembersQuote (after .code (bareBase base).toList) = true :=
      remembersQuote_after rfl _
    rw [hbase, after_append, hskip, after_append,
      isLive_after_separators hquote hback hcomment] at h
    exact h

/-! ## Behind the brackets -/

theorem toList_wrapBase_append (base : String) (back : List Char) :
    (wrapBase base).toList ++ back
      = "SELECT * FROM (".toList
        ++ ((bareBase base).toList ++ (") AS scope WHERE 1 = 1".toList ++ back)) := by
  rw [wrapBase_eq, String.toList_append, String.toList_append, List.append_assoc, List.append_assoc]

theorem after_wrapBase (base : String) :
    after .code (wrapBase base).toList
      = after (after .code (bareBase base).toList) ") AS scope WHERE 1 = 1".toList := by
  have hopen : after .code "SELECT * FROM (".toList = .code := by decide
  rw [wrapBase_eq, String.toList_append, String.toList_append, after_append, after_append, hopen]

/-- Behind a live text the bracket is read as one. -/
theorem after_wrapBase_of_live (h : isLive (after .code (bareBase base).toList) = true) :
    after .code (wrapBase base).toList = .code := by
  have hquote : remembersQuote (after .code (bareBase base).toList) = true :=
    remembersQuote_after rfl _
  have hbracket : ") AS scope WHERE 1 = 1".toList = ')' :: " AS scope WHERE 1 = 1".toList := rfl
  have hscope : after .code " AS scope WHERE 1 = 1".toList = .code := by decide
  rw [after_wrapBase, hbracket, after_cons, step_separator h hquote (by decide), hscope]

/-- A comment that is open takes in the bracket and goes on behind it. -/
theorem after_wrapBase_of_comment (h : after .code (bareBase base).toList = .lineComment) :
    after .code (wrapBase base).toList = .lineComment := by
  rw [after_wrapBase, h]
  decide

/-! ## Placeholders behind the brackets -/

section

variable {p : Parameters} {c : Condition} {cs : List Condition}

theorem placeholders_condition (h : c.Kept p) :
    placeholders (" AND " ++ c.fragment).toList = [c.filter.column] := by
  obtain ⟨front, back, hplaces⟩ := Operator.builtin_places h.operator h.column
  rw [String.toList_append, placeholders_closed_append (by decide) (by decide), placeholders,
    Condition.fragment, hplaces.scan_fragment h.column, List.filterMap_append,
    List.filterMap_cons_some (show Piece.name? (.placeholder _) = some _ from rfl),
    Piece.filterMap_name?_char, Piece.filterMap_name?_char]
  rfl

/-- **Conditions have one placeholder each**, that of their column. -/
theorem placeholders_conditionsText (h : ∀ c ∈ cs, c.Kept p) :
    placeholders (conditionsText cs).toList = cs.map fun c => c.filter.column := by
  induction cs with
  | nil => rfl
  | cons c cs ih =>
    rw [List.forall_mem_cons] at h
    rw [conditionsText, String.toList_append,
      placeholders_append_seam (live_condition h.1) (head_conditionsText cs),
      placeholders_condition h.1, ih h.2]
    rfl

/-- Behind a live base query the conditions have their placeholders. -/
theorem placeholders_scope (h : ∀ c ∈ cs, c.Kept p)
    (hlive : isLive (after .code (bareBase base).toList) = true) :
    placeholders ((wrapBase base).toList ++ (conditionsText cs).toList)
      = placeholders (bareBase base).toList ++ cs.map fun c => c.filter.column := by
  have hbracket : ∀ c ∈ (") AS scope WHERE 1 = 1".toList ++ (conditionsText cs).toList).head?,
      isSeparator c = true := forall_mem_head (by decide)
  rw [toList_wrapBase_append, placeholders_closed_append (by decide) (by decide),
    placeholders_append_seam hlive hbracket, placeholders_closed_append (by decide) (by decide),
    placeholders_conditionsText h]

/-- Behind a comment that is open the conditions have none. -/
theorem placeholders_commented_scope (h : ∀ c ∈ cs, c.Kept p)
    (hcomment : after .code (bareBase base).toList = .lineComment) :
    placeholders ((wrapBase base).toList ++ (conditionsText cs).toList)
      = placeholders (bareBase base).toList := by
  have hopen : isLive (after .code (bareBase base).toList) = false := by rw [hcomment]; rfl
  have hrest : IsEnclosed (" AS scope WHERE 1 = 1".toList ++ (conditionsText cs).toList) :=
    IsEnclosed.append (by decide) (isEnclosed_conditionsText h)
  rw [toList_wrapBase_append, placeholders_closed_append (by decide) (by decide)]
  exact placeholders_append_enclosed hopen (by decide) (by decide) hrest

end

/-! ## Plans -/

namespace Plan

/-- These are the placeholders of both statements of a plan. -/
structure HasPlaceholders (plan : Plan) (names : List String) : Prop where
  data : placeholders plan.data.toList = names
  count : placeholders plan.count.toList = names

/-- Orders, limits and the count bring no placeholders. -/
theorem exists_hasPlaceholders {cap : Option UInt64} {d : Descriptor} {extra : Parameters}
    {plan : Plan} (h : build .builtin cap d base extra = .ok plan) :
    ∃ cs : List Condition,
      (cs.map fun c => c.filter.column) = d.filters.map PropertyFilter.column ∧
      (∀ c ∈ cs, c.Kept plan.parameters) ∧
      plan.HasPlaceholders
        (placeholders ((wrapBase base).toList ++ (conditionsText cs).toList)) := by
  obtain ⟨cs, hcs, hkept, horders, hdata, hcount⟩ := exists_texts h
  have hcore : placeholders (wrapBase base ++ conditionsText cs ++ orderText d.orders).toList
      = placeholders ((wrapBase base).toList ++ (conditionsText cs).toList) := by
    rw [String.toList_append, placeholders_append_inert _ (isInert_orderText horders),
      String.toList_append]
  refine ⟨cs, ?_, hkept, ⟨?_, ?_⟩⟩
  · rw [← hcs.filters, List.map_map]
    rfl
  · rw [hdata, ← String.append_assoc, String.toList_append,
      placeholders_append_inert _ (isInert_windowText _), hcore]
  · rw [hcount]
    show placeholders ("SELECT COUNT(1) FROM (" ++ _ ++ ") AS c").toList = _
    have hback : IsInert (") AS c").toList := ⟨by decide, forall_mem_head (by decide)⟩
    rw [String.toList_append, placeholders_append_inert _ hback, String.toList_append,
      placeholders_closed_append (by decide) (by decide), hcore]

/-- **When all that a plan puts behind its base query is live.**  Of a base query that ends outside
quotes and comments, what stands in the brackets ends so too, unless it leaves a comment open whose
line was ended by the line break that was taken away.  In the first case the brackets leave nothing
open, and both statements have the placeholders of the filters behind those of the base query.  In
the second one the comment goes on behind the brackets, and no filter has a placeholder. -/
theorem wrapped_live (h : isLive (after .code base.toList) = true) :
    (isLive (after .code (bareBase base).toList) = true ↔
      after .code (bareBase base).toList ≠ .lineComment) ∧
    (after .code (bareBase base).toList ≠ .lineComment →
      after .code (wrapBase base).toList = .code ∧
        ∀ (cap : Option UInt64) (d : Descriptor) (extra : Parameters) (plan : Plan),
          build .builtin cap d base extra = .ok plan →
            plan.HasPlaceholders (placeholders (bareBase base).toList
              ++ d.filters.map PropertyFilter.column)) ∧
    (after .code (bareBase base).toList = .lineComment →
      after .code (wrapBase base).toList = .lineComment ∧
        ∀ (cap : Option UInt64) (d : Descriptor) (extra : Parameters) (plan : Plan),
          build .builtin cap d base extra = .ok plan →
            plan.HasPlaceholders (placeholders (bareBase base).toList)) := by
  refine ⟨live_bareBase_iff h, fun hne => ?_, fun hcomment => ?_⟩
  · have hlive := (live_bareBase_iff h).2 hne
    refine ⟨after_wrapBase_of_live hlive, fun cap d extra plan hplan => ?_⟩
    obtain ⟨cs, hcolumns, hkept, hnames⟩ := exists_hasPlaceholders hplan
    rw [placeholders_scope hkept hlive, hcolumns] at hnames
    exact hnames
  · refine ⟨after_wrapBase_of_comment hcomment, fun cap d extra plan hplan => ?_⟩
    obtain ⟨cs, -, hkept, hnames⟩ := exists_hasPlaceholders hplan
    rw [placeholders_commented_scope hkept hcomment] at hnames
    exact hnames

/-- A comment whose line ends inside the base query is none of what follows the brackets. -/
theorem wrapped_live_semicolon :
    isLive (after .code "SELECT * FROM sales -- all\n WHERE store = :store;\n".toList) = true ∧
    after .code (wrapBase "SELECT * FROM sales -- all\n WHERE store = :store;\n").toList = .code ∧
    ∃ plan : Plan,
      build .builtin none { filters := [⟨"quantity", "qty", "equals", .integer 1⟩] }
        "SELECT * FROM sales -- all\n WHERE store = :store;\n" .empty = .ok plan ∧
      plan.HasPlaceholders ["store", "qty"] := by
  have hlive : isLive (after .code
      "SELECT * FROM sales -- all\n WHERE store = :store;\n".toList) = true := rfl
  have hbare : after .code
      (bareBase "SELECT * FROM sales -- all\n WHERE store = :store;\n").toList ≠ .lineComment := by
    decide
  obtain ⟨hcode, hnames⟩ := (wrapped_live hlive).2.1 hbare
  have h : build .builtin none { filters := [⟨"quantity", "qty", "equals", .integer 1⟩] }
      "SELECT * FROM sales -- all\n WHERE store = :store;\n" .empty = .ok _ := rfl
  exact ⟨hlive, hcode, _, h, hnames none _ .empty _ h⟩

/-- The same comment at the end of a base query: it ends with its line, which the brackets do not
have, and the condition is part of it. -/
theorem wrapped_live_comment :
    isLive (after .code "SELECT * FROM sales -- all\n;".toList) = true ∧
    isLive (after .code (bareBase "SELECT * FROM sales -- all\n;").toList) = false ∧
    ∃ plan : Plan,
      build .builtin none { filters := [⟨"quantity", "qty", "equals", .integer 1⟩] }
        "SELECT * FROM sales -- all\n;" .empty = .ok plan ∧
      plan.data = "SELECT * FROM (SELECT * FROM sales -- all) AS scope WHERE 1 = 1" ++
        " AND qty = :qty" ∧
      Dialect.sqlite.bind plan.data plan.parameters = .ok ⟨plan.data, []⟩ :=
  ⟨rfl, rfl, _, rfl, rfl, rfl⟩

end Plan

end TableQuery
