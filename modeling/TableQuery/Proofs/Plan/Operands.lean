import TableQuery.Proofs.Plan.Placement

/-!
# What filters bring into a statement

A filter takes a placeholder for each operand of its value, and the operator has no say in it: one
that compares with a single value takes several of them for a list, and none for an empty one.

* `Operator.operands_parameter` — no operator of the library changes how many operands there are;
* `Contribution`, `contributions` — what each condition brings into a bound statement, where the
  base query is live and where it leaves something open;
* `bind_contributions` — a bound statement is its base query with these contributions;
* `Condition.TakesOne`, `Plan.scalar_operands` — which filters bring one placeholder and one value.
-/

namespace TableQuery

open Lexical

/-! ## Operands under operators -/

/-- **No operator of the library makes one value out of several.** -/
theorem Operator.operands_parameter {op : Operator} (h : op ∈ builtins) (v : Value) :
    (op.parameter v).operands = v.operands := by
  simp only [builtins, List.mem_cons, List.not_mem_nil, or_false] at h
  rcases h with rfl | rfl | rfl | rfl | rfl | rfl | rfl
  · rfl
  · rfl
  · rfl
  · rfl
  · rfl
  · rfl
  · cases v <;> rfl

theorem Value.length_operands_eq_one_iff {v : Value} :
    v.operands.length = 1 ↔ v.isList = false ∨ ∃ w, v = .list [w] := by
  cases v with
  | list items => simp [operands, isList, List.length_eq_one_iff]
  | _ => simp [operands, isList]

/-! ## Contributions -/

/-- What a condition brings into a bound statement. -/
structure Contribution where
  /-- The text of the condition there. -/
  text : String
  /-- The values of its placeholders. -/
  values : List Value

/-- What a condition brings behind so many values.  Where the text before it is not live, it is part
of what that leaves open. -/
def Condition.contribution (dialect : Dialect) (live : Bool) (bound : Nat) (c : Condition) :
    Contribution :=
  if live then ⟨c.numbered dialect bound c.value.operands.length, c.value.operands⟩
  else ⟨c.fragment, []⟩

/-- What conditions bring, each behind the values of those before it. -/
def contributions (dialect : Dialect) (live : Bool) : Nat → List Condition → List Contribution
  | _, [] => []
  | bound, c :: cs =>
    c.contribution dialect live bound ::
      contributions dialect live (bound + (c.contribution dialect live bound).values.length) cs

/-- The texts of conditions behind a base query. -/
def contributedText : List Contribution → String
  | [] => ""
  | k :: ks => " AND " ++ k.text ++ contributedText ks

section

variable (dialect : Dialect)

theorem contributions_live (bound : Nat) (cs : List Condition) :
    contributedText (contributions dialect true bound cs) = filledConditions dialect bound cs ∧
    (contributions dialect true bound cs).flatMap Contribution.values
      = cs.flatMap fun c => c.value.operands := by
  induction cs generalizing bound with
  | nil => exact ⟨rfl, rfl⟩
  | cons c cs ih =>
    obtain ⟨htext, hvalues⟩ := ih (bound + c.value.operands.length)
    constructor
    · rw [filledConditions, ← htext]
      rfl
    · rw [List.flatMap_cons, ← hvalues]
      rfl

theorem contributions_open (bound : Nat) (cs : List Condition) :
    contributedText (contributions dialect false bound cs) = conditionsText cs ∧
    (contributions dialect false bound cs).flatMap Contribution.values = [] := by
  induction cs generalizing bound with
  | nil => exact ⟨rfl, rfl⟩
  | cons c cs ih =>
    obtain ⟨htext, hvalues⟩ := ih bound
    constructor
    · rw [conditionsText, ← htext]
      rfl
    · rw [contributions, List.flatMap_cons]
      exact hvalues

/-- Behind a base query that leaves something open, the conditions are part of that. -/
theorem bind_open {p : Parameters} {base clauses : String} {cs : List Condition}
    (h : ∀ c ∈ cs, c.Kept p) (hopen : isLive (after .code (bareBase base).toList) = false)
    (hclauses : IsEnclosed clauses.toList) :
    dialect.bind (wrapBase base ++ conditionsText cs ++ clauses) p
      = (dialect.bind (bareBase base) p).map fun b =>
          ⟨"SELECT * FROM (" ++ b.sql ++ ") AS scope WHERE 1 = 1" ++ conditionsText cs ++ clauses,
            b.values⟩ := by
  have hpart : (") AS scope WHERE 1 = 1" ++ conditionsText cs ++ clauses).toList
      = ')' :: (" AS scope WHERE 1 = 1".toList ++ (conditionsText cs).toList
          ++ clauses.toList) := by
    rw [String.toList_append, String.toList_append]
    rfl
  have hrest : IsEnclosed (" AS scope WHERE 1 = 1".toList ++ (conditionsText cs).toList
      ++ clauses.toList) :=
    (IsEnclosed.append (by decide) (isEnclosed_conditionsText h)).append hclauses
  have htext : wrapBase base ++ conditionsText cs ++ clauses
      = "SELECT * FROM ("
        ++ (bareBase base ++ (") AS scope WHERE 1 = 1" ++ conditionsText cs ++ clauses)) ++ "" := by
    rw [wrapBase_eq, String.append_empty]
    simp only [String.append_assoc]
  rw [htext, dialect.bind_framed p _ _ "" (by decide) (by decide) isInert_nil,
    dialect.bind_append_enclosed p hpart hopen (by decide) (by decide) hrest]
  cases dialect.bind (bareBase base) p with
  | error e => rfl
  | ok b => simp only [Except.map, String.append_assoc, String.append_empty]

/-- **A bound statement is its base query with what the conditions bring.** -/
theorem bind_contributions {p : Parameters} {base clauses : String} {cs : List Condition}
    (h : ∀ c ∈ cs, c.Kept p) (hinert : IsInert clauses.toList)
    (hclauses : IsEnclosed clauses.toList) {live : Bool}
    (hlive : isLive (after .code (bareBase base).toList) = live) :
    dialect.bind (wrapBase base ++ conditionsText cs ++ clauses) p
      = (dialect.bind (bareBase base) p).map fun b =>
          ⟨"SELECT * FROM (" ++ b.sql ++ ") AS scope WHERE 1 = 1"
              ++ contributedText (contributions dialect live b.values.length cs) ++ clauses,
            b.values
              ++ (contributions dialect live b.values.length cs).flatMap Contribution.values⟩ := by
  cases live with
  | true => simp only [bind_conditions dialect h hlive hinert, contributions_live]
  | false =>
    simp only [bind_open dialect h hlive hclauses, contributions_open, List.append_nil]

end

/-! ## One placeholder and one value -/

namespace Condition

/-- Behind so many values the condition brings one placeholder, the next one, and one value. -/
def TakesOne (dialect : Dialect) (live : Bool) (bound : Nat) (c : Condition) : Prop :=
  ∃ v, c.contribution dialect live bound = ⟨c.filled (dialect.numbered (bound + 1)), [v]⟩

variable {dialect : Dialect} {live : Bool} {bound : Nat} {c : Condition}

theorem contribution_of_builtin (h : c.operator ∈ Operator.builtins) :
    c.contribution dialect true bound
      = ⟨c.numbered dialect bound c.filter.value.operands.length,
          c.filter.value.operands⟩ := by
  rw [contribution, if_pos rfl, value, Operator.operands_parameter h]

/-- A condition brings one placeholder and one value just if it is live and its filter has one
operand. -/
theorem takesOne_iff (h : c.operator ∈ Operator.builtins) :
    c.TakesOne dialect live bound ↔
      live = true ∧ (c.filter.value.isList = false ∨ ∃ w, c.filter.value = .list [w]) := by
  rw [← Value.length_operands_eq_one_iff]
  cases live with
  | false =>
    refine ⟨?_, fun h => absurd h.1 Bool.false_ne_true⟩
    rintro ⟨v, hv⟩
    cases congrArg Contribution.values hv
  | true =>
    rw [TakesOne, contribution_of_builtin h]
    constructor
    · rintro ⟨v, hv⟩
      have hvalues : c.filter.value.operands = [v] := congrArg Contribution.values hv
      rw [hvalues]
      exact ⟨rfl, rfl⟩
    · rintro ⟨-, hone⟩
      obtain ⟨v, hv⟩ := List.length_eq_one_iff.1 hone
      refine ⟨v, ?_⟩
      rw [hone, hv, numbered, List.range'_one, Dialect.spelled]

end Condition

/-! ## Plans -/

namespace Plan

/-- **What filters bring into the statement of a page.**  The statement is the base query with a
contribution of each filter, in their order.  Where the base query is live, a filter brings the
operands of its value, whatever its operator is, and as many placeholders.  So a filter brings one
placeholder and one value just if its value is no list, or a list of one item, and the base query is
live; where that leaves something open, no filter brings any. -/
theorem scalar_operands {cap : Option UInt64} {d : Descriptor} {base : String} {extra : Parameters}
    {plan : Plan} (h : build .builtin cap d base extra = .ok plan) {live : Bool}
    (hlive : isLive (after .code (bareBase base).toList) = live) :
    ∃ cs : List Condition, Conditions .builtin d.filters cs ∧ ∀ dialect : Dialect,
      dialect.bind plan.data plan.parameters
          = (dialect.bind (bareBase base) plan.parameters).map (fun b =>
              ⟨"SELECT * FROM (" ++ b.sql ++ ") AS scope WHERE 1 = 1"
                  ++ contributedText (contributions dialect live b.values.length cs)
                  ++ (orderText d.orders ++ windowText (d.windowCapped cap)),
                b.values ++ (contributions dialect live b.values.length cs).flatMap
                  Contribution.values⟩) ∧
      ∀ c ∈ cs, ∀ bound,
        c.contribution dialect true bound
            = ⟨c.numbered dialect bound c.filter.value.operands.length,
                c.filter.value.operands⟩ ∧
        (c.TakesOne dialect live bound ↔
          live = true ∧ (c.filter.value.isList = false ∨ ∃ w, c.filter.value = .list [w])) := by
  obtain ⟨cs, hcs, hkept, horders, hdata, -⟩ := exists_texts h
  have hparts : ∀ c ∈ (orderText d.orders ++ windowText (d.windowCapped cap)).toList,
      isClausePart c = true := by
    rw [String.toList_append, List.forall_mem_append]
    exact ⟨isClausePart_orderText horders, isClausePart_windowText _⟩
  have hinert : IsInert (orderText d.orders ++ windowText (d.windowCapped cap)).toList := by
    rw [String.toList_append]
    exact (isInert_orderText horders).append (isInert_windowText _)
  refine ⟨cs, hcs, fun dialect => ⟨?_, fun c hc bound => ⟨?_, ?_⟩⟩⟩
  · rw [hdata]
    exact bind_contributions dialect hkept hinert (isEnclosed_of_clausePart hparts) hlive
  · exact Condition.contribution_of_builtin (hkept c hc).operator
  · exact Condition.takesOne_iff (hkept c hc).operator

set_option maxRecDepth 2000 in
/-- A text and a list of one item take one placeholder each. -/
theorem scalar_operands_single :
    ∃ (plan : Plan) (cs : List Condition),
      build .builtin none
          { filters := [⟨"name", "item", "contains", .text "Cap"⟩,
              ⟨"color", "color", "equals", .list [.integer 3]⟩] }
          "SELECT * FROM sales" .empty = .ok plan ∧
      cs.map Condition.filter = [⟨"name", "item", "contains", .text "Cap"⟩,
        ⟨"color", "color", "equals", .list [.integer 3]⟩] ∧
      (∀ c ∈ cs, ∀ bound, c.TakesOne .postgres true bound) ∧
      Dialect.postgres.bind plan.data plan.parameters
        = .ok ⟨"SELECT * FROM (SELECT * FROM sales) AS scope WHERE 1 = 1" ++
            " AND item LIKE \x27%\x27 || $1 || \x27%\x27 AND color = $2",
          [.text "Cap", .integer 3]⟩ := by
  have h : build .builtin none
      { filters := [⟨"name", "item", "contains", .text "Cap"⟩,
          ⟨"color", "color", "equals", .list [.integer 3]⟩] }
      "SELECT * FROM sales" .empty = .ok _ := rfl
  have hlive : isLive (after .code (bareBase "SELECT * FROM sales").toList) = true := rfl
  obtain ⟨cs, hcs, hparts⟩ := scalar_operands h hlive
  refine ⟨_, cs, h, hcs.filters, fun c hc bound => ?_, rfl⟩
  refine ((hparts .postgres).2 c hc bound).2.2 ⟨rfl, ?_⟩
  have hfilter := List.mem_map_of_mem (f := Condition.filter) hc
  rw [hcs.filters] at hfilter
  rcases List.mem_cons.1 hfilter with hname | hcolor
  · rw [hname]
    exact .inl rfl
  · rw [List.mem_singleton.1 hcolor]
    exact .inr ⟨_, rfl⟩

set_option maxRecDepth 2000 in
/-- Comparisons with a list of two items and with one of none: the first has two placeholders and
two values, and the second none. -/
theorem scalar_operands_list :
    ∃ (plan : Plan) (cs : List Condition),
      build .builtin none
          { filters := [⟨"quantity", "qty", "equals", .list [.integer 1, .integer 2]⟩,
              ⟨"price", "price", "lt", .list []⟩] }
          "SELECT * FROM sales" .empty = .ok plan ∧
      Conditions .builtin [⟨"quantity", "qty", "equals", .list [.integer 1, .integer 2]⟩,
        ⟨"price", "price", "lt", .list []⟩] cs ∧
      Dialect.sqlite.bind plan.data plan.parameters
        = .ok ⟨"SELECT * FROM (SELECT * FROM sales) AS scope WHERE 1 = 1" ++
            " AND qty = ?1, ?2 AND price < NULL", [.integer 1, .integer 2]⟩ ∧
      ∀ c ∈ cs, ∀ bound, ¬ c.TakesOne .sqlite true bound := by
  refine ⟨_, [⟨⟨"quantity", "qty", "equals", .list [.integer 1, .integer 2]⟩,
      .comparison "equals" "="⟩, ⟨⟨"price", "price", "lt", .list []⟩, .comparison "lt" "<"⟩],
    rfl, ⟨rfl, ?_, ?_⟩, rfl, ?_⟩
  · simp only [List.forall_mem_cons]
    exact ⟨rfl, rfl, nofun⟩
  · simp only [List.forall_mem_cons]
    exact ⟨rfl, rfl, nofun⟩
  · simp only [List.forall_mem_cons]
    refine ⟨fun bound h => ?_, fun bound h => ?_, nofun⟩
    · have hone := ((Condition.takesOne_iff (by simp [Operator.builtins])).1 h).2
      simp [Value.isList] at hone
    · have hone := ((Condition.takesOne_iff (by simp [Operator.builtins])).1 h).2
      simp [Value.isList] at hone

end Plan

end TableQuery
