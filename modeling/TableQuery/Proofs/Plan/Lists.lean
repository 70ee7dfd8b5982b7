import TableQuery.Proofs.Plan.Operands

/-!
# Lists in bound statements

A filter that asks for one of several values has a placeholder for each of them between its brackets.
Their numbers are the positions of the values in the statement, which stand there in the order of the
list, behind the values of the base query and those of the filters before it.  Where the base query
leaves something open, the filter stays a part of that, and nothing of the list is bound.

* `Conditions.exists_split`, `filledConditions_append` — the conditions around one of them;
* `memberText` — the condition with its placeholders;
* `listed`, `unlisted` — a bound statement with the list, and one that leaves it out;
* `Plan.BindsList`, `Plan.bind_list` — both statements of a plan.
-/

namespace TableQuery

open Lexical

/-! ## Conditions in two parts -/

section

variable {r : Registry} {front back : List PropertyFilter} {f : PropertyFilter}
  {cs : List Condition}

theorem Conditions.exists_split (h : Conditions r (front ++ f :: back) cs) :
    ∃ before op behind, cs = before ++ ⟨f, op⟩ :: behind ∧ r.lookup f.operation = .ok op ∧
      Conditions r front before ∧ Conditions r back behind := by
  obtain ⟨before, rest, rfl, hfront, hrest⟩ := List.map_eq_append_iff.1 h.filters
  obtain ⟨⟨f', op⟩, behind, rfl, hf, hback⟩ := List.map_eq_cons_iff.1 hrest
  obtain rfl : f' = f := hf
  have hlookup := List.forall_mem_append.1 h.lookup
  have hcolumn := List.forall_mem_append.1 h.column
  rw [List.forall_mem_cons] at hlookup hcolumn
  exact ⟨before, op, behind, rfl, hlookup.2.1, ⟨hfront, hlookup.1, hcolumn.1⟩,
    ⟨hback, hlookup.2.2, hcolumn.2.2⟩⟩

theorem conditionsText_append (cs cs' : List Condition) :
    conditionsText (cs ++ cs') = conditionsText cs ++ conditionsText cs' := by
  induction cs with
  | nil => rw [List.nil_append, conditionsText, String.empty_append]
  | cons c cs ih =>
    rw [List.cons_append, conditionsText, ih, conditionsText]
    simp only [String.append_assoc]

/-- The second part stands behind the values of the first one. -/
theorem filledConditions_append (dialect : Dialect) (bound : Nat) (cs cs' : List Condition) :
    filledConditions dialect bound (cs ++ cs') = filledConditions dialect bound cs
      ++ filledConditions dialect (bound + (cs.flatMap fun c => c.value.operands).length) cs' := by
  induction cs generalizing bound with
  | nil => rw [List.nil_append, filledConditions, String.empty_append]; rfl
  | cons c cs ih =>
    rw [List.cons_append, filledConditions, ih, filledConditions, List.flatMap_cons,
      List.length_append]
    simp only [String.append_assoc, Nat.add_assoc]

end

/-! ## The condition of a list -/

/-- The condition that a column has one of so many values, where so many are bound before them. -/
def memberText (dialect : Dialect) (column : String) (bound count : Nat) : String :=
  column ++ " IN (" ++ dialect.spelled (List.range' (bound + 1) count) ++ ")"

/-- The condition of a list has a placeholder for each of its values. -/
theorem numbered_list (dialect : Dialect) {property column : String} {vs : List Value}
    (hcolumn : isIdentifier column = true) (bound : Nat) :
    (Condition.mk ⟨property, column, "in", .list vs⟩ .oneOf).numbered dialect bound vs.length
      = memberText dialect column bound vs.length := by
  refine String.toList_inj.1 ?_
  rw [Condition.numbered, Condition.filled, String.toList_ofList, Condition.fragment,
    (Operator.places_oneOf hcolumn).replace_fragment, memberText]
  simp only [String.toList_append, List.append_assoc]

/-! ## Statements with a list -/

/-- A base query in its brackets, with conditions and clauses behind it. -/
def scopeText (bare conditions clauses : String) : String :=
  "SELECT * FROM (" ++ bare ++ ") AS scope WHERE 1 = 1" ++ conditions ++ clauses

/-- A bound statement with a condition on a list among others: the values of the list stand at the
positions of its placeholders. -/
def listed (dialect : Dialect) (front : List Condition) (column : String) (vs : List Value)
    (back : List Condition) (clauses : String) (bare : BoundStatement) : BoundStatement :=
  let before := bare.values ++ front.flatMap fun c => c.value.operands
  ⟨scopeText bare.sql
      (filledConditions dialect bare.values.length front
        ++ " AND " ++ memberText dialect column before.length vs.length
        ++ filledConditions dialect (before.length + vs.length) back) clauses,
    before ++ vs ++ back.flatMap fun c => c.value.operands⟩

/-- A bound statement whose conditions are left as they were, and have no values. -/
def unlisted (front : List Condition) (column : String) (back : List Condition) (clauses : String)
    (bare : BoundStatement) : BoundStatement :=
  ⟨scopeText bare.sql
      (conditionsText front ++ " AND " ++ (column ++ " IN (:" ++ column ++ ")")
        ++ conditionsText back) clauses,
    bare.values⟩

/-- The statement that counts the rows of a bound one. -/
def BoundStatement.counted (b : BoundStatement) : BoundStatement := ⟨countText b.sql, b.values⟩

section

variable (dialect : Dialect) {p : Parameters} {base clauses property column : String}
  {vs : List Value} {front back : List Condition}

/-- The conditions behind a bound base query, with the one of a list among them. -/
theorem listed_eq (hcolumn : isIdentifier column = true) (bare : BoundStatement) :
    listed dialect front column vs back clauses bare =
      ⟨scopeText bare.sql (filledConditions dialect bare.values.length
          (front ++ ⟨⟨property, column, "in", .list vs⟩, .oneOf⟩ :: back)) clauses,
        bare.values ++ (front ++ ⟨⟨property, column, "in", .list vs⟩, .oneOf⟩ :: back).flatMap
          fun c => c.value.operands⟩ := by
  have hoperands : (Condition.mk ⟨property, column, "in", .list vs⟩ .oneOf).value.operands = vs :=
    rfl
  simp only [listed, filledConditions_append, filledConditions, List.flatMap_append,
    List.flatMap_cons, hoperands, numbered_list dialect hcolumn, List.length_append,
    List.append_assoc, String.append_assoc]

theorem unlisted_eq (bare : BoundStatement) :
    unlisted front column back clauses bare =
      ⟨scopeText bare.sql (conditionsText
          (front ++ ⟨⟨property, column, "in", .list vs⟩, .oneOf⟩ :: back)) clauses,
        bare.values⟩ := by
  have hfragment : (Condition.mk ⟨property, column, "in", .list vs⟩ .oneOf).fragment
      = column ++ " IN (:" ++ column ++ ")" := rfl
  simp only [unlisted, conditionsText_append, conditionsText, hfragment, String.append_assoc]

/-- The condition of a list among others, where the base query is live. -/
theorem bind_listed
    (h : ∀ c ∈ front ++ ⟨⟨property, column, "in", .list vs⟩, .oneOf⟩ :: back, c.Kept p)
    (hlive : isLive (after .code (bareBase base).toList) = true)
    (hclauses : IsInert clauses.toList) :
    dialect.bind (wrapBase base
        ++ conditionsText (front ++ ⟨⟨property, column, "in", .list vs⟩, .oneOf⟩ :: back)
        ++ clauses) p
      = (dialect.bind (bareBase base) p).map (listed dialect front column vs back clauses) := by
  have hcolumn : isIdentifier column = true :=
    (h _ (List.mem_append_right _ List.mem_cons_self)).column
  rw [bind_conditions dialect h hlive hclauses]
  exact congrArg (fun f => (dialect.bind (bareBase base) p).map f)
    (funext (listed_eq dialect hcolumn)).symm

/-- The condition of a list among others, where the base query leaves something open. -/
theorem bind_unlisted
    (h : ∀ c ∈ front ++ ⟨⟨property, column, "in", .list vs⟩, .oneOf⟩ :: back, c.Kept p)
    (hopen : isLive (after .code (bareBase base).toList) = false)
    (hclauses : IsEnclosed clauses.toList) :
    dialect.bind (wrapBase base
        ++ conditionsText (front ++ ⟨⟨property, column, "in", .list vs⟩, .oneOf⟩ :: back)
        ++ clauses) p
      = (dialect.bind (bareBase base) p).map (unlisted front column back clauses) := by
  rw [bind_open dialect h hopen hclauses]
  exact congrArg (fun f => (dialect.bind (bareBase base) p).map f) (funext unlisted_eq).symm

end

namespace Plan

/-- What both statements of a plan come to that has a condition on a list among its conditions.
Where the base query is live, they bind the values of the list; otherwise they bind no value of any
condition, and the placeholder of the list stays as it is. -/
structure BindsList (plan : Plan) (dialect : Dialect) (base : String) (front : List Condition)
    (column : String) (vs : List Value) (back : List Condition) (orders window : String) :
    Prop where
  live (h : isLive (after .code (bareBase base).toList) = true) :
    dialect.bind plan.data plan.parameters
        = (dialect.bind (bareBase base) plan.parameters).map
            (listed dialect front column vs back (orders ++ window)) ∧
      dialect.bind plan.count plan.parameters
        = (dialect.bind (bareBase base) plan.parameters).map fun bare =>
            (listed dialect front column vs back orders bare).counted
  left (h : isLive (after .code (bareBase base).toList) = false) :
    dialect.bind plan.data plan.parameters
        = (dialect.bind (bareBase base) plan.parameters).map
            (unlisted front column back (orders ++ window)) ∧
      dialect.bind plan.count plan.parameters
        = (dialect.bind (bareBase base) plan.parameters).map fun bare =>
            (unlisted front column back orders bare).counted

/-- **The list of a filter** in both statements of a plan. -/
theorem bind_list {cap : Option UInt64} {d : Descriptor} {base : String} {extra : Parameters}
    {plan : Plan} (h : build .builtin cap d base extra = .ok plan) {property column : String}
    {vs : List Value} {front back : List PropertyFilter}
    (hfilters : d.filters = front ++ ⟨property, column, "in", .list vs⟩ :: back) :
    ∃ before behind : List Condition, Conditions .builtin front before ∧
      Conditions .builtin back behind ∧ ∀ dialect : Dialect,
        plan.BindsList dialect base before column vs behind (orderText d.orders)
          (windowText (d.windowCapped cap)) := by
  obtain ⟨cs, hcs, hkept, horders, hdata, hcount⟩ := exists_texts h
  rw [hfilters] at hcs
  obtain ⟨before, op, behind, rfl, hlookup, hbefore, hbehind⟩ := hcs.exists_split
  have hin : Registry.builtin.lookup "in" = .ok .oneOf := rfl
  obtain rfl : op = .oneOf := Except.ok.inj (hlookup.symm.trans hin)
  have hinert := isInert_clauses horders (d.windowCapped cap)
  have hclauses := isEnclosed_clauses horders (d.windowCapped cap)
  have horder := isEnclosed_of_clausePart (isClausePart_orderText horders)
  refine ⟨before, behind, hbefore, hbehind, fun dialect => ⟨fun hlive => ?_, fun hopen => ?_⟩⟩
  · rw [hdata, hcount, bind_countText, bind_listed dialect hkept hlive hinert,
      bind_listed dialect hkept hlive (isInert_orderText horders)]
    refine ⟨rfl, ?_⟩
    cases dialect.bind (bareBase base) plan.parameters <;> rfl
  · rw [hdata, hcount, bind_countText, bind_unlisted dialect hkept hopen hclauses,
      bind_unlisted dialect hkept hopen horder]
    refine ⟨rfl, ?_⟩
    cases dialect.bind (bareBase base) plan.parameters <;> rfl

end Plan

end TableQuery
