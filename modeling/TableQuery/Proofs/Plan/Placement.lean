import TableQuery.Proofs.Operators
import TableQuery.Proofs.Plan.Clauses
import TableQuery.Proofs.Plan.Conditions

/-!
# Every value reaches its own placeholder

The statement of a plan has the placeholders of its base query first, and then one for each filter.
A filter names its placeholder after its column, and its value is kept under the same name; the
numbers are given to the placeholders later, when the statement is bound.  This file follows a value
through both: the filters keep their order, and each gets the positions behind those before it.

* `Condition.filled`, `filledConditions` — conditions with numbers in place of their names;
* `fill_condition` — one condition; `fill_conditions` — all of them, by induction;
* `Condition.CarriedBy` — the numbers of a condition are the positions of its values;
* `Plan.exists_texts` — the parts of both statements;
* `Plan.bind_data_eq_placed` — the whole statement.
-/

namespace TableQuery

open Lexical

/-! ## Conditions with numbers -/

/-- The condition with this text in place of its placeholder. -/
def Condition.filled (c : Condition) (slots : String) : String :=
  String.ofList
    (Text.replaceFirst (':' :: c.filter.column.toList) slots.toList c.fragment.toList)

/-- The condition with the placeholders of the next numbers after `bound`, spelled out, in place of
its own. -/
def Condition.numbered (dialect : Dialect) (bound count : Nat) (c : Condition) : String :=
  c.filled (dialect.spelled (List.range' (bound + 1) count))

/-- Conditions as they stand in a bound statement, behind so many values: each one takes the
positions of its own values, and the next one those behind them. -/
def filledConditions (dialect : Dialect) : Nat → List Condition → String
  | _, [] => ""
  | bound, c :: cs =>
    " AND " ++ c.numbered dialect bound c.value.operands.length
      ++ filledConditions dialect (bound + c.value.operands.length) cs

/-- The condition calls an operator of the library on an identifier, and its value is kept under
this name. -/
structure Condition.Kept (p : Parameters) (c : Condition) : Prop where
  operator : c.operator ∈ Operator.builtins
  column : isIdentifier c.filter.column = true
  value : p.get? c.filter.column = some c.value

section

variable (dialect : Dialect) {p : Parameters}

/-- **One condition** takes the values of its filter and no other, at the next positions. -/
theorem fill_condition {c : Condition} (h : c.Kept p) (n : Nat) :
    dialect.fill p n (scan .code (" AND " ++ c.fragment).toList)
      = .ok ((" AND " ++ c.numbered dialect n c.value.operands.length).toList,
          c.value.operands) := by
  obtain ⟨front, back, hplaces⟩ := Operator.builtin_places h.operator h.column
  have hscan : scan .code (" AND " ++ c.fragment).toList
      = (" AND ".toList ++ front).map .char
        ++ .placeholder c.filter.column :: back.map .char := by
    rw [String.toList_append, scan_closed_append (by decide) (by decide), List.map_append,
      List.append_assoc, Condition.fragment, hplaces.scan_fragment h.column]
  have hfilled : (c.numbered dialect n c.value.operands.length).toList
      = front ++ (dialect.slots n c.value.operands.length).toList ++ back := by
    rw [Condition.numbered, ← Dialect.slots_eq_spelled, Condition.filled, String.toList_ofList,
      Condition.fragment, hplaces.replace_fragment]
  rw [hscan, Dialect.fill_chars_append, Dialect.fill_placeholder _ _ h.value, Dialect.fill_chars,
    String.toList_append, hfilled]
  simp only [Except.map, List.append_assoc, List.append_nil]

/-- A condition leaves nothing open. -/
theorem live_condition {c : Condition} (h : c.Kept p) :
    isLive (after .code (" AND " ++ c.fragment).toList) = true := by
  obtain ⟨front, back, hplaces⟩ := Operator.builtin_places h.operator h.column
  have hand : after .code " AND ".toList = .code := by decide
  rw [String.toList_append, after_append, hand]
  exact hplaces.live_fragment h.column

/-- Conditions begin with a blank. -/
theorem head_conditionsText (cs : List Condition) :
    ∀ c ∈ (conditionsText cs).toList.head?, isSeparator c = true := by
  cases cs with
  | nil => simp [conditionsText]
  | cons c cs =>
    have hhead : (conditionsText (c :: cs)).toList
        = ' ' :: ("AND ".toList ++ (c.fragment.toList ++ (conditionsText cs).toList)) := by
      simp only [conditionsText, String.toList_append, List.append_assoc]
      rfl
    rw [hhead]
    exact forall_mem_head (by decide)

/-- Conditions end nothing that is open before them. -/
theorem isEnclosed_conditionsText {cs : List Condition} (h : ∀ c ∈ cs, c.Kept p) :
    IsEnclosed (conditionsText cs).toList := by
  induction cs with
  | nil => exact isEnclosed_of_forall nofun
  | cons c cs ih =>
    rw [List.forall_mem_cons] at h
    have hfragment := Operator.isEnclosed_fragment h.1.operator h.1.column
    simp only [conditionsText, String.toList_append]
    exact (IsEnclosed.append (by decide) hfragment).append (ih h.2)

/-- **All conditions**, by induction: each one is closed, so the next one is read as if it stood
alone, behind the values of those before it. -/
theorem fill_conditions {cs : List Condition} (h : ∀ c ∈ cs, c.Kept p) (n : Nat) :
    dialect.fill p n (scan .code (conditionsText cs).toList)
      = .ok ((filledConditions dialect n cs).toList, cs.flatMap fun c => c.value.operands) := by
  induction cs generalizing n with
  | nil => rfl
  | cons c cs ih =>
    rw [List.forall_mem_cons] at h
    obtain ⟨hc, hcs⟩ := h
    rw [conditionsText, String.toList_append,
      scan_append_seam (live_condition hc) (head_conditionsText cs), Dialect.fill_append,
      fill_condition dialect hc]
    simp only [Except.bind, ih hcs, Except.map]
    rw [filledConditions, ← String.toList_append, List.flatMap_cons]

/-- The text between the base query and the conditions. -/
theorem fill_scope {cs : List Condition} (h : ∀ c ∈ cs, c.Kept p) (n : Nat) :
    dialect.fill p n (scan .code (") AS scope WHERE 1 = 1" ++ conditionsText cs).toList)
      = .ok ((") AS scope WHERE 1 = 1" ++ filledConditions dialect n cs).toList,
          cs.flatMap fun c => c.value.operands) := by
  rw [String.toList_append, scan_closed_append (by decide) (by decide), Dialect.fill_chars_append,
    fill_conditions dialect h, String.toList_append]
  rfl

/-- The base query in its brackets with the conditions behind it. -/
theorem bind_scope {bare : String} {cs : List Condition} (h : ∀ c ∈ cs, c.Kept p)
    (hlive : isLive (after .code bare.toList) = true) :
    dialect.bind (bare ++ (") AS scope WHERE 1 = 1" ++ conditionsText cs)) p
      = (dialect.bind bare p).map fun b =>
          ⟨b.sql ++ (") AS scope WHERE 1 = 1" ++ filledConditions dialect b.values.length cs),
            b.values ++ cs.flatMap fun c => c.value.operands⟩ := by
  refine dialect.bind_append_seam p hlive ?_ (fill_scope dialect h)
  rw [String.toList_append]
  exact forall_mem_head (by decide)

end

/-! ## The whole statement -/

theorem wrapBase_eq (base : String) :
    wrapBase base = "SELECT * FROM (" ++ bareBase base ++ ") AS scope WHERE 1 = 1" := rfl

/-- A statement with conditions and inert clauses around a closed base query. -/
theorem bind_conditions (dialect : Dialect) {p : Parameters} {base clauses : String}
    {cs : List Condition} (h : ∀ c ∈ cs, c.Kept p)
    (hlive : isLive (after .code (bareBase base).toList) = true)
    (hclauses : IsInert clauses.toList) :
    dialect.bind (wrapBase base ++ conditionsText cs ++ clauses) p
      = (dialect.bind (bareBase base) p).map fun b =>
          ⟨"SELECT * FROM (" ++ b.sql ++ ") AS scope WHERE 1 = 1"
              ++ filledConditions dialect b.values.length cs ++ clauses,
            b.values ++ cs.flatMap fun c => c.value.operands⟩ := by
  have htext : wrapBase base ++ conditionsText cs ++ clauses
      = "SELECT * FROM (" ++ (bareBase base ++ (") AS scope WHERE 1 = 1" ++ conditionsText cs))
        ++ clauses := by
    rw [wrapBase_eq]
    simp only [String.append_assoc]
  rw [htext, dialect.bind_framed _ _ _ _ (by decide) (by decide) hclauses,
    bind_scope dialect h hlive]
  cases dialect.bind (bareBase base) p with
  | error e => rfl
  | ok b => simp only [Except.map, String.append_assoc]

/-! ## Positions -/

/-- In the bound statement the placeholders of the condition carry its values: their numbers are
the positions at which these values stand. -/
def Condition.CarriedBy (dialect : Dialect) (b : BoundStatement) (c : Condition) : Prop :=
  ∃ (front back : String) (before behind : List Value),
    b.sql = front ++ c.numbered dialect before.length c.value.operands.length ++ back ∧
    b.values = before ++ c.value.operands ++ behind

/-- Conditions behind so many values give each of their values to its own placeholder, by induction
on the conditions: what the first one takes stands before the others. -/
theorem filledConditions_carried (dialect : Dialect) {cs : List Condition} (front back : String)
    (before : List Value) :
    ∀ c ∈ cs, c.CarriedBy dialect
      ⟨front ++ filledConditions dialect before.length cs ++ back,
        before ++ cs.flatMap fun c => c.value.operands⟩ := by
  induction cs generalizing front before with
  | nil => simp
  | cons c cs ih =>
    rw [List.forall_mem_cons]
    constructor
    · refine ⟨front ++ " AND ",
        filledConditions dialect (before.length + c.value.operands.length) cs ++ back, before,
        cs.flatMap fun c => c.value.operands, ?_, ?_⟩
      · simp only [filledConditions, String.append_assoc]
      · simp only [List.flatMap_cons, List.append_assoc]
    · -- the first condition and its values go to the front of the others
      have hrest := ih
        (front ++ (" AND " ++ c.numbered dialect before.length c.value.operands.length))
        (before ++ c.value.operands)
      simp only [List.length_append, List.append_assoc, String.append_assoc] at hrest
      simpa only [filledConditions, List.flatMap_cons, String.append_assoc] using hrest

namespace Plan

/-- The parts of both statements of a plan: the base query, a condition for each filter, and
clauses. -/
theorem exists_texts {cap : Option UInt64} {d : Descriptor} {base : String} {extra : Parameters}
    {plan : Plan} (h : build .builtin cap d base extra = .ok plan) :
    ∃ cs : List Condition, Conditions .builtin d.filters cs ∧
      (∀ c ∈ cs, c.Kept plan.parameters) ∧ (∀ o ∈ d.orders, isIdentifier o.1 = true) ∧
      plan.data = wrapBase base ++ conditionsText cs
        ++ (orderText d.orders ++ windowText (d.windowCapped cap)) ∧
      plan.count = countText (wrapBase base ++ conditionsText cs ++ orderText d.orders) := by
  obtain ⟨draft, hdraft, rfl⟩ := build_eq_ok h
  obtain ⟨cs, hfilters, hcs, horders, htext⟩ := core_eq_ok hdraft
  refine ⟨cs, ⟨hfilters, fun c hc => (hcs c hc).1, fun c hc => (hcs c hc).2.1⟩, ?_, horders, ?_, ?_⟩
  · exact fun c hc => ⟨Registry.mem_builtins (hcs c hc).1, (hcs c hc).2.1, (hcs c hc).2.2⟩
  · show draft.text ++ windowText (d.windowCapped cap) = _
    rw [htext, String.append_assoc]
  · show countText draft.text = _
    rw [htext]

/-- **Every value reaches its own placeholder.**  If the base query ends outside quotes and
comments, the statement of a page fails to be bound just if the base query does, and with the same
error.  Otherwise it takes the values of the base query, and then those of each filter in turn, at
the positions that stand in the filter's own condition. -/
theorem bind_data_eq_placed {cap : Option UInt64} {d : Descriptor} {base : String}
    {extra : Parameters} {plan : Plan} (h : build .builtin cap d base extra = .ok plan)
    (hlive : isLive (after .code (bareBase base).toList) = true) :
    ∃ cs : List Condition,
      cs.map Condition.filter = d.filters ∧
      (∀ c ∈ cs, Registry.builtin.lookup c.filter.operation = .ok c.operator) ∧
      ∀ dialect : Dialect,
        dialect.bind plan.data plan.parameters
            = (dialect.bind (bareBase base) plan.parameters).map (fun b =>
                ⟨"SELECT * FROM (" ++ b.sql ++ ") AS scope WHERE 1 = 1"
                    ++ filledConditions dialect b.values.length cs
                    ++ (orderText d.orders ++ windowText (d.windowCapped cap)),
                  b.values ++ cs.flatMap fun c => c.value.operands⟩) ∧
        ∀ b, dialect.bind plan.data plan.parameters = .ok b →
          ∀ c ∈ cs, c.CarriedBy dialect b := by
  obtain ⟨draft, hdraft, rfl⟩ := build_eq_ok h
  obtain ⟨cs, hfilters, hcs, horders, htext⟩ := core_eq_ok hdraft
  have hkept : ∀ c ∈ cs, c.Kept draft.parameters := fun c hc =>
    ⟨Registry.mem_builtins (hcs c hc).1, (hcs c hc).2.1, (hcs c hc).2.2⟩
  have hclauses : IsInert (orderText d.orders ++ windowText (d.windowCapped cap)).toList := by
    rw [String.toList_append]
    exact (isInert_orderText horders).append (isInert_windowText _)
  have hdata : (ofCore draft (d.windowCapped cap)).data
      = wrapBase base ++ conditionsText cs
        ++ (orderText d.orders ++ windowText (d.windowCapped cap)) := by
    show draft.text ++ windowText (d.windowCapped cap) = _
    rw [htext, String.append_assoc]
  refine ⟨cs, hfilters, fun c hc => (hcs c hc).1, fun dialect => ?_⟩
  have hbind := bind_conditions dialect hkept hlive hclauses
  rw [← hdata] at hbind
  refine ⟨hbind, fun b hb => ?_⟩
  obtain ⟨bare, -, rfl⟩ := Outcome.map_eq_ok.1 (hbind.symm.trans hb)
  exact filledConditions_carried dialect _ _ bare.values

set_option maxRecDepth 2000 in
/-- The value of the base query comes first, then one beside quoted literals, none for an empty list,
which is `NULL`, and then the two of a list. -/
theorem bind_data_eq_placed_list :
    ∃ (plan : Plan) (cs : List Condition) (b : BoundStatement),
      build .builtin none
          { filters := [⟨"name", "item", "contains", .text "Cap"⟩, ⟨"size", "size", "in", .list []⟩,
              ⟨"color", "color", "in", .list [.integer 3, .integer 4]⟩] }
          "SELECT * FROM sales WHERE store = :store;" (Keyed.empty.insert "store" (.text "c:a"))
        = .ok plan ∧
      isLive (after .code (bareBase "SELECT * FROM sales WHERE store = :store;").toList) = true ∧
      cs.map Condition.filter = [⟨"name", "item", "contains", .text "Cap"⟩,
        ⟨"size", "size", "in", .list []⟩,
        ⟨"color", "color", "in", .list [.integer 3, .integer 4]⟩] ∧
      Dialect.postgres.bind plan.data plan.parameters = .ok b ∧
      b.sql = "SELECT * FROM (SELECT * FROM sales WHERE store = $1) AS scope WHERE 1 = 1" ++
        " AND item LIKE \x27%\x27 || $2 || \x27%\x27 AND size IN (NULL) AND color IN ($3, $4)" ∧
      b.values = [.text "c:a", .text "Cap", .integer 3, .integer 4] ∧
      ∀ c ∈ cs, c.CarriedBy .postgres b := by
  have h : build .builtin none
      { filters := [⟨"name", "item", "contains", .text "Cap"⟩, ⟨"size", "size", "in", .list []⟩,
          ⟨"color", "color", "in", .list [.integer 3, .integer 4]⟩] }
      "SELECT * FROM sales WHERE store = :store;" (Keyed.empty.insert "store" (.text "c:a"))
      = .ok _ := rfl
  have hlive : isLive (after .code
      (bareBase "SELECT * FROM sales WHERE store = :store;").toList) = true := rfl
  obtain ⟨cs, hcs, -, hbind⟩ := bind_data_eq_placed h hlive
  obtain ⟨-, hcarried⟩ := hbind .postgres
  refine ⟨_, cs, ⟨_, _⟩, h, hlive, hcs, ?bound, rfl, rfl, hcarried _ ?bound⟩
  rfl

end Plan

end TableQuery
