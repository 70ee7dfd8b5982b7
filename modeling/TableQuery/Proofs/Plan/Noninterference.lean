import TableQuery.Plan
import TableQuery.Proofs.Outcome
import TableQuery.Proofs.Statement.Filling

/-!
# No value reaches the text of a statement

Two requests that differ in their values alone give the same statements.  What a value holds
(quotes, colons, marks of comments, lists in lists) is seen neither by the plan nor by the binding:
only whether it is a list, and how long the list is, decides how many placeholders it takes.

* `Value.SameShape`, `AlikeRequests` — requests that differ in values of one shape;
* `AlikeParameters`, `AlikeDrafts` — what two runs have in common halfway;
* `build_alike`, `bind_alike` — the same statements are planned, and filled with the same text;
* `build_bind_alike` — the two runs end with one error or with the same texts.
-/

namespace TableQuery

/-! ## Requests that differ in values -/

/-- Two values that are no lists, or two lists of one length. -/
def Value.SameShape (v w : Value) : Prop :=
  (v.isList = false ∧ w.isList = false) ∨
    ∃ xs ys, v = .list xs ∧ w = .list ys ∧ xs.length = ys.length

theorem Value.operands_of_not_list {v : Value} (h : v.isList = false) : v.operands = [v] := by
  cases v with
  | list items => exact absurd h (by simp [isList])
  | _ => rfl

/-- The shape of a value decides how many placeholders it takes. -/
theorem Value.SameShape.operands_length {v w : Value} (h : v.SameShape w) :
    v.operands.length = w.operands.length := by
  rcases h with ⟨hv, hw⟩ | ⟨xs, ys, rfl, rfl, hlength⟩
  · rw [operands_of_not_list hv, operands_of_not_list hw]
    rfl
  · exact hlength

/-- Two filters that may differ in their values, if their operator binds values of one shape for
them. -/
structure AlikeFilters (r : Registry) (f g : PropertyFilter) : Prop where
  property : f.property = g.property
  column : f.column = g.column
  operation : f.operation = g.operation
  value : ∀ op, r.lookup f.operation = .ok op →
    (op.parameter f.value).SameShape (op.parameter g.value)

/-- Two entries with one key and values of one shape. -/
def AlikeEntries (a b : String × Value) : Prop := a.1 = b.1 ∧ a.2.SameShape b.2

/-- Two requests that may differ in their values, if these are bound as values of one shape. -/
structure AlikeRequests (r : Registry) (d d' : Descriptor) (extra extra' : Parameters) : Prop where
  page : d.page = d'.page
  size : d.size = d'.size
  orders : d.orders = d'.orders
  filters : List.Forall₂ (AlikeFilters r) d.filters d'.filters
  extra : List.Forall₂ AlikeEntries extra.entries extra'.entries

/-! ## The two runs halfway -/

/-- The same names, with values of one shape. -/
def AlikeParameters (p q : Parameters) : Prop :=
  ∀ key, Option.Rel Value.SameShape (p.get? key) (q.get? key)

namespace AlikeParameters

variable {p q : Parameters}

theorem contains_eq (h : AlikeParameters p q) (key : String) :
    p.contains key = q.contains key := by
  have hkey := h key
  rw [Keyed.contains, Keyed.contains]
  cases hp : p.get? key with
  | none =>
    rw [hp] at hkey
    cases hq : q.get? key with
    | none => rfl
    | some w => rw [hq] at hkey; exact absurd hkey (by rintro ⟨⟩)
  | some v =>
    rw [hp] at hkey
    cases hq : q.get? key with
    | none => rw [hq] at hkey; exact absurd hkey (by rintro ⟨⟩)
    | some w => rfl

theorem insert (h : AlikeParameters p q) (key : String) {v w : Value} (hvw : v.SameShape w) :
    AlikeParameters (p.insert key v) (q.insert key w) := by
  intro key'
  rw [Keyed.get?_insert, Keyed.get?_insert]
  split
  · exact .some hvw
  · exact h key'

end AlikeParameters

/-- Drafts with one text and with values of one shape. -/
structure AlikeDrafts (a b : Draft) : Prop where
  text : a.text = b.text
  parameters : AlikeParameters a.parameters b.parameters

theorem withParameter_alike {a b : Draft} (hab : AlikeDrafts a b) (key : String) {v w : Value}
    (hvw : v.SameShape w) : Agree AlikeDrafts (a.withParameter key v) (b.withParameter key w) := by
  rw [Draft.withParameter, Draft.withParameter, hab.parameters.contains_eq key]
  split
  · exact .error _
  · exact .ok ⟨hab.text, hab.parameters.insert key hvw⟩

theorem withFilter_alike (r : Registry) {a b : Draft} (hab : AlikeDrafts a b)
    {f g : PropertyFilter} (hfg : AlikeFilters r f g) :
    Agree AlikeDrafts (a.withFilter r f) (b.withFilter r g) := by
  rw [Draft.withFilter, Draft.withFilter, ← hfg.operation, ← hfg.column]
  cases hop : r.lookup f.operation with
  | error e => exact .error e
  | ok op =>
    refine (Agree.refl (checkIdentifier f.column)).bind fun _ _ _ => ?_
    have htext : a.text ++ " AND " ++ op.fragment f.column
        = b.text ++ " AND " ++ op.fragment f.column := by rw [hab.text]
    exact withParameter_alike (a := ⟨_, a.parameters⟩) (b := ⟨_, b.parameters⟩)
      ⟨htext, hab.parameters⟩ f.column (hfg.value op hop)

/-- **Two runs of the plan.**  They fail with one error, or have the same text before the window. -/
theorem core_alike {r : Registry} {d d' : Descriptor} {extra extra' : Parameters}
    (h : AlikeRequests r d d' extra extra') (base : String) :
    Agree AlikeDrafts (Plan.core r d base extra) (Plan.core r d' base extra') := by
  rw [Plan.core, Plan.core, ← h.orders]
  have hstart : AlikeDrafts ⟨wrapBase base, .empty⟩ ⟨wrapBase base, .empty⟩ :=
    ⟨rfl, fun _ => .none⟩
  have hfilters : Agree AlikeDrafts (d.filters.foldlM (Draft.withFilter r) ⟨wrapBase base, .empty⟩)
      (d'.filters.foldlM (Draft.withFilter r) ⟨wrapBase base, .empty⟩) := by
    have hstep : ∀ a b f g, AlikeDrafts a b → AlikeFilters r f g →
        Agree AlikeDrafts (a.withFilter r f) (b.withFilter r g) :=
      fun _ _ _ _ hab hfg => withFilter_alike r hab hfg
    exact Agree.foldlM hstep h.filters hstart
  refine hfilters.bind fun a b hab => ?_
  have hextra : Agree AlikeDrafts
      (extra.entries.foldlM (fun draft e => draft.withParameter e.1 e.2) a)
      (extra'.entries.foldlM (fun draft e => draft.withParameter e.1 e.2) b) := by
    have hstep : ∀ (a b : Draft) (e e' : String × Value), AlikeDrafts a b → AlikeEntries e e' →
        Agree AlikeDrafts (a.withParameter e.1 e.2) (b.withParameter e'.1 e'.2) := by
      intro a b e e' hab he
      rw [← he.1]
      exact withParameter_alike hab e.1 he.2
    exact Agree.foldlM hstep h.extra hab
  refine hextra.bind fun a b hab => ?_
  refine (Agree.refl (d.orders.forM _)).bind fun _ _ _ => ?_
  exact .ok ⟨by rw [hab.text], hab.parameters⟩

/-- Plans with the same statements and with values of one shape. -/
structure AlikePlans (plan plan' : Plan) : Prop where
  data : plan.data = plan'.data
  count : plan.count = plan'.count
  parameters : AlikeParameters plan.parameters plan'.parameters

theorem build_alike {r : Registry} {d d' : Descriptor} {extra extra' : Parameters}
    (h : AlikeRequests r d d' extra extra') (cap : Option UInt64) (base : String) :
    Agree AlikePlans (Plan.build r cap d base extra) (Plan.build r cap d' base extra') := by
  have hwindow : d.windowCapped cap = d'.windowCapped cap := by
    rw [Descriptor.windowCapped, Descriptor.windowCapped, h.page, h.size]
  rw [Plan.build, Plan.build, hwindow]
  refine (core_alike h base).bind fun a b hab => ?_
  rw [hab.text]
  exact .ok ⟨rfl, rfl, hab.parameters⟩

/-! ## The two bindings -/

/-- **The same pieces are filled with the same text**, and with equally many values. -/
theorem fill_alike (dialect : Dialect) {p q : Parameters} (h : AlikeParameters p q) (n : Nat)
    (pieces : List Piece) :
    Agree (fun a b => a.1 = b.1 ∧ a.2.length = b.2.length) (dialect.fill p n pieces)
      (dialect.fill q n pieces) := by
  induction pieces generalizing n with
  | nil => exact .ok ⟨rfl, rfl⟩
  | cons piece rest ih =>
    cases piece with
    | char c =>
      rw [dialect.fill_char, dialect.fill_char]
      exact (ih n).map fun a b hab => ⟨congrArg (c :: ·) hab.1, hab.2⟩
    | placeholder name =>
      -- the name has a value in both runs or in neither
      have hname := h name
      cases hp : p.get? name with
      | none =>
        rw [hp] at hname
        cases hq : q.get? name with
        | none =>
          rw [dialect.fill_unbound p hp, dialect.fill_unbound q hq]
          exact .error _
        | some w => rw [hq] at hname; exact absurd hname (by rintro ⟨⟩)
      | some v =>
        rw [hp] at hname
        cases hq : q.get? name with
        | none => rw [hq] at hname; exact absurd hname (by rintro ⟨⟩)
        | some w =>
          rw [hq] at hname
          obtain ⟨hvw⟩ := hname
          rw [dialect.fill_placeholder p hp, dialect.fill_placeholder q hq, hvw.operands_length]
          refine (ih _).map fun a b hab => ⟨by rw [hab.1], ?_⟩
          rw [List.length_append, List.length_append, hvw.operands_length, hab.2]

/-- Two bound statements with one text and equally many values. -/
def SameText (a b : BoundStatement) : Prop := a.sql = b.sql ∧ a.values.length = b.values.length

theorem bind_alike (dialect : Dialect) {p q : Parameters} (h : AlikeParameters p q) (sql : String) :
    Agree SameText (dialect.bind sql p) (dialect.bind sql q) := by
  rw [dialect.bind_eq_map, dialect.bind_eq_map]
  exact (fill_alike dialect h 0 _).map fun a b hab => ⟨congrArg String.ofList hab.1, hab.2⟩

/-- Two plans with the same statements, which stay the same when they are bound. -/
structure SameStatements (dialect : Dialect) (plan plan' : Plan) : Prop where
  data : plan.data = plan'.data
  count : plan.count = plan'.count
  bound_data : Agree SameText (dialect.bind plan.data plan.parameters)
    (dialect.bind plan'.data plan'.parameters)
  bound_count : Agree SameText (dialect.bind plan.count plan.parameters)
    (dialect.bind plan'.count plan'.parameters)

/-- **No value reaches the text of a statement.**  Two requests that differ in values of one shape
alone are refused with one error, or are planned and bound with the same texts; what differs is
listed beside the texts, in lists of one length. -/
theorem build_bind_alike (r : Registry) (cap : Option UInt64) (base : String) (dialect : Dialect)
    {d d' : Descriptor} {extra extra' : Parameters} (h : AlikeRequests r d d' extra extra') :
    Agree (SameStatements dialect) (Plan.build r cap d base extra)
      (Plan.build r cap d' base extra') := by
  have hwindow : d.windowCapped cap = d'.windowCapped cap := by
    rw [Descriptor.windowCapped, Descriptor.windowCapped, h.page, h.size]
  rw [Plan.build, Plan.build, hwindow]
  refine (core_alike h base).bind fun a b hab => ?_
  rw [hab.text]
  exact .ok
    { data := rfl
      count := rfl
      bound_data := bind_alike dialect hab.parameters _
      bound_count := bind_alike dialect hab.parameters _ }

/-- Values that would end a literal, name a placeholder or open a comment if they were text. -/
theorem build_bind_alike_hostile_values :
    AlikeRequests .builtin
        { filters := [⟨"name", "item_name", "contains", .text "CAP"⟩,
            ⟨"item", "item_id", "in", .list [.integer 1, .integer 2]⟩] }
        { filters := [⟨"name", "item_name", "contains", .text "\x27 OR :item_id --"⟩,
            ⟨"item", "item_id", "in", .list [.list [.null], .text ":store"]⟩] }
        (Keyed.empty.insert "store" .null) (Keyed.empty.insert "store" (.text "/*")) ∧
      Agree (SameStatements .postgres)
        (Plan.build .builtin none
          { filters := [⟨"name", "item_name", "contains", .text "CAP"⟩,
              ⟨"item", "item_id", "in", .list [.integer 1, .integer 2]⟩] }
          "SELECT * FROM sales WHERE store = :store" (Keyed.empty.insert "store" .null))
        (Plan.build .builtin none
          { filters := [⟨"name", "item_name", "contains", .text "\x27 OR :item_id --"⟩,
              ⟨"item", "item_id", "in", .list [.list [.null], .text ":store"]⟩] }
          "SELECT * FROM sales WHERE store = :store"
          (Keyed.empty.insert "store" (.text "/*"))) := by
  have hcontains : ∀ op, Registry.builtin.lookup "contains" = .ok op →
      (op.parameter (.text "CAP")).SameShape (op.parameter (.text "\x27 OR :item_id --")) := by
    intro op hop
    obtain rfl : Operator.contains = op := Except.ok.inj hop
    exact .inl ⟨rfl, rfl⟩
  have hin : ∀ op, Registry.builtin.lookup "in" = .ok op →
      (op.parameter (.list [.integer 1, .integer 2])).SameShape
        (op.parameter (.list [.list [.null], .text ":store"])) := by
    intro op hop
    obtain rfl : Operator.oneOf = op := Except.ok.inj hop
    exact .inr ⟨_, _, rfl, rfl, rfl⟩
  have h : AlikeRequests .builtin
      { filters := [⟨"name", "item_name", "contains", .text "CAP"⟩,
          ⟨"item", "item_id", "in", .list [.integer 1, .integer 2]⟩] }
      { filters := [⟨"name", "item_name", "contains", .text "\x27 OR :item_id --"⟩,
          ⟨"item", "item_id", "in", .list [.list [.null], .text ":store"]⟩] }
      (Keyed.empty.insert "store" .null) (Keyed.empty.insert "store" (.text "/*")) :=
    { page := rfl
      size := rfl
      orders := rfl
      filters := .cons ⟨rfl, rfl, rfl, hcontains⟩ (.cons ⟨rfl, rfl, rfl, hin⟩ .nil)
      extra := .cons ⟨rfl, .inl ⟨rfl, rfl⟩⟩ .nil }
  exact ⟨h, build_bind_alike .builtin none _ .postgres h⟩

end TableQuery
