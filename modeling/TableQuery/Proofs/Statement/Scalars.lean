import TableQuery.Database.Cell
import TableQuery.Proofs.Statement.Placeholders
import TableQuery.Proofs.Statement.Tokens

/-!
# Lists among the values of a statement

A list takes a placeholder for each of its items, and the items are bound as they are.  So a list
that stands in another one is a value of the statement, and nothing for a database.

* `Value.isFlat` — a value that is no list of lists;
* `mem_valuesOf`, `Dialect.mem_values_of_bind` — the values of a statement by its names;
* `Database.Cell.ofValue_eq_null_iff` — the values that are nothing for a database;
* `Dialect.bind_scalars` — when a statement has no list among its values.
-/

namespace TableQuery

/-! ## Flat values -/

namespace Value

/-- No list, or a list whose items are none. -/
def isFlat : Value → Bool
  | .list items => items.all fun item => !item.isList
  | _ => true

theorem isFlat_iff_operands {v : Value} :
    v.isFlat = true ↔ ∀ w ∈ v.operands, w.isList = false := by
  cases v with
  | list items => simp [isFlat, operands]
  | _ => simp [isFlat, operands, isList]

/-- Only a list has lists among its operands. -/
theorem list_mem_operands {v : Value} {items : List Value} :
    .list items ∈ v.operands ↔ ∃ outer, v = .list outer ∧ .list items ∈ outer := by
  cases v <;> simp [operands]

end Value

/-! ## Values by names -/

/-- Each value of names is an operand of one of them, and each operand is a value. -/
theorem mem_valuesOf {p : Parameters} {names : List String} {values : List Value}
    (h : valuesOf p names = .ok values) {v : Value} :
    v ∈ values ↔ ∃ name ∈ names, ∃ w, p.get? name = some w ∧ v ∈ w.operands := by
  induction names generalizing values with
  | nil =>
    obtain rfl : [] = values := Except.ok.inj h
    simp
  | cons first names ih =>
    rw [valuesOf] at h
    split at h
    next => cases h
    next w hget =>
      obtain ⟨rest, hrest, rfl⟩ := Outcome.map_eq_ok.1 h
      rw [List.mem_append, ih hrest, List.exists_mem_cons_iff]
      refine or_congr_left ?_
      simp [hget]

theorem Dialect.mem_values_of_bind {d : Dialect} {p : Parameters} {sql : String}
    {b : BoundStatement} (h : d.bind sql p = .ok b) {v : Value} :
    v ∈ b.values ↔
      ∃ name ∈ Lexical.placeholders sql.toList, ∃ w, p.get? name = some w ∧ v ∈ w.operands := by
  have hvalues : valuesOf p (Lexical.placeholders sql.toList) = .ok b.values := by
    rw [← d.bind_values, h]
    rfl
  exact mem_valuesOf hvalues

/-! ## What a database makes of values -/

namespace Database.Cell

/-- Besides the absent value and what is no number, a list is nothing. -/
theorem ofValue_eq_null_iff {v : Value} :
    ofValue v = .null ↔ v.isNull = true ∨ v.isList = true ∨ ∃ x, v = .real x ∧ x.isNaN = true := by
  cases v <;> simp [ofValue, Value.isNull, Value.isList]

end Database.Cell

/-! ## Statements without lists -/

/-- **A statement has one placeholder for each of its values**, numbered from one without a gap.
The lists among the values are those that stand in the list of a placeholder; they are nothing for a
database, and there is none just if every placeholder has a flat value. -/
theorem Dialect.bind_scalars {d : Dialect} {p : Parameters} {sql : String} {b : BoundStatement}
    (h : d.bind sql p = .ok b) :
    b.sql = boundText d p 0 (tokens sql.toList) ∧
    boundNumbers p 0 (tokens sql.toList) = List.range' 1 b.values.length ∧
    (∀ items, .list items ∈ b.values ↔ ∃ name ∈ Lexical.placeholders sql.toList,
      ∃ outer, p.get? name = some (.list outer) ∧ .list items ∈ outer) ∧
    (∀ v ∈ b.values, v.isList = true → Database.Cell.ofValue v = .null) ∧
    ((∀ v ∈ b.values, v.isList = false) ↔
      ∀ name ∈ Lexical.placeholders sql.toList, ∀ w, p.get? name = some w → w.isFlat = true) := by
  have htokens := d.eq_tokens_of_bind p h
  have hmem {v : Value} := Dialect.mem_values_of_bind h (v := v)
  refine ⟨congrArg _ htokens, ?_, ?_, ?_, ?_⟩
  · rw [boundNumbers_eq_range', htokens]
  · intro items
    simp only [hmem, Value.list_mem_operands]
    constructor
    · rintro ⟨name, hname, w, hget, outer, rfl, hitems⟩
      exact ⟨name, hname, outer, hget, hitems⟩
    · rintro ⟨name, hname, outer, hget, hitems⟩
      exact ⟨name, hname, _, hget, outer, rfl, hitems⟩
  · intro v _ hlist
    exact Database.Cell.ofValue_eq_null_iff.2 (.inr (.inl hlist))
  · simp only [Value.isFlat_iff_operands]
    constructor
    · intro hscalar name hname w hget v hv
      exact hscalar v (hmem.2 ⟨name, hname, w, hget, hv⟩)
    · intro hflat v hv
      obtain ⟨name, hname, w, hget, hw⟩ := hmem.1 hv
      exact hflat name hname w hget v hw

/-- A text and the items of a list are values, each for itself. -/
theorem Dialect.bind_scalars_flat :
    ∃ (p : Parameters) (b : BoundStatement),
      Dialect.postgres.bind "SELECT * FROM t WHERE id IN (:ids) AND code = :code" p = .ok b ∧
      b.sql = "SELECT * FROM t WHERE id IN ($1, $2) AND code = $3" ∧
      ∀ v ∈ b.values, v.isList = false := by
  have h : Dialect.postgres.bind "SELECT * FROM t WHERE id IN (:ids) AND code = :code"
      ((Keyed.empty.insert "ids" (.list [.integer 1, .null])).insert "code" (.text "a"))
    = .ok _ := rfl
  refine ⟨_, _, h, rfl, (Dialect.bind_scalars h).2.2.2.2.2 ?_⟩
  intro name hname w hget
  have hnames : name ∈ ["ids", "code"] := hname
  rcases List.mem_cons.1 hnames with rfl | hcode
  · obtain rfl : Value.list [.integer 1, .null] = w := Option.some.inj hget
    rfl
  · obtain rfl := List.mem_singleton.1 hcode
    obtain rfl : Value.text "a" = w := Option.some.inj hget
    rfl

/-- A list with a list in it leaves one placeholder, whose value is the inner list: for a database
there is nothing to compare with. -/
theorem Dialect.bind_scalars_nested :
    ∃ (p : Parameters) (b : BoundStatement),
      p.get? "ids" = some (.list [.list [.integer 1, .integer 2]]) ∧
      Dialect.sqlite.bind "SELECT * FROM t WHERE id IN (:ids)" p = .ok b ∧
      b.sql = "SELECT * FROM t WHERE id IN (?1)" ∧
      b.values = [.list [.integer 1, .integer 2]] ∧
      b.values.map Database.Cell.ofValue = [.null] ∧
      ¬ ∀ v ∈ b.values, v.isList = false := by
  have h : Dialect.sqlite.bind "SELECT * FROM t WHERE id IN (:ids)"
      (Keyed.empty.insert "ids" (.list [.list [.integer 1, .integer 2]])) = .ok _ := rfl
  refine ⟨_, _, rfl, h, rfl, rfl, rfl, fun hscalar => ?_⟩
  have hinner : (Value.list [.integer 1, .integer 2]).isList = false :=
    hscalar _ List.mem_cons_self
  cases hinner

end TableQuery
