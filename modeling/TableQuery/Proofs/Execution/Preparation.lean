import TableQuery.Execution
import TableQuery.Proofs.Catalogue
import TableQuery.Proofs.Operators
import TableQuery.Proofs.Plan.Clauses

/-!
# The preparation of an execution

Before an execution asks the source for anything, it checks the operators, finds the table and its
base query, plans the statements and binds them.  Each of these steps may refuse the description.

* `Executor.Prepared` — all steps are passed, and these are the statements to send;
* `Executor.Refused` — the first step that is not passed, and its error;
* `Executor.prepare_eq_ok`, `Executor.prepare_eq_error` — there is nothing else to it.
-/

namespace TableQuery

open Outcome

/-! ## Operators that are looked up -/

theorem Registry.check_eq_ok {r : Registry} {id : String} :
    (r.lookup id).map (fun _ => ()) = .ok () ↔ r.contains id = true := by
  rw [← exists_lookup, map_eq_ok]
  simp only [and_true]

theorem Registry.check_eq_error {r : Registry} {id : String} {e : ConfigurationError} :
    (r.lookup id).map (fun _ => ()) = .error e ↔
      r.contains id = false ∧ e = .unknownOperator id := by
  rw [map_eq_error, lookup_eq_error]

namespace Executor

variable {α : Type} {x : Executor} {type : TargetType} {target : Target α} {d : Descriptor}
  {extra : Parameters}

/-! ## The steps before the first question -/

/-- Every operator is known. -/
def KnowsOperators (x : Executor) (fs : List PropertyFilter) : Prop :=
  ∀ f ∈ fs, x.registry.contains f.operation = true

/-- Every operator is known, and the type has a table. -/
structure FindsTable (x : Executor) (type : TargetType) (d : Descriptor) (t : Table) : Prop where
  operators : x.KnowsOperators d.filters
  table : x.catalogue.find? type = some t

/-- The table has a base query, and there is a plan for it. -/
structure MakesPlan (x : Executor) (type : TargetType) (d : Descriptor) (extra : Parameters)
    (t : Table) (plan : Plan) : Prop extends x.FindsTable type d t where
  built : ∃ base, t.base = some base ∧
    Plan.build x.registry x.settings.pageCap d base extra = .ok plan

/-- All steps before the first question are passed: `data` and `count` are the statements of the
plan, bound for the source. -/
structure Prepared (x : Executor) (type : TargetType) (d : Descriptor) (extra : Parameters)
    (t : Table) (plan : Plan) (data count : BoundStatement) : Prop
    extends x.MakesPlan type d extra t plan where
  data : x.source.dialect.bind plan.data plan.parameters = .ok data
  count : x.source.dialect.bind plan.count plan.parameters = .ok count

/-- The first step that is not passed, and what is wrong there. -/
inductive Refused (x : Executor) (type : TargetType) (d : Descriptor) (extra : Parameters) :
    ConfigurationError → Prop where
  /-- The first filter whose operator is unknown, whatever else is wrong. -/
  | operator {before f after} (hfilters : d.filters = before ++ f :: after)
      (hbefore : x.KnowsOperators before) (hf : x.registry.contains f.operation = false) :
      Refused x type d extra (.unknownOperator f.operation)
  /-- No table. -/
  | type (hfilters : x.KnowsOperators d.filters)
      (hnone : x.catalogue.isRegistered type = false) :
      Refused x type d extra (.unregisteredType type.name)
  /-- No base query. -/
  | base {t} (h : x.FindsTable type d t) (hnone : t.base = none) :
      Refused x type d extra (.missingDataTable t.typeName)
  /-- No plan. -/
  | plan {t base e} (h : x.FindsTable type d t) (hbase : t.base = some base)
      (he : Plan.build x.registry x.settings.pageCap d base extra = .error e) :
      Refused x type d extra e
  /-- A placeholder without a value. -/
  | value {t plan name} (h : x.MakesPlan type d extra t plan)
      (hname : x.source.dialect.bind plan.data plan.parameters = .error (.unboundParameter name)) :
      Refused x type d extra (.unboundParameter name)

theorem checks_eq_ok {fs : List PropertyFilter} :
    (fs.forM fun f => (x.registry.lookup f.operation).map fun _ => ()) = .ok () ↔
      x.KnowsOperators fs := by
  rw [forM_eq_ok, KnowsOperators]
  simp only [Registry.check_eq_ok]

theorem checks_eq_error {fs : List PropertyFilter} {e : ConfigurationError} :
    (fs.forM fun f => (x.registry.lookup f.operation).map fun _ => ()) = .error e ↔
      ∃ before f after, fs = before ++ f :: after ∧ x.KnowsOperators before ∧
        x.registry.contains f.operation = false ∧ e = .unknownOperator f.operation := by
  rw [forM_eq_error]
  simp only [Registry.check_eq_ok, Registry.check_eq_error, KnowsOperators]

/-- The count of a plan is bound just if its data is, so it is never the first to fail. -/
theorem MakesPlan.exists_count {t : Table} {plan : Plan} (h : x.MakesPlan type d extra t plan)
    {data : BoundStatement} (hdata : x.source.dialect.bind plan.data plan.parameters = .ok data) :
    ∃ count, x.source.dialect.bind plan.count plan.parameters = .ok count := by
  obtain ⟨base, -, hplan⟩ := h.built
  obtain ⟨core, -, rfl⟩ := Plan.build_eq_ok hplan
  have hcore : x.source.dialect.bind (core.text ++ windowText (d.windowCapped x.settings.pageCap))
      core.parameters = .ok data := hdata
  rw [bind_windowed] at hcore
  obtain ⟨b, hb, -⟩ := map_eq_ok.1 hcore
  have hcount := bind_countText x.source.dialect core.parameters core.text
  rw [hb] at hcount
  exact ⟨_, hcount⟩

/-- What is left to prepare when the table is found. -/
theorem FindsTable.prepare_eq {t : Table} (h : x.FindsTable type d t) :
    x.prepare type d extra = (do
      let base ← t.baseText
      let plan ← Plan.build x.registry x.settings.pageCap d base extra
      let data ← x.source.dialect.bind plan.data plan.parameters
      let count ← x.source.dialect.bind plan.count plan.parameters
      .ok (t, data, count)) := by
  rw [prepare, checks_eq_ok.2 h.operators, Catalogue.table_eq_ok.2 h.table]
  rfl

/-- What is left to prepare when the plan is made. -/
theorem MakesPlan.prepare_eq {t : Table} {plan : Plan} (h : x.MakesPlan type d extra t plan) :
    x.prepare type d extra = (do
      let data ← x.source.dialect.bind plan.data plan.parameters
      let count ← x.source.dialect.bind plan.count plan.parameters
      .ok (t, data, count)) := by
  obtain ⟨base, hbase, hplan⟩ := h.built
  rw [h.toFindsTable.prepare_eq, Table.baseText_eq_ok.2 hbase]
  show (Plan.build x.registry x.settings.pageCap d base extra >>= _) = _
  rw [hplan]
  rfl

/-- **An execution is prepared when all steps are passed.** -/
theorem prepare_eq_ok {t : Table} {data count : BoundStatement} :
    x.prepare type d extra = .ok (t, data, count) ↔
      ∃ plan, x.Prepared type d extra t plan data count := by
  constructor
  · intro h
    obtain ⟨_, hfilters, h⟩ := bind_eq_ok.1 h
    obtain ⟨t', ht, h⟩ := bind_eq_ok.1 h
    obtain ⟨base, hbase, h⟩ := bind_eq_ok.1 h
    obtain ⟨plan, hplan, h⟩ := bind_eq_ok.1 h
    obtain ⟨data', hdata, h⟩ := bind_eq_ok.1 h
    obtain ⟨count', hcount, h⟩ := bind_eq_ok.1 h
    obtain ⟨rfl, rfl, rfl⟩ : t' = t ∧ data' = data ∧ count' = count := by
      simpa using Except.ok.inj h
    exact ⟨plan,
      { operators := checks_eq_ok.1 hfilters
        table := Catalogue.table_eq_ok.1 ht
        built := ⟨base, Table.baseText_eq_ok.1 hbase, hplan⟩
        data := hdata
        count := hcount }⟩
  · rintro ⟨plan, h⟩
    rw [h.toMakesPlan.prepare_eq, h.data]
    show (x.source.dialect.bind plan.count plan.parameters >>= _) = _
    rw [h.count]
    rfl

/-- **An execution is refused at the first step that is not passed.** -/
theorem prepare_eq_error {e : ConfigurationError} :
    x.prepare type d extra = .error e ↔ x.Refused type d extra e := by
  constructor
  · intro h
    rcases bind_eq_error.1 h with h | ⟨_, hfilters, h⟩
    · obtain ⟨before, f, after, hd, hbefore, hf, rfl⟩ := checks_eq_error.1 h
      exact .operator hd hbefore hf
    have hknown := checks_eq_ok.1 hfilters
    rcases bind_eq_error.1 h with h | ⟨t, ht, h⟩
    · obtain ⟨hnone, rfl⟩ := Catalogue.table_eq_error.1 h
      exact .type hknown hnone
    have htable : x.FindsTable type d t := ⟨hknown, Catalogue.table_eq_ok.1 ht⟩
    rcases bind_eq_error.1 h with h | ⟨base, hbase, h⟩
    · obtain ⟨hnone, rfl⟩ := Table.baseText_eq_error.1 h
      exact .base htable hnone
    rcases bind_eq_error.1 h with h | ⟨plan, hplan, h⟩
    · exact .plan htable (Table.baseText_eq_ok.1 hbase) h
    have hmakes : x.MakesPlan type d extra t plan :=
      ⟨htable, base, Table.baseText_eq_ok.1 hbase, hplan⟩
    rcases bind_eq_error.1 h with h | ⟨data, hdata, h⟩
    · obtain ⟨name, rfl⟩ := x.source.dialect.bind_eq_error plan.parameters h
      exact .value hmakes h
    obtain ⟨count, hcount⟩ := hmakes.exists_count hdata
    rcases bind_eq_error.1 h with h | ⟨_, _, h⟩
    · rw [hcount] at h
      cases h
    · cases h
  · intro h
    cases h with
    | operator hd hbefore hf =>
      exact bind_eq_error.2 (.inl (checks_eq_error.2 ⟨_, _, _, hd, hbefore, hf, rfl⟩))
    | type hknown hnone =>
      refine bind_eq_error.2 (.inr ⟨(), checks_eq_ok.2 hknown, ?_⟩)
      exact bind_eq_error.2 (.inl (Catalogue.table_eq_error.2 ⟨hnone, rfl⟩))
    | @base t h hnone =>
      rw [h.prepare_eq, Table.baseText_eq_error.2 ⟨hnone, rfl⟩]
      rfl
    | @plan t base e h hbase he =>
      rw [h.prepare_eq]
      exact bind_eq_error.2 (.inr ⟨base, Table.baseText_eq_ok.2 hbase, bind_eq_error.2 (.inl he)⟩)
    | @value t plan name h hname =>
      rw [h.prepare_eq, hname]
      rfl

end Executor

end TableQuery
