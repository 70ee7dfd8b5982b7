import TableQuery.Execution
import TableQuery.Proofs.Outcome
import TableQuery.Proofs.Plan.Clauses

/-!
# Pages and totals

The two statements of a plan are the same statement with different clauses around it: the statement
of a page has the limit behind it, and the statement that counts has it in brackets.  Neither clause
binds anything, so both statements take the same values, and the total of a query is the same on
each of its pages.

* `Descriptor.onPage` — a description that asks for another page;
* `Plan.core_onPage` — the core of a plan has no page;
* `Plan.data_count_in_step` — the two statements and what they bind stay in step.
-/

namespace TableQuery

/-- The same query on another page, with pages of another size. -/
def Descriptor.onPage (d : Descriptor) (page size : Option UInt64) : Descriptor :=
  { d with page := page, size := size }

namespace Plan

/-- The core of a plan depends on the filters and the orders alone. -/
theorem core_onPage (r : Registry) (d : Descriptor) (page size : Option UInt64) (base : String)
    (extra : Parameters) : core r (d.onPage page size) base extra = core r d base extra := rfl

/-! ## Two pages of one query -/

/-- Plans of one core with any windows. -/
def SameCore (plan plan' : Plan) : Prop :=
  ∃ core window window', plan = ofCore core window ∧ plan' = ofCore core window'

/-- A query can be planned on one page if it can be on another, and the core is the same. -/
theorem build_onPage (r : Registry) (cap cap' : Option UInt64) (d : Descriptor)
    (page size : Option UInt64) (base : String) (extra : Parameters) :
    Agree SameCore (build r cap d base extra) (build r cap' (d.onPage page size) base extra) := by
  rw [build_eq_map, build_eq_map, core_onPage]
  exact (Agree.refl _).map fun c _ h => h ▸ ⟨c, _, _, rfl, rfl⟩

end Plan

/-- **The total of a query is asked for in the same way on every page**: two descriptions that
differ only in the page are refused with the same error, or send the same count. -/
theorem Executor.prepare_onPage (x : Executor) (type : TargetType) (d : Descriptor)
    (page size : Option UInt64) (extra : Parameters) :
    Agree (fun a b => a.1 = b.1 ∧ a.2.2 = b.2.2) (x.prepare type d extra)
      (x.prepare type (d.onPage page size) extra) := by
  rw [prepare, prepare]
  refine (Agree.refl _).bind fun _ _ _ => ?_
  refine (Agree.refl _).bind fun t _ ht => ?_
  subst ht
  refine (Agree.refl _).bind fun base _ hbase => ?_
  subst hbase
  refine (Plan.build_onPage _ _ _ d page size base extra).bind fun plan plan' hplan => ?_
  obtain ⟨core, window, window', rfl, rfl⟩ := hplan
  -- both statements of the page bind what the core binds, so they fail together
  -- binding the data depends on the page in its text alone, so it is refused on both or on neither
  have hdata : Agree (fun _ _ => True)
      (x.source.dialect.bind (core.text ++ windowText window) core.parameters)
      (x.source.dialect.bind (core.text ++ windowText window') core.parameters) := by
    rw [bind_windowed, bind_windowed]
    exact (Agree.refl _).map fun _ _ _ => trivial
  refine hdata.bind fun _ _ _ => ?_
  refine (Agree.refl _).bind fun count _ hcount => ?_
  exact .ok ⟨rfl, hcount⟩

namespace Plan

/-! ## Data and count -/

/-- The two statements of a plan have one core with clauses of their own around it, and both are
bound as the core is: where it is refused they are refused with the same error, and where it is
bound they take its values, with the clauses around it. -/
structure InStep (plan : Plan) (core : String) (window : Option Window) : Prop where
  data : plan.data = core ++ windowText window
  count : plan.count = "SELECT COUNT(1) FROM (" ++ core ++ ") AS c"
  refused : ∀ (dialect : Dialect) (e : ConfigurationError),
    dialect.bind core plan.parameters = .error e →
      dialect.bind plan.data plan.parameters = .error e ∧
        dialect.bind plan.count plan.parameters = .error e
  bound : ∀ (dialect : Dialect) (b : BoundStatement),
    dialect.bind core plan.parameters = .ok b →
      dialect.bind plan.data plan.parameters = .ok ⟨b.sql ++ windowText window, b.values⟩ ∧
        dialect.bind plan.count plan.parameters
          = .ok ⟨"SELECT COUNT(1) FROM (" ++ b.sql ++ ") AS c", b.values⟩

theorem ofCore_inStep (c : Draft) (window : Option Window) :
    InStep (ofCore c window) c.text window where
  data := rfl
  count := rfl
  refused := by
    intro dialect e h
    have hdata := bind_windowed dialect c.parameters c.text window
    have hcount := bind_countText dialect c.parameters c.text
    rw [show dialect.bind c.text c.parameters = .error e from h] at hdata hcount
    exact ⟨hdata, hcount⟩
  bound := by
    intro dialect b h
    have hdata := bind_windowed dialect c.parameters c.text window
    have hcount := bind_countText dialect c.parameters c.text
    rw [show dialect.bind c.text c.parameters = .ok b from h] at hdata hcount
    exact ⟨hdata, hcount⟩

/-- **Data and count stay in step.**  Whatever operators, base query and values are given: behind a
plan there is one core text for all pages, sizes and caps.  The two statements of every page are in
step with it, and on every page the same count is sent. -/
theorem data_count_in_step {r : Registry} {cap : Option UInt64} {d : Descriptor} {base : String}
    {extra : Parameters} {plan : Plan} (h : build r cap d base extra = .ok plan) :
    ∃ core : String,
      InStep plan core (d.windowCapped cap) ∧
      (∀ cap' page size : Option UInt64, ∃ plan' : Plan,
        build r cap' (d.onPage page size) base extra = .ok plan' ∧
        plan'.parameters = plan.parameters ∧
        InStep plan' core ((d.onPage page size).windowCapped cap')) ∧
      ∀ (x : Executor) (type : TargetType) (page size : Option UInt64),
        Agree (fun a b => a.1 = b.1 ∧ a.2.2 = b.2.2) (x.prepare type d extra)
          (x.prepare type (d.onPage page size) extra) := by
  obtain ⟨c, hcore, rfl⟩ := build_eq_ok h
  refine ⟨c.text, ofCore_inStep c _, ?_, ?_⟩
  · intro cap' page size
    have hplan : build r cap' (d.onPage page size) base extra
        = .ok (ofCore c ((d.onPage page size).windowCapped cap')) := by
      rw [build_eq_map, core_onPage, hcore]
      rfl
    exact ⟨_, hplan, rfl, ofCore_inStep c _⟩
  · intro x type page size
    exact x.prepare_onPage type d page size extra

/-- A base query that leaves a comment open, which takes in all that follows: the condition and
the limit are part of the comment, and data and count are in step all the same. -/
theorem data_count_in_step_open_comment :
    ∃ plan core,
      build .builtin none
          { page := some 1, size := some 2, filters := [⟨"quantity", "qty", "lt", .integer 2⟩] }
          "SELECT * FROM sales WHERE note = :note --" (Keyed.empty.insert "note" (.text "it's"))
        = .ok plan ∧
      plan.data = "SELECT * FROM (SELECT * FROM sales WHERE note = :note --) AS scope" ++
        " WHERE 1 = 1 AND qty < :qty LIMIT 2 OFFSET 2" ∧
      InStep plan core (some ⟨2, 2⟩) := by
  have h : build .builtin none
      { page := some 1, size := some 2, filters := [⟨"quantity", "qty", "lt", .integer 2⟩] }
      "SELECT * FROM sales WHERE note = :note --" (Keyed.empty.insert "note" (.text "it's"))
      = .ok _ := rfl
  obtain ⟨core, hstep, -⟩ := data_count_in_step h
  exact ⟨_, core, h, rfl, hstep⟩

end Plan

end TableQuery
