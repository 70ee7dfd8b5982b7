import TableQuery.Proofs.Execution.Preparation

/-!
# What an execution asks the source

Either a step of the preparation refuses the description and the source is never asked, or the
source is asked for the rows and perhaps for the count.  What goes wrong from then on is no error of
configuration.

* `Execution.readElement` — what one element of a stream gives; `readRows_eq_mapM` reads them all;
* `Executor.questions_run`, `Executor.outcome_run` — what a prepared execution asks and gives;
* `Executor.configuration_before_source` — an execution fails with an error of configuration just if
  it asks nothing.
-/

namespace TableQuery

open Outcome

/-! ## Rows and totals -/

namespace Execution

variable {α : Type} {target : Target α} {t : Table}

/-- The value of a row, or the error that stands in its place. -/
def readElement (target : Target α) (t : Table) : Except DataSourceError Row → Except Error α
  | .error e => .error (.dataSource e)
  | .ok r => (mapRow target t r).mapError .mapping

theorem readRows_eq_mapM (stream : List (Except DataSourceError Row)) :
    readRows target t stream = stream.mapM (readElement target t) := by
  induction stream with
  | nil => rfl
  | cons element stream ih =>
    rw [List.mapM_cons, ← ih]
    cases element with
    | error e => rfl
    | ok r =>
      rw [readRows, readElement]
      cases mapRow target t r with
      | error e => rfl
      | ok v => cases readRows target t stream <;> rfl

theorem readElement_ne_configuration (element : Except DataSourceError Row)
    (e : ConfigurationError) : readElement target t element ≠ .error (.configuration e) := by
  intro h
  cases element with
  | error e' => cases h
  | ok r =>
    rw [readElement] at h
    cases hr : mapRow target t r <;> rw [hr] at h <;> cases h

theorem readRows_ne_configuration (stream : List (Except DataSourceError Row))
    (e : ConfigurationError) : readRows target t stream ≠ .error (.configuration e) := by
  intro h
  rw [readRows_eq_mapM] at h
  obtain ⟨_, element, _, -, -, helement⟩ := mapM_eq_error.1 h
  exact readElement_ne_configuration element e helement

theorem readTotal_ne_configuration (total : Except DataSourceError Int64)
    (e : ConfigurationError) : readTotal total ≠ .error (.configuration e) := by
  intro h
  cases total with
  | error e' => cases h
  | ok n =>
    rw [readTotal] at h
    split at h <;> cases h

end Execution

namespace Executor

variable {α : Type} {x : Executor} {target : Target α} {d : Descriptor} {extra : Parameters}

/-! ## Questions -/

/-- The questions among the actions of a computation, in order. -/
def questions {β ε : Type} (y : Traced Action ε β) : List Action := y.trace.filter Action.isQuestion

@[simp] theorem isQuestion_fetch (s : BoundStatement) : (Action.fetch s).isQuestion = true := rfl

@[simp] theorem isQuestion_count (s : BoundStatement) : (Action.count s).isQuestion = true := rfl

@[simp] theorem isQuestion_statementEvent (settings : QuerySettings) (typeName kind : String)
    (s : BoundStatement) :
    (Execution.statementEvent settings typeName kind s).isQuestion = false := by
  rw [Execution.statementEvent]
  split <;> rfl

@[simp] theorem isQuestion_successEvent (typeName : String) (rows total : Nat) :
    (Execution.successEvent typeName rows total).isQuestion = false := rfl

@[simp] theorem isQuestion_failureEvent (typeName : String) (e : Error) :
    (Execution.failureEvent typeName e).isQuestion = false := by
  cases e <;> rfl

theorem outcome_execute : (x.execute target d extra).outcome = (x.run target d extra).outcome := by
  rw [execute]
  cases h : (x.run target d extra).outcome <;> simp [h]

theorem questions_execute :
    questions (x.execute target d extra) = questions (x.run target d extra) := by
  rw [execute]
  cases h : (x.run target d extra).outcome <;> simp [questions]

theorem run_refused {e : ConfigurationError} (h : x.Refused target.type d extra e) :
    x.run target d extra = ⟨[], .error (.configuration e)⟩ := by
  rw [run, prepare_eq_error.2 h]
  rfl

section

variable {t : Table} {plan : Plan} {data count : BoundStatement}
  (h : x.Prepared target.type d extra t plan data count)

include h

/-- What is left of a prepared execution: the two statements are logged, and then the source is
asked. -/
theorem run_prepared :
    x.run target d extra = (do
      .emit (Execution.statementEvent x.settings target.name "data" data)
      .emit (Execution.statementEvent x.settings target.name "count" count)
      .emit (.fetch data)
      let values ← .ofExcept (Execution.readRows target t (x.source.rows data))
      .emit (.count count)
      let total ← .ofExcept (Execution.readTotal (x.source.total count))
      .emit (Execution.successEvent target.name values.length total)
      pure ⟨values, total⟩) := by
  rw [run, prepare_eq_ok.2 ⟨plan, h⟩]
  rfl

/-- A prepared execution asks for the rows, and for the count if all rows have values. -/
theorem questions_run :
    questions (x.run target d extra)
      = .fetch data :: (match Execution.readRows target t (x.source.rows data) with
          | .error _ => []
          | .ok _ => [.count count]) := by
  rw [run_prepared h, questions]
  cases Execution.readRows target t (x.source.rows data) with
  | error e => simp [List.filter_cons]
  | ok values => cases Execution.readTotal (x.source.total count) <;> simp [List.filter_cons]

theorem outcome_run :
    (x.run target d extra).outcome = (do
      let values ← Execution.readRows target t (x.source.rows data)
      let total ← Execution.readTotal (x.source.total count)
      pure ⟨values, total⟩) := by
  rw [run_prepared h]
  cases Execution.readRows target t (x.source.rows data) with
  | error e => rfl
  | ok values => cases Execution.readTotal (x.source.total count) <;> rfl

theorem questions_of_prepared :
    questions (x.execute target d extra) = [.fetch data] ∨
      questions (x.execute target d extra) = [.fetch data, .count count] := by
  rw [questions_execute, questions_run h]
  cases Execution.readRows target t (x.source.rows data) with
  | error e => exact .inl rfl
  | ok values => exact .inr rfl

theorem outcome_ne_configuration (e : ConfigurationError) :
    (x.execute target d extra).outcome ≠ .error (.configuration e) := by
  intro he
  rw [outcome_execute, outcome_run h] at he
  rcases bind_eq_error.1 he with hrows | ⟨values, -, he⟩
  · exact Execution.readRows_ne_configuration _ e hrows
  rcases bind_eq_error.1 he with htotal | ⟨total, -, he⟩
  · exact Execution.readTotal_ne_configuration _ e htotal
  · cases he

end

/-! ## Configuration comes first -/

theorem exists_first_unknown {fs : List PropertyFilter}
    (h : ∃ f ∈ fs, x.registry.contains f.operation = false) :
    ∃ before f after, fs = before ++ f :: after ∧ x.KnowsOperators before ∧
      x.registry.contains f.operation = false := by
  cases hcheck : (fs.forM fun f => (x.registry.lookup f.operation).map fun _ => ()) with
  | error e =>
    obtain ⟨before, f, after, hfs, hbefore, hf, -⟩ := checks_eq_error.1 hcheck
    exact ⟨before, f, after, hfs, hbefore, hf⟩
  | ok u =>
    obtain ⟨f, hmem, hf⟩ := h
    have hknown := checks_eq_ok.1 hcheck f hmem
    rw [hf] at hknown
    cases hknown

/-- **Errors of configuration never touch the source.**  An execution asks for nothing, or for the
rows of the data statement, or for these and then for the number of the count statement.  It asks
for nothing just if it fails with an error of configuration, which is the one of the first step that
is not passed; an unknown operator, wherever it stands among the filters, comes before all else. -/
theorem configuration_before_source (x : Executor) (target : Target α) (d : Descriptor)
    (extra : Parameters) :
    (questions (x.execute target d extra) = [] ∨
      ∃ t plan data count, x.Prepared target.type d extra t plan data count ∧
        (questions (x.execute target d extra) = [.fetch data] ∨
          questions (x.execute target d extra) = [.fetch data, .count count])) ∧
    ((∃ e, (x.execute target d extra).outcome = .error (.configuration e)) ↔
      questions (x.execute target d extra) = []) ∧
    (∀ e, (x.execute target d extra).outcome = .error (.configuration e) ↔
      x.Refused target.type d extra e) ∧
    ((∃ f ∈ d.filters, x.registry.contains f.operation = false) →
      ∃ before f after, d.filters = before ++ f :: after ∧ x.KnowsOperators before ∧
        x.registry.contains f.operation = false ∧
        (x.execute target d extra).outcome
          = .error (.configuration (.unknownOperator f.operation))) := by
  have hrefused : ∀ e, x.Refused target.type d extra e →
      (x.execute target d extra).outcome = .error (.configuration e) ∧
        questions (x.execute target d extra) = [] := by
    intro e he
    rw [outcome_execute, questions_execute, run_refused he]
    exact ⟨rfl, rfl⟩
  have hunknown : (∃ f ∈ d.filters, x.registry.contains f.operation = false) →
      ∃ before f after, d.filters = before ++ f :: after ∧ x.KnowsOperators before ∧
        x.registry.contains f.operation = false ∧
        (x.execute target d extra).outcome
          = .error (.configuration (.unknownOperator f.operation)) := by
    intro h
    obtain ⟨before, f, after, hd, hbefore, hf⟩ := exists_first_unknown h
    exact ⟨before, f, after, hd, hbefore, hf, (hrefused _ (.operator hd hbefore hf)).1⟩
  cases hprepare : x.prepare target.type d extra with
  | error e =>
    have he := prepare_eq_error.1 hprepare
    obtain ⟨houtcome, hquestions⟩ := hrefused e he
    refine ⟨.inl hquestions, ⟨fun _ => hquestions, fun _ => ⟨e, houtcome⟩⟩, ?_, hunknown⟩
    intro e'
    refine ⟨fun h => ?_, fun h => (hrefused e' h).1⟩
    obtain rfl : e = e' := by simpa using houtcome.symm.trans h
    exact he
  | ok prepared =>
    obtain ⟨t, data, count⟩ := prepared
    obtain ⟨plan, h⟩ := prepare_eq_ok.1 hprepare
    have hquestions := questions_of_prepared h
    have hne : questions (x.execute target d extra) ≠ [] := by
      rcases hquestions with hq | hq <;> simp [hq]
    refine ⟨.inr ⟨t, plan, data, count, h, hquestions⟩, ⟨?_, ?_⟩, ?_, hunknown⟩
    · exact fun ⟨e, he⟩ => absurd he (outcome_ne_configuration h e)
    · exact fun hq => absurd hq hne
    · exact fun e =>
        ⟨fun he => absurd he (outcome_ne_configuration h e), fun he => (hrefused e he).1⟩

end Executor

end TableQuery
