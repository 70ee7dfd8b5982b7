import TableQuery.Proofs.Execution.Questions
import TableQuery.Proofs.Plan.Noninterference

/-!
# What an execution logs

An execution logs the two statements that it is going to send, and then how it ended.  Values of the
request stand beside the statements and not in them, so they are in no event unless the settings ask
for them: two requests that differ in their values alone leave the same log.

* `Executor.events` — the events among the actions of a computation;
* `Executor.events_execute` — the events of an execution, from its statements and its outcome;
* `Executor.prepare_alike`, `Executor.outcome_alike` — two executions whose requests differ in their
  values;
* `Executor.values_not_logged` — their events.
-/

namespace TableQuery

open Outcome

namespace Executor

variable {α : Type}

/-! ## The events of an execution -/

/-- The events among the actions of a computation, in order. -/
def events {β ε : Type} (y : Traced Action ε β) : List Event := y.trace.filterMap Action.event?

/-- The events of the statements that are ready to be sent. -/
def announced (settings : QuerySettings) (typeName : String) :
    Except ConfigurationError (Table × BoundStatement × BoundStatement) → List Action
  | .error _ => []
  | .ok (_, data, count) =>
    [Execution.statementEvent settings typeName "data" data,
      Execution.statementEvent settings typeName "count" count]

/-- The event of how an execution ended. -/
def closing (typeName : String) : Except Error (Page α) → Action
  | .error e => Execution.failureEvent typeName e
  | .ok page => Execution.successEvent typeName page.data.length page.total

theorem statementEvent_eq_log (settings : QuerySettings) (typeName kind : String)
    (s : BoundStatement) : ∃ e, Execution.statementEvent settings typeName kind s = .log e := by
  rw [Execution.statementEvent]
  split
  · exact ⟨_, rfl⟩
  · exact ⟨_, rfl⟩

/-- **An execution logs its statements and its end**, and nothing else. -/
theorem events_execute (x : Executor) (target : Target α) (d : Descriptor) (extra : Parameters) :
    events (x.execute target d extra)
      = (announced x.settings target.name (x.prepare target.type d extra)
          ++ [closing target.name (x.execute target d extra).outcome]).filterMap
            Action.event? := by
  rw [outcome_execute]
  cases hprepare : x.prepare target.type d extra with
  | error e =>
    rw [events, execute, run_refused (prepare_eq_error.1 hprepare)]
    rfl
  | ok prepared =>
    obtain ⟨t, data, count⟩ := prepared
    obtain ⟨plan, h⟩ := prepare_eq_ok.1 hprepare
    obtain ⟨dataEvent, hdata⟩ := statementEvent_eq_log x.settings target.name "data" data
    obtain ⟨countEvent, hcount⟩ := statementEvent_eq_log x.settings target.name "count" count
    rw [events, execute, run_prepared h, announced, hdata, hcount]
    cases Execution.readRows target t (x.source.rows data) with
    | error e => cases e <;> rfl
    | ok values =>
      cases Execution.readTotal (x.source.total count) with
      | error e => cases e <;> rfl
      | ok total => rfl

/-! ## Two executions -/

/-- The executor with another source. -/
def withSource (x : Executor) (source : Source) : Executor := { x with source := source }

/-- Two preparations with the same table and the same texts of statements. -/
structure AlikePrepared (a b : Table × BoundStatement × BoundStatement) : Prop where
  table : a.1 = b.1
  data : SameText a.2.1 b.2.1
  count : SameText a.2.2 b.2.2

section

variable {x : Executor} {source : Source} {d d' : Descriptor} {extra extra' : Parameters}

/-- Requests that differ in their values are prepared alike. -/
theorem prepare_alike (hdialect : source.dialect = x.source.dialect)
    (h : AlikeRequests x.registry d d' extra extra') (type : TargetType) :
    Agree AlikePrepared (x.prepare type d extra)
      ((x.withSource source).prepare type d' extra') := by
  have hchecks : ∀ f g, AlikeFilters x.registry f g →
      (x.registry.lookup f.operation).map (fun _ => ())
        = (x.registry.lookup g.operation).map (fun _ => ()) := by
    intro f g hfg
    rw [hfg.operation]
  have hsource : (x.withSource source).source.dialect = x.source.dialect := hdialect
  rw [prepare, prepare, hsource]
  refine (Agree.forM hchecks h.filters).bind fun _ _ _ => ?_
  refine (Agree.refl (x.catalogue.table type)).bind fun t _ ht => ?_
  subst ht
  refine (Agree.refl t.baseText).bind fun base _ hbase => ?_
  subst hbase
  refine (build_alike h x.settings.pageCap base).bind fun plan plan' hplan => ?_
  rw [← hplan.data, ← hplan.count]
  refine (bind_alike x.source.dialect hplan.parameters plan.data).bind fun data data' hdata => ?_
  refine (bind_alike x.source.dialect hplan.parameters plan.count).bind fun count _ hcount => ?_
  exact .ok ⟨rfl, hdata, hcount⟩

/-- The two sources give the same rows, or errors in their places, and the same count, each for the
statements that its own execution sends. -/
def AnswersAlike (x : Executor) (source : Source) (type : TargetType) (d d' : Descriptor)
    (extra extra' : Parameters) : Prop :=
  ∀ t data count t' data' count', x.prepare type d extra = .ok (t, data, count) →
    (x.withSource source).prepare type d' extra' = .ok (t', data', count') →
      x.source.rows data = source.rows data' ∧ x.source.total count = source.total count'

/-- With the same answers the two executions end alike. -/
theorem outcome_alike {target : Target α} (hdialect : source.dialect = x.source.dialect)
    (h : AlikeRequests x.registry d d' extra extra')
    (hanswers : AnswersAlike x source target.type d d' extra extra') :
    (x.execute target d extra).outcome
      = ((x.withSource source).execute target d' extra').outcome := by
  rw [outcome_execute, outcome_execute]
  rcases (prepare_alike hdialect h target.type).ends with
    ⟨e, he, he'⟩ | ⟨⟨t, data, count⟩, ⟨t', data', count'⟩, hprepare, hprepare', halike⟩
  · rw [run_refused (prepare_eq_error.1 he), run_refused (prepare_eq_error.1 he')]
  · obtain rfl : t = t' := halike.table
    obtain ⟨hrows, htotal⟩ := hanswers _ _ _ _ _ _ hprepare hprepare'
    obtain ⟨plan, hx⟩ := prepare_eq_ok.1 hprepare
    obtain ⟨plan', hx'⟩ := prepare_eq_ok.1 hprepare'
    rw [outcome_run hx, outcome_run hx', hrows, htotal]
    rfl

/-- A statement is announced by its text alone, unless the settings ask for its values. -/
theorem statementEvent_alike {settings : QuerySettings} (hoff : settings.logStatements = false)
    (typeName kind : String) {s s' : BoundStatement} (h : SameText s s') :
    Execution.statementEvent settings typeName kind s
      = Execution.statementEvent settings typeName kind s' := by
  simp only [Execution.statementEvent, hoff, Bool.false_eq_true, if_false, h.1]

theorem announced_alike (hoff : x.settings.logStatements = false)
    (hdialect : source.dialect = x.source.dialect)
    (h : AlikeRequests x.registry d d' extra extra') (typeName : String) (type : TargetType) :
    announced x.settings typeName (x.prepare type d extra)
      = announced x.settings typeName ((x.withSource source).prepare type d' extra') := by
  rcases (prepare_alike hdialect h type).ends with
    ⟨e, he, he'⟩ | ⟨⟨t, data, count⟩, ⟨t', data', count'⟩, hprepare, hprepare', halike⟩
  · rw [he, he']
  · rw [hprepare, hprepare', announced, announced, statementEvent_alike hoff _ _ halike.data,
      statementEvent_alike hoff _ _ halike.count]

/-- **Values are not logged.**  When the settings do not ask for values, two executions whose
requests differ in values of one shape, and whose sources answer alike, log the same events, in
whatever way they end. -/
theorem values_not_logged {target : Target α} (hoff : x.settings.logStatements = false)
    (hdialect : source.dialect = x.source.dialect)
    (h : AlikeRequests x.registry d d' extra extra')
    (hanswers : AnswersAlike x source target.type d d' extra extra') :
    events (x.execute target d extra) = events ((x.withSource source).execute target d' extra') := by
  rw [events_execute, events_execute, outcome_alike hdialect h hanswers,
    announced_alike hoff hdialect h]
  rfl

end

set_option maxRecDepth 2000 in
/-- Values that would end a literal or name a placeholder if they were text, and a source that fails
after its first row: of all that, the log shows the failure. -/
theorem values_not_logged_timeout :
    ∃ (x : Executor) (source : Source) (d d' : Descriptor) (extra extra' : Parameters),
      x.settings.logStatements = false ∧ source.dialect = x.source.dialect ∧
      d.filters = [⟨"name", "name", "contains", .text "CAP"⟩] ∧
      d'.filters = [⟨"name", "name", "contains", .text "\x27 OR :store --"⟩] ∧
      extra = Keyed.empty.insert "store" .null ∧
      extra' = Keyed.empty.insert "store" (.text ":name") ∧
      AlikeRequests x.registry d d' extra extra' ∧
      AnswersAlike x source "Item" d d' extra extra' ∧
      events ((x.withSource source).execute (⟨"Item", .ok⟩ : Target Json) d' extra') =
        [⟨.trace, .executor, "Executing statement",
            [("kind", .quoted "data"), ("sql", .plain ("SELECT * FROM (SELECT name FROM items " ++
              "WHERE store = ?1) AS scope WHERE 1 = 1 AND name LIKE \x27%\x27 || ?2 || \x27%\x27"))],
            some "Item"⟩,
          ⟨.trace, .executor, "Executing statement",
            [("kind", .quoted "count"), ("sql", .plain ("SELECT COUNT(1) FROM (SELECT * FROM " ++
              "(SELECT name FROM items WHERE store = ?1) AS scope WHERE 1 = 1 " ++
              "AND name LIKE \x27%\x27 || ?2 || \x27%\x27) AS c"))], some "Item"⟩,
          ⟨.warn, .executor, "Data source failed",
            [("target_type", .quoted "Item"), ("kind", .plain "timeout"), ("retriable", .flag true),
              ("error", .plain "Data source timeout error: late")], some "Item"⟩] := by
  have hdata : Dialect.sqlite.bind
      ("SELECT * FROM (SELECT name FROM items WHERE store = :store) AS scope " ++
        "WHERE 1 = 1 AND name LIKE \x27%\x27 || :name || \x27%\x27")
      ((Keyed.empty.insert "store" .null).insert "name" (.text "CAP"))
      = .ok ⟨"SELECT * FROM (SELECT name FROM items WHERE store = ?1) AS scope " ++
          "WHERE 1 = 1 AND name LIKE \x27%\x27 || ?2 || \x27%\x27", [.null, .text "CAP"]⟩ := by
    rfl
  let t : Table := ⟨"Item", some "SELECT name FROM items WHERE store = :store",
    [⟨"name", "name", .text⟩]⟩
  let source : Source := ⟨.sqlite,
    fun _ => [.ok ⟨[("name", .text "cap")]⟩, .error ⟨.timeout, "late"⟩], fun _ => .ok 7⟩
  let x : Executor := { source, registry := .builtin, catalogue := Catalogue.empty.insert "Item" t }
  let d : Descriptor := { filters := [⟨"name", "name", "contains", .text "CAP"⟩] }
  let d' : Descriptor := { filters := [⟨"name", "name", "contains", .text "\x27 OR :store --"⟩] }
  let extra : Parameters := Keyed.empty.insert "store" .null
  let extra' : Parameters := Keyed.empty.insert "store" (.text ":name")
  have hcontains : ∀ op, Registry.builtin.lookup "contains" = .ok op →
      (op.parameter (.text "CAP")).SameShape (op.parameter (.text "\x27 OR :store --")) := by
    intro op hop
    obtain rfl : Operator.contains = op := Except.ok.inj hop
    exact .inl ⟨rfl, rfl⟩
  have h : AlikeRequests x.registry d d' extra extra' :=
    { page := rfl
      size := rfl
      orders := rfl
      filters := .cons ⟨rfl, rfl, rfl, hcontains⟩ .nil
      extra := .cons ⟨rfl, .inl ⟨rfl, rfl⟩⟩ .nil }
  have hanswers : AnswersAlike x source "Item" d d' extra extra' :=
    fun _ _ _ _ _ _ _ _ => ⟨rfl, rfl⟩
  have hcount := (bind_countText .sqlite _ _).trans (congrArg _ hdata)
  have hprepared : x.Prepared "Item" d extra t ⟨_, _, extra.insert "name" (.text "CAP")⟩ _ _ :=
    { operators := by simp [KnowsOperators, d]; rfl
      table := rfl
      built := ⟨_, rfl, rfl⟩
      data := hdata
      count := hcount }
  have hlog := @values_not_logged Json x source d d' extra extra' ⟨"Item", .ok⟩ rfl rfl h hanswers
  have houtcome : (x.execute (⟨"Item", .ok⟩ : Target Json) d extra).outcome
      = .error (.dataSource ⟨.timeout, "late"⟩) := by
    rw [outcome_execute, outcome_run hprepared]
    rfl
  refine ⟨x, source, d, d', extra, extra', rfl, rfl, rfl, rfl, rfl, rfl, h, hanswers, ?_⟩
  rw [← hlog, events_execute, houtcome, prepare_eq_ok.2 ⟨_, hprepared⟩]
  rfl

end Executor

end TableQuery
