import TableQuery.Mapping
import TableQuery.Plan
import TableQuery.Settings.Basic
import TableQuery.Statement.Binding

/-!
# Execution of queries

An execution checks the operators, makes the plan, binds its two statements, and only then asks the
data source: first for the rows of the page, then for their total number.  It gives all rows as
values of the target type or one error.  What it does besides, it does in order: `Action` lists the
events it logs and the questions it puts to the source.

* `Source` — a database that answers statements;
* `Executor` — a source with operators, tables and settings;
* `Executor.prepare` — the two bound statements of a description;
* `Executor.execute` — the page of a description.
-/

namespace TableQuery

/-! ## Sources and results -/

/-- A database that answers statements. -/
structure Source where
  /-- How it writes placeholders. -/
  dialect : Dialect
  /-- The rows of a statement, or what it failed with at their places. -/
  rows : BoundStatement → List (Except DataSourceError Row)
  /-- The number that a statement gives. -/
  total : BoundStatement → Except DataSourceError Int64

/-- One page of a result. -/
structure Page (α : Type) where
  /-- The values of the page. -/
  data : List α
  /-- The number of values on all pages. -/
  total : Nat
  deriving BEq, Inhabited

namespace Page

/-- The number of values of the page. -/
def size {α : Type} (p : Page α) : Nat := p.data.length

/-- The page is empty. -/
def isEmpty {α : Type} (p : Page α) : Bool := p.data.isEmpty

/-- The page with other values. -/
def map {α β : Type} (f : α → β) (p : Page α) : Page β := ⟨p.data.map f, p.total⟩

end Page

/-- What an execution does besides its result. -/
inductive Action where
  /-- It logs an event. -/
  | log (e : Event)
  /-- It asks the source for the rows of a statement. -/
  | fetch (s : BoundStatement)
  /-- It asks the source for the number that a statement gives. -/
  | count (s : BoundStatement)
  deriving BEq

namespace Action

/-- The event of an action that logs one. -/
def event? : Action → Option Event
  | .log e => some e
  | _ => none

/-- The action asks the source for something. -/
def isQuestion : Action → Bool
  | .log _ => false
  | _ => true

end Action

/-- A source with operators, tables and settings. -/
structure Executor where
  /-- The database. -/
  source : Source
  /-- The operators. -/
  registry : Registry
  /-- The tables. -/
  catalogue : Catalogue
  /-- How queries are made. -/
  settings : QuerySettings := {}

/-! ## Events -/

namespace Execution

/-- An event of an execution for a target type. -/
def event (typeName : String) (level : Level) (message : String)
    (fields : List (String × Field)) : Action :=
  .log ⟨level, .executor, message, fields, some typeName⟩

/-- The event of a statement, which shows its values only if the settings say so. -/
def statementEvent (settings : QuerySettings) (typeName kind : String) (s : BoundStatement) :
    Action :=
  if settings.logStatements then
    event typeName .debug "Executing statement"
      [("kind", .quoted kind), ("sql", .plain s.sql),
        ("params", .plain (Value.sourceList s.values))]
  else
    event typeName .trace "Executing statement" [("kind", .quoted kind), ("sql", .plain s.sql)]

/-- The event of a result. -/
def successEvent (typeName : String) (rows total : Nat) : Action :=
  event typeName .debug "Query executed" [("rows", .count rows), ("total", .count total)]

/-- The event of an error. -/
def failureEvent (typeName : String) : Error → Action
  | .configuration e =>
    event typeName .error "Query rejected"
      [("target_type", .quoted typeName), ("kind", .plain e.kind.name), ("error", .plain e.message)]
  | .dataSource e =>
    event typeName .warn "Data source failed"
      [("target_type", .quoted typeName), ("kind", .plain e.kind.name),
        ("retriable", .flag e.isRetriable), ("error", .plain e.message)]
  | e =>
    event typeName .warn "Query failed"
      [("target_type", .quoted typeName), ("error", .plain e.message)]

/-! ## Rows and totals -/

/-- The values of what a source gives, or the first error among it. -/
def readRows {α : Type} (target : Target α) (t : Table) :
    List (Except DataSourceError Row) → Except Error (List α)
  | [] => .ok []
  | .error e :: _ => .error (.dataSource e)
  | .ok r :: rest =>
    match mapRow target t r with
    | .error e => .error (.mapping e)
    | .ok v => (readRows target t rest).map (v :: ·)

/-- The total that a count stands for; a negative count is none. -/
def readTotal : Except DataSourceError Int64 → Except Error Nat
  | .error e => .error (.dataSource e)
  | .ok n =>
    if n.toInt < 0 then
      .error (.dataSource ⟨.decode, "count statement returned " ++ toString n.toInt⟩)
    else .ok n.toInt.toNat

end Execution

/-! ## Executions -/

namespace Executor

open Execution

/-- The table of a type and the two bound statements of a description: the page and the count. -/
def prepare (x : Executor) (type : TargetType) (d : Descriptor) (extra : Parameters) :
    Except ConfigurationError (Table × BoundStatement × BoundStatement) := do
  d.filters.forM fun f => (x.registry.lookup f.operation).map fun _ => ()
  let t ← x.catalogue.table type
  let base ← t.baseText
  let plan ← Plan.build x.registry x.settings.pageCap d base extra
  let data ← x.source.dialect.bind plan.data plan.parameters
  let count ← x.source.dialect.bind plan.count plan.parameters
  .ok (t, data, count)

/-- An execution without the event of its error. -/
def run {α : Type} (x : Executor) (target : Target α) (d : Descriptor) (extra : Parameters) :
    Traced Action Error (Page α) := do
  let (t, data, count) ←
    (Traced.ofExcept (x.prepare target.type d extra)).mapError Error.configuration
  .emit (statementEvent x.settings target.name "data" data)
  .emit (statementEvent x.settings target.name "count" count)
  .emit (.fetch data)
  let values ← .ofExcept (readRows target t (x.source.rows data))
  .emit (.count count)
  let total ← .ofExcept (readTotal (x.source.total count))
  .emit (successEvent target.name values.length total)
  pure ⟨values, total⟩

/-- The page of a description, with values for placeholders that the base query has itself. -/
def execute {α : Type} (x : Executor) (target : Target α) (d : Descriptor)
    (extra : Parameters) : Traced Action Error (Page α) :=
  let result := x.run target d extra
  match result.outcome with
  | .ok _ => result
  | .error e => { result with trace := result.trace ++ [failureEvent target.name e] }

/-- The page of a description whose base query has no placeholders of its own. -/
def fetch {α : Type} (x : Executor) (target : Target α) (d : Descriptor) :
    Traced Action Error (Page α) :=
  x.execute target d .empty

end Executor

end TableQuery
