/-!
# Log events

An event has a level, the part of the program that it comes from, a message, and named fields.
An event of an execution also knows the target type of the execution, which is its span.

* `Level` — how serious an event is;
* `Field` — the value of a field and how it is shown;
* `Event` — the events.
-/

namespace TableQuery

/-- How serious an event is. -/
inductive Level where
  /-- Single steps. -/
  | trace
  /-- What helps to find an error. -/
  | debug
  /-- What happens in general. -/
  | info
  /-- What may be wrong. -/
  | warn
  /-- What is wrong. -/
  | error
  deriving DecidableEq, Repr

namespace Level

/-- The name of a level. -/
def name : Level → String
  | .trace => "TRACE"
  | .debug => "DEBUG"
  | .info => "INFO"
  | .warn => "WARN"
  | .error => "ERROR"

/-- How much a log has to admit to show the level; the most serious level needs the least. -/
def rank : Level → Nat
  | .error => 1
  | .warn => 2
  | .info => 3
  | .debug => 4
  | .trace => 5

end Level

/-- The value of a field and how it is shown. -/
inductive Field where
  /-- A text that stands as it is. -/
  | plain (s : String)
  /-- A text between quotes. -/
  | quoted (s : String)
  /-- A number. -/
  | count (n : Nat)
  /-- A truth value. -/
  | flag (b : Bool)
  deriving DecidableEq, Repr

/-- The parts of the program that log. -/
inductive Origin where
  /-- The registry of operators. -/
  | filter
  /-- The catalogue of tables. -/
  | metadata
  /-- The reader of requests. -/
  | params
  /-- The execution of queries. -/
  | executor
  /-- The log itself. -/
  | observability
  /-- The loading of settings. -/
  | config
  /-- Databases in files. -/
  | sqliteSource
  /-- Databases on servers. -/
  | postgresSource
  /-- The reading of the addresses of servers. -/
  | serverAddress
  deriving DecidableEq, Repr

/-- The name of a part, by which a log filter admits it. -/
def Origin.name : Origin → String
  | .filter => "acton_query::filter"
  | .metadata => "acton_query::metadata"
  | .params => "acton_query::params"
  | .executor => "acton_query::executor"
  | .observability => "acton_query::observability"
  | .config => "acton_query::config"
  | .sqliteSource => "acton_query::source::sqlite"
  | .postgresSource => "acton_query::source::postgres"
  | .serverAddress => "sqlx_postgres::options::parse"

/-- An entry of the log. -/
structure Event where
  /-- How serious it is. -/
  level : Level
  /-- Where it comes from. -/
  origin : Origin
  /-- What happened. -/
  message : String
  /-- The details, in the order of the text form. -/
  fields : List (String × Field)
  /-- The target type of the execution that it belongs to. -/
  span : Option String
  deriving DecidableEq, Repr

end TableQuery
