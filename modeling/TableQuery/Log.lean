import TableQuery.Log.Filter
import TableQuery.Log.Line
import TableQuery.Settings.Basic

/-!
# The log

The log is set up once: its filter and its form stay what they are, and a later attempt to set it
up is itself only an event.  The filter comes from the environment if there is one and it can be
read, else from the settings, else it shows what happens in general.

* `Log` — a filter and a form;
* `Log.ofSettings` — the log of some settings;
* `Log.setUpEvents` — the events of setting it up several times;
* `Log.written` — the entries of the log for some events.
-/

namespace TableQuery

/-- How events are written. -/
structure Log where
  /-- Which events are shown. -/
  filter : LogFilter
  /-- Events are written as JSON. -/
  json : Bool
  deriving DecidableEq, Repr

/-- An entry of a log. -/
inductive LogEntry where
  /-- A line of text. -/
  | line (s : String)
  /-- A JSON object. -/
  | record (v : Json)
  deriving BEq

namespace Log

/-- The filter when none can be read. -/
def generalFilter : LogFilter := ⟨[{ rank := Level.info.rank }]⟩

/-- The log of some settings, with the filter of the environment if there is one. -/
def ofSettings (environment : Option String) (s : LoggingSettings) : Log :=
  let filter := (environment.bind LogFilter.read?).or (LogFilter.read? s.level)
  ⟨filter.getD generalFilter, s.json⟩

/-! ## Setting up -/

/-- The event of the first attempt to set up the log. -/
def initialized (s : LoggingSettings) : Event where
  level := .info
  origin := .observability
  message := "Tracing initialized"
  fields := [("level", .plain s.level), ("json", .flag s.json)]
  span := none

/-- The event of a later attempt. -/
def alreadySetUp : Event where
  level := .debug
  origin := .observability
  message := "Tracing subscriber already installed"
  fields := []
  span := none

/-- The events of so many attempts to set up the log. -/
def setUpEvents (s : LoggingSettings) : Nat → List Event
  | 0 => []
  | later + 1 => initialized s :: List.replicate later alreadySetUp

/-! ## Writing -/

/-- The event as the log writes it: the span is left out if the log does not know it. -/
def shown (log : Log) (e : Event) : Event :=
  if log.filter.showsSpan then e else { e with span := none }

/-- The entry of an event. -/
def entry (log : Log) (e : Event) : LogEntry :=
  if log.json then .record (log.shown e).record else .line (log.shown e).line

/-- The entries of the events that are shown. -/
def written (log : Log) (events : List Event) : List LogEntry :=
  (events.filter log.filter.admits).map log.entry

end Log

end TableQuery
