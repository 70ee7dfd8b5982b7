import TableQuery.Event
import TableQuery.Json
import TableQuery.Text.Quoted

/-!
# Lines of a log

A log writes each event as a line of text or as a JSON object.  An execution is a span: its events
carry its name and its target type if the span is shown.

* `Event.line` — the line of an event;
* `Event.record` — the JSON object of an event.
-/

namespace TableQuery

/-- The text of the value of a field. -/
def Field.text : Field → String
  | .plain s => s
  | .quoted s => Text.quoted s
  | .count n => toString n
  | .flag b => if b then "true" else "false"

/-- The JSON form of the value of a field. -/
def Field.json : Field → Json
  | .plain s => .text s
  | .quoted s => .text s
  | .count n => .int n
  | .flag b => .bool b

namespace Event

/-- The name of the span of an execution. -/
def spanName : String := "execute"

/-- The name of the field of a span with the target type. -/
def spanField : String := "target_type"

/-- The line of an event without its time. -/
def line (e : Event) : String :=
  let span := match e.span with
    | none => ""
    | some typeName =>
      spanName ++ "\x7b" ++ spanField ++ "=" ++ Text.quoted typeName ++ "\x7d: "
  let fields := e.fields.map fun (name, v) => " " ++ name ++ "=" ++ v.text
  e.level.name ++ " " ++ span ++ e.origin.name ++ ": " ++ e.message ++ String.join fields

/-- The JSON object of an event without its time. -/
def record (e : Event) : Json :=
  let fields := Json.ofFields
    (("message", .text e.message) :: e.fields.map fun (name, v) => (name, v.json))
  let spans := match e.span with
    | none => []
    | some typeName =>
      let span := Json.ofFields [("name", .text spanName), (spanField, .text typeName)]
      [("span", span), ("spans", .array [span])]
  .ofFields ([("fields", fields), ("level", .text e.level.name), ("target", .text e.origin.name)]
    ++ spans)

end Event

end TableQuery
