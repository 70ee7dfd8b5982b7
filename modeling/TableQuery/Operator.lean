import TableQuery.Event
import TableQuery.Traced
import TableQuery.Error

/-!
# Filter operators

An operator writes the condition that compares a column with the placeholder of the same name, and
says which value the placeholder takes.  A `Registry` holds operators by their ids.

* `Operator.comparison`, `Operator.contains`, `Operator.oneOf` — the operators of this library;
* `Registry.lookup`, `Registry.ids` — reading a registry;
* `Registry.register`, `Registry.registerAll` — more operators, never one in place of another;
* `Registry.builtin` — the operators of this library alone.
-/

namespace TableQuery

/-! ## Operators -/

/-- An operator of filters. -/
structure Operator where
  /-- The name that filters call it by. -/
  id : String
  /-- The condition on a column, which refers to the placeholder of the same name. -/
  fragment : String → String
  /-- The value that the placeholder takes for the value of a filter. -/
  parameter : Value → Value

namespace Operator

/-- Compares a column with a value by a symbol. -/
def comparison (id symbol : String) : Operator where
  id := id
  fragment column := column ++ " " ++ symbol ++ " :" ++ column
  parameter v := v

/-- A text that has the value inside it, by the pattern match of the database. -/
def contains : Operator where
  id := "contains"
  fragment column := column ++ " LIKE \x27%\x27 || :" ++ column ++ " || \x27%\x27"
  parameter v := v

/-- One of several values; a value that is no list is the only one. -/
def oneOf : Operator where
  id := "in"
  fragment column := column ++ " IN (:" ++ column ++ ")"
  parameter
    | .list items => .list items
    | v => .list [v]

/-- The operators of this library. -/
def builtins : List Operator :=
  [comparison "equals" "=", comparison "lt" "<", comparison "lte" "<=", comparison "gt" ">",
    comparison "gte" ">=", contains, oneOf]

/-- The event of a registration. -/
def registered (op : Operator) : Event where
  level := .trace
  origin := .filter
  message := "Registered filter operator"
  fields := [("operator", .plain op.id)]
  span := none

end Operator

/-! ## Registries -/

/-- Operators by their ids. -/
structure Registry where
  operators : Keyed Operator

namespace Registry

/-- No operators. -/
def empty : Registry := ⟨.empty⟩

/-- The operator of an id. -/
def lookup (r : Registry) (id : String) : Except ConfigurationError Operator :=
  match r.operators.get? id with
  | some op => .ok op
  | none => .error (.unknownOperator id)

/-- There is an operator of this id. -/
def contains (r : Registry) (id : String) : Bool := r.operators.contains id

/-- The ids, least first. -/
def ids (r : Registry) : List String := r.operators.keys

/-- The number of operators. -/
def size (r : Registry) : Nat := r.operators.size

/-- There is no operator. -/
def isEmpty (r : Registry) : Bool := r.operators.isEmpty

/-- One more operator, which must have an id of its own. -/
def register (r : Registry) (op : Operator) : Traced Event ConfigurationError Registry :=
  if r.contains op.id then .fail (.duplicateOperator op.id)
  else ⟨[op.registered], .ok ⟨r.operators.insert op.id op⟩⟩

/-- Several more operators, one after the other. -/
def registerAll (r : Registry) (ops : List Operator) :
    Traced Event ConfigurationError Registry :=
  ops.foldlM register r

/-- The operators of this library alone. -/
def builtin : Registry := ⟨.ofList (Operator.builtins.map fun op => (op.id, op))⟩

end Registry

end TableQuery
