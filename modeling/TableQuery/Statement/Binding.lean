import TableQuery.Statement.Lexical

/-!
# Binding values to a statement

A statement refers to its values by name.  A database takes them by position: each placeholder is
replaced by the next numbered one, and the values are listed in that order.  A list takes one
placeholder for each of its items, with commas between them, and an empty one is `NULL`.

* `Dialect` — how a database writes its placeholders;
* `BoundStatement` — a statement with numbered placeholders, and their values;
* `Value.operands` — the values that take a placeholder each;
* `Dialect.bind` — a statement bound to its parameters.
-/

namespace TableQuery

/-- How a database writes its placeholders. -/
inductive Dialect where
  /-- A dollar sign and a number. -/
  | postgres
  /-- A question mark and a number. -/
  | sqlite
  deriving DecidableEq, Repr

/-- A statement with numbered placeholders, and their values in order. -/
structure BoundStatement where
  /-- The text of the statement. -/
  sql : String
  /-- The value of each placeholder. -/
  values : List Value
  deriving BEq, Inhabited

/-- The values that take a placeholder each: the items of a list, or the value itself. -/
def Value.operands : Value → List Value
  | .list items => items
  | v => [v]

namespace Dialect

/-- The name of a dialect. -/
def name : Dialect → String
  | .postgres => "postgres"
  | .sqlite => "sqlite"

/-- The placeholder at a position; the first one is number one. -/
def placeholder : Dialect → Nat → String
  | .postgres, n => "$" ++ toString n
  | .sqlite, n => "?" ++ toString n

/-- The text of `count` placeholders after the first `bound` ones. -/
def slots (d : Dialect) (bound count : Nat) : String :=
  if count = 0 then "NULL"
  else ", ".intercalate ((List.range' (bound + 1) count).map d.placeholder)

/-- Fills the pieces of a statement after `bound` placeholders: its characters and its values. -/
def fill (d : Dialect) (parameters : Parameters) :
    Nat → List Piece → Except ConfigurationError (List Char × List Value)
  | _, [] => .ok ([], [])
  | bound, .char c :: rest =>
    match fill d parameters bound rest with
    | .error e => .error e
    | .ok (text, values) => .ok (c :: text, values)
  | bound, .placeholder name :: rest =>
    match parameters.get? name with
    | none => .error (.unboundParameter name)
    | some v =>
      match fill d parameters (bound + v.operands.length) rest with
      | .error e => .error e
      | .ok (text, values) =>
        .ok ((d.slots bound v.operands.length).toList ++ text, v.operands ++ values)

/-- A statement bound to its parameters.  It fails at the first placeholder without a value. -/
def bind (d : Dialect) (sql : String) (parameters : Parameters) :
    Except ConfigurationError BoundStatement :=
  match d.fill parameters 0 (Lexical.scan .code sql.toList) with
  | .error e => .error e
  | .ok (text, values) => .ok ⟨String.ofList text, values⟩

end Dialect

end TableQuery
