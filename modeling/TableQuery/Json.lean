import TableQuery.Keyed

/-!
# JSON values

A JSON value keeps integers and doubles apart: `1` and `1.0` are different values.  The fields of
an object stand in the order of their names, each name once, and a double is finite.

* `Json` — the values;
* `Json.ofFields` — an object from fields in any order;
* `Json.ofFloat` — a double as JSON, which has no infinities.
-/

namespace TableQuery

/-- A JSON value. -/
inductive Json where
  /-- The value `null`. -/
  | null
  /-- A truth value. -/
  | bool (b : Bool)
  /-- A number written without point and exponent. -/
  | int (i : Int)
  /-- Any other number. -/
  | real (x : Float)
  /-- A string. -/
  | text (s : String)
  | array (items : List Json)
  /-- An object, its fields in the order of their names. -/
  | object (fields : List (String × Json))
  deriving BEq, Inhabited

namespace Json

/-- The value is `null`. -/
def isNull : Json → Bool
  | .null => true
  | _ => false

/-- An object from fields in any order; a later field replaces an earlier one of the same name. -/
def ofFields (fields : List (String × Json)) : Json := .object (Keyed.ofList fields).entries

/-- An object from fields in the order of their names. -/
def ofKeyed (fields : Keyed Json) : Json := .object fields.entries

/-- A double as JSON; one that is not finite has no number and becomes `null`. -/
def ofFloat (x : Float) : Json := if x.isFinite then .real x else .null

/-- The integer has sixty-four bits with a sign. -/
abbrev FitsInt64 (i : Int) : Prop := Int64.minValue.toInt ≤ i ∧ i ≤ Int64.maxValue.toInt

/-- An integer of sixty-four bits as JSON. -/
def ofInt64 (i : Int64) : Json := .int i.toInt

/-- The field of an object. -/
def field? (name : String) : Json → Option Json
  | .object fields => fields.lookup name
  | _ => none

end Json

end TableQuery
