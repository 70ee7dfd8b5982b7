import TableQuery.Value
import TableQuery.Text.Blank
import TableQuery.Decimal.Reading

/-!
# Kinds of properties

The kind of a property says which values it has.  It is used in two directions:

* `Kind.read` — the value that a request writes as text;
* `Kind.coerce` — the JSON value that a column holds, brought into the shape of the kind.

Both ignore blanks around numbers and truth values.  Both fail with a cause and never guess: a
number that is not whole is no integer, and `null` is a value of every kind.
-/

namespace TableQuery

/-- The kinds of properties. -/
inductive Kind where
  /-- Texts. -/
  | text
  /-- Integers of sixty-four bits. -/
  | integer
  /-- Doubles. -/
  | float
  /-- Truth values. -/
  | boolean
  /-- JSON values, which are left as they are. -/
  | json
  deriving DecidableEq, Inhabited, Repr

namespace Kind

/-- The name of a kind. -/
def name : Kind → String
  | .text => "text"
  | .integer => "integer"
  | .float => "float"
  | .boolean => "boolean"
  | .json => "json"

/-- What a text of the kind denotes. -/
def noun : Kind → String
  | .float => "number"
  | kind => kind.name

/-! ## Texts of the kinds -/

/-- The truth value that a text names, in any letter case. -/
def truthOf (s : String) : Option Bool :=
  let word := Text.lower s
  if word = "true" ∨ word = "1" then some true
  else if word = "false" ∨ word = "0" then some false
  else none

/-- The integer that a text writes between blanks. -/
def integerIn (s : String) : Option Int64 := Decimal.readInt64 (Text.trim s)

/-- The double that a text writes between blanks. -/
def floatIn (s : String) : Option Float := Decimal.readFloat (Text.trim s)

/-- The truth value that a text names between blanks. -/
def truthIn (s : String) : Option Bool := truthOf (Text.trim s)

/-! ## Reading requests -/

/-- A text that does not write a value of a kind. -/
structure Unreadable where
  kind : Kind
  /-- The text. -/
  raw : String
  deriving DecidableEq, Repr

/-- The wording of the failure. -/
def Unreadable.message (e : Unreadable) : String :=
  let article := match e.kind with
    | .integer => "an "
    | _ => "a "
  "`" ++ e.raw ++ "` is not " ++ article ++ e.kind.noun

/-- The value of the kind that a text writes. -/
def read (kind : Kind) (raw : String) : Except Unreadable Value :=
  match kind with
  | .text | .json => .ok (.text raw)
  | .integer => ((integerIn raw).map .integer).elim (.error ⟨kind, raw⟩) .ok
  | .float => ((floatIn raw).map .real).elim (.error ⟨kind, raw⟩) .ok
  | .boolean => ((truthIn raw).map .boolean).elim (.error ⟨kind, raw⟩) .ok

/-! ## Coercing columns -/

/-- Why a JSON value is not brought into the shape of a kind. -/
inductive Mismatch where
  /-- It is a text that does not write a value of the kind. -/
  | unreadable (kind : Kind) (raw : String)
  /-- The kind has no such value. -/
  | foreign (kind : Kind) (found : Json)
  deriving BEq

/-- The wording of the failure. -/
def Mismatch.message : Mismatch → String
  | .unreadable kind raw => "expected " ++ kind.noun ++ ", found `" ++ raw ++ "`"
  | .foreign kind found => "expected " ++ kind.name ++ ", found " ++ found.compact

/-- The integer of sixty-four bits that a JSON number equals.  A double must be whole and less
than `2 ^ 63` in absolute value. -/
def wholeOf? : Json → Option Int
  | .int i => if Json.FitsInt64 i then some i else none
  | .real x => ((Dyadic.ofFloat? x).bind Dyadic.toInt?).filter fun i => i.natAbs < Nat.pow 2 63
  | _ => none

/-- The integer of a JSON value. -/
def coerceInteger (v : Json) : Except Mismatch Json :=
  match v with
  | .bool b => .ok (.int (if b then 1 else 0))
  | .text s => ((integerIn s).map Json.ofInt64).elim (.error (.unreadable .integer s)) .ok
  | v => ((wholeOf? v).map Json.int).elim (.error (.foreign .integer v)) .ok

/-- The double of a JSON value; a text may write one that JSON does not have. -/
def coerceFloat : Json → Except Mismatch Json
  | .int i => .ok (.ofFloat (Float.ofInt i))
  | .real x => .ok (.ofFloat x)
  | .text s => ((floatIn s).map Json.ofFloat).elim (.error (.unreadable .float s)) .ok
  | v => .error (.foreign .float v)

/-- The truth value of a JSON value. -/
def coerceBoolean : Json → Except Mismatch Json
  | .bool b => .ok (.bool b)
  | .int 0 => .ok (.bool false)
  | .int 1 => .ok (.bool true)
  | .text s => ((truthIn s).map Json.bool).elim (.error (.unreadable .boolean s)) .ok
  | v => .error (.foreign .boolean v)

/-- The text of a JSON value. -/
def coerceText : Json → Except Mismatch Json
  | .text s => .ok (.text s)
  | .int i => .ok (.text (Json.int i).compact)
  | .real x => .ok (.text (Json.real x).compact)
  | .bool b => .ok (.text (Json.bool b).compact)
  | v => .error (.foreign .text v)

/-- A JSON value in the shape of the kind. -/
def coerce (kind : Kind) (v : Json) : Except Mismatch Json :=
  if v.isNull then .ok .null
  else match kind with
    | .json => .ok v
    | .text => coerceText v
    | .integer => coerceInteger v
    | .float => coerceFloat v
    | .boolean => coerceBoolean v

end Kind

end TableQuery
