import TableQuery.Descriptor
import TableQuery.Identifier
import TableQuery.Operator

/-!
# Plans of queries

A `Plan` is what a description comes to for one base query: the statement of the page, the
statement that counts all rows, and the values of both.  The base query is wrapped, so that
conditions and orders see its columns only, and the count wraps the statement before its limit.

* `bareBase` — a base query without blanks and semicolons at its end;
* `Draft` — the text and the values so far;
* `Plan.build` — the plan of a description.
-/

namespace TableQuery

/-! ## Texts -/

/-- A base query without blanks around it and without semicolons at its end. -/
def bareBase (base : String) : String :=
  String.ofList (Text.trimEnd (Text.dropEndWhile (· == ';') (Text.trimChars base.toList)))

/-- The base query as a table, with a condition that always holds. -/
def wrapBase (base : String) : String :=
  "SELECT * FROM (" ++ bareBase base ++ ") AS scope WHERE 1 = 1"

/-- The statement that counts the rows of a statement. -/
def countText (statement : String) : String :=
  "SELECT COUNT(1) FROM (" ++ statement ++ ") AS c"

/-- The order keys as a clause; without keys there is none. -/
def orderText (orders : List (String × Direction)) : String :=
  if orders.isEmpty then ""
  else " ORDER BY " ++ ", ".intercalate (orders.map fun o => o.1 ++ " " ++ o.2.keyword)

/-- The limit and the offset as a clause. -/
def windowText : Option Window → String
  | none => ""
  | some w => " LIMIT " ++ toString w.limit.toNat ++ " OFFSET " ++ toString w.offset.toNat

/-! ## Steps -/

/-- A statement that is being put together. -/
structure Draft where
  /-- The text so far. -/
  text : String
  /-- The values so far. -/
  parameters : Parameters

namespace Draft

/-- One more value, which must have a name of its own. -/
def withParameter (d : Draft) (key : String) (v : Value) : Except ConfigurationError Draft :=
  if d.parameters.contains key then .error (.parameterCollision key)
  else .ok { d with parameters := d.parameters.insert key v }

/-- One more condition, with its value. -/
def withFilter (r : Registry) (d : Draft) (f : PropertyFilter) :
    Except ConfigurationError Draft := do
  let op ← r.lookup f.operation
  checkIdentifier f.column
  let d := { d with text := d.text ++ " AND " ++ op.fragment f.column }
  d.withParameter f.column (op.parameter f.value)

end Draft

/-! ## Plans -/

/-- The statements of a description, and their values. -/
structure Plan where
  /-- The statement of the page. -/
  data : String
  /-- The statement that counts all rows. -/
  count : String
  /-- The values of both. -/
  parameters : Parameters

namespace Plan

/-- The text of a plan before the window, and its values. -/
def core (r : Registry) (d : Descriptor) (base : String) (extra : Parameters) :
    Except ConfigurationError Draft := do
  let filtered ← d.filters.foldlM (Draft.withFilter r) ⟨wrapBase base, .empty⟩
  let full ← extra.entries.foldlM (fun draft e => draft.withParameter e.1 e.2) filtered
  d.orders.forM fun o => checkIdentifier o.1
  .ok { full with text := full.text ++ orderText d.orders }

/-- The plan of a description, with pages no larger than the cap. -/
def build (r : Registry) (cap : Option UInt64) (d : Descriptor) (base : String)
    (extra : Parameters) : Except ConfigurationError Plan := do
  let draft ← core r d base extra
  .ok
    { data := draft.text ++ windowText (d.windowCapped cap)
      count := countText draft.text
      parameters := draft.parameters }

end Plan

end TableQuery
