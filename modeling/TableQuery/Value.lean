import TableQuery.Json.Printer
import TableQuery.Text.Quoted

/-!
# Values of statements

A `Value` is what a filter or an extra parameter carries into a statement.  It has three texts and
a JSON form:

* `Value.display` — the text for people: texts as they are, lists in brackets;
* `Value.source` — the text for logs: each value under the name of its kind;
* `Value.toJson`, `Value.ofJson?` — the JSON form, which has no names of kinds: the reader takes
  the first kind in the order of the constructors that fits.

`Parameters` are values under the names that a statement refers to.
-/

namespace TableQuery

/-- A value that is bound into a statement. -/
inductive Value where
  /-- The absent value. -/
  | null
  /-- A truth value. -/
  | boolean (b : Bool)
  /-- An integer of sixty-four bits. -/
  | integer (i : Int64)
  /-- A double. -/
  | real (x : Float)
  | text (s : String)
  /-- Several values, which take one placeholder each. -/
  | list (items : List Value)
  deriving BEq, Inhabited

/-- Values under the names that a statement refers to. -/
abbrev Parameters := Keyed Value

namespace Value

/-- The value is a list. -/
def isList : Value → Bool
  | .list _ => true
  | _ => false

/-- The value is the absent one. -/
def isNull : Value → Bool
  | .null => true
  | _ => false

/-- An optional value; its absence is the absent value. -/
def ofOption (v : Option Value) : Value := v.getD .null

/-! ## Texts -/

mutual

/-- The text for people. -/
def display : Value → String
  | .null => "NULL"
  | .boolean b => if b then "true" else "false"
  | .integer i => toString i.toInt
  | .real x => Layout.plain.text x
  | .text s => s
  | .list items => "[" ++ displayItems items ++ "]"

/-- The texts of several values. -/
def displayItems : List Value → String
  | [] => ""
  | [item] => display item
  | item :: rest => display item ++ ", " ++ displayItems rest

end

mutual

/-- The text for logs. -/
def source : Value → String
  | .null => "Null"
  | .boolean b => "Boolean(" ++ (if b then "true" else "false") ++ ")"
  | .integer i => "Integer(" ++ toString i.toInt ++ ")"
  | .real x => "Float(" ++ Layout.source.text x ++ ")"
  | .text s => "Text(" ++ Text.quoted s ++ ")"
  | .list items => "List([" ++ sourceItems items ++ "])"

/-- The texts of several values. -/
def sourceItems : List Value → String
  | [] => ""
  | [item] => source item
  | item :: rest => source item ++ ", " ++ sourceItems rest

end

/-- The text for logs of the values of a statement. -/
def sourceList (items : List Value) : String := "[" ++ sourceItems items ++ "]"

/-! ## JSON -/

mutual

/-- The JSON form; a double that is not finite has none and becomes `null`. -/
def toJson : Value → Json
  | .null => .null
  | .boolean b => .bool b
  | .integer i => .ofInt64 i
  | .real x => .ofFloat x
  | .text s => .text s
  | .list items => .array (toJsonItems items)

/-- The JSON forms of several values. -/
def toJsonItems : List Value → List Json
  | [] => []
  | item :: rest => toJson item :: toJsonItems rest

end

mutual

/-- The value of a JSON form.  An integer that does not fit is read as a double, and an object is
no value. -/
def ofJson? : Json → Option Value
  | .null => some .null
  | .bool b => some (.boolean b)
  | .int i =>
    if Json.FitsInt64 i then some (.integer (Int64.ofInt i)) else some (.real (Float.ofInt i))
  | .real x => some (.real x)
  | .text s => some (.text s)
  | .array items => (ofJsonItems? items).map .list
  | .object _ => none

/-- The values of several JSON forms, if each is the form of a value. -/
def ofJsonItems? : List Json → Option (List Value)
  | [] => some []
  | item :: rest =>
    match ofJson? item, ofJsonItems? rest with
    | some v, some vs => some (v :: vs)
    | _, _ => none

end

/-- What the reader of JSON forms says about all others. -/
def ofJsonRefusal : String := "data did not match any variant of untagged enum SqlValue"

end Value

end TableQuery
