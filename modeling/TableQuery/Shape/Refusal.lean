import TableQuery.Json.Printer
import TableQuery.Text.Quoted

/-!
# Why a JSON value has not the shape of a type

A `Refusal` is a place inside a value and a cause in words.  The place is the way to it through fields
and items; the whole value has the empty way.  The words may be any: shapes take theirs from
`ShapeError`, and a type with a reader of its own says what it wants.

* `Step`, `placeText` — the way to a place, and how it is written;
* `Refusal` — a cause at a place;
* `ShapeError` — the causes that shapes have, with their wording.
-/

namespace TableQuery

/-! ## Places -/

/-- A step into a value. -/
inductive Step where
  /-- To the field of this name. -/
  | field (name : String)
  /-- To the item with this number. -/
  | item (index : Nat)
  deriving DecidableEq, Repr

/-- The text of the steps after a first one. -/
def stepsText : List Step → String
  | [] => ""
  | .field name :: rest => "." ++ name ++ stepsText rest
  | .item index :: rest => "[" ++ toString index ++ "]" ++ stepsText rest

/-- The text of a place; the whole value has none. -/
def placeText : List Step → Option String
  | [] => none
  | .field name :: rest => some (name ++ stepsText rest)
  | steps => some (stepsText steps)

/-! ## Causes -/

/-- What a value is, in words. -/
def Json.described : Json → String
  | .null => "null"
  | .bool b => "boolean `" ++ (Json.bool b).compact ++ "`"
  | .int i => "integer `" ++ toString i ++ "`"
  | .real x => "floating point `" ++ (Json.real x).compact ++ "`"
  | .text s => "string " ++ Text.quoted s
  | .array _ => "sequence"
  | .object _ => "map"

/-- Why a value has not a shape, as shapes say it. -/
inductive ShapeError where
  /-- It is of another type. -/
  | wrongType (found : Json) (wanted : String)
  /-- It is an integer out of range. -/
  | outOfRange (found : Int) (wanted : String)
  /-- It has no field of this name. -/
  | missingField (name : String)
  /-- It has a field that the type has not. -/
  | unknownField (name : String) (known : List String)
  /-- It names a variant that the type has not. -/
  | unknownVariant (name : String) (known : List String)
  /-- It is an array with too few items. -/
  | tooShort (length : Nat) (typeName : String) (fields : Nat)
  /-- It is an array with too many items. -/
  | tooLong (length : Nat)
  /-- It is an object that should have one field and has not. -/
  | notSingle
  deriving BEq

/-- The names that would have been right. -/
def alternatives : List String → String
  | [] => ""
  | [a] => "`" ++ a ++ "`"
  | [a, b] => "`" ++ a ++ "` or `" ++ b ++ "`"
  | names => "one of " ++ ", ".intercalate (names.map fun n => "`" ++ n ++ "`")

/-- The wording of a cause. -/
def ShapeError.message : ShapeError → String
  | .wrongType found wanted => "invalid type: " ++ found.described ++ ", expected " ++ wanted
  | .outOfRange found wanted =>
    "invalid value: integer `" ++ toString found ++ "`, expected " ++ wanted
  | .missingField name => "missing field `" ++ name ++ "`"
  | .unknownField name known =>
    "unknown field `" ++ name ++ "`, " ++
      (if known.isEmpty then "there are no fields" else "expected " ++ alternatives known)
  | .unknownVariant name known =>
    "unknown variant `" ++ name ++ "`, " ++
      (if known.isEmpty then "there are no variants" else "expected " ++ alternatives known)
  | .tooShort length typeName fields =>
    "invalid length " ++ toString length ++ ", expected " ++ typeName ++ " with " ++
      toString fields ++ (if fields = 1 then " element" else " elements")
  | .tooLong length => "invalid length " ++ toString length ++ ", expected fewer elements in array"
  | .notSingle => "invalid value: map, expected map with a single key"

/-! ## Refusals -/

/-- A cause at a place. -/
structure Refusal where
  /-- The way to the place. -/
  place : List Step
  /-- What is wrong there, in words. -/
  cause : String
  deriving BEq

/-- The same refusal seen from the value around it. -/
def Refusal.under (step : Step) (r : Refusal) : Refusal := { r with place := step :: r.place }

/-- A cause at the value itself. -/
def ShapeError.here (cause : ShapeError) : Refusal := ⟨[], cause.message⟩

end TableQuery
