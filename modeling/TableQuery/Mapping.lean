import TableQuery.Catalogue
import TableQuery.Row
import TableQuery.Shape

/-!
# From rows to values of a target type

A row becomes a JSON object and the object a value.  A column goes to the property of its label, in
any letter case; a column of no property is left out, and so is the absent value.  When several
columns go to one property, the last one that is there counts.

* `Target` — a target type with the reader of its values;
* `fieldsOf` — the object of a row;
* `mapRow`, `mapRows` — the values of one row, and of several.
-/

namespace TableQuery

/-- A target type and how its values are read. -/
structure Target (α : Type) where
  /-- The type. -/
  type : TargetType
  /-- Reads a value from a JSON object. -/
  read : Json → Except Refusal α

/-- The name of the type, as messages show it. -/
def Target.name {α : Type} (target : Target α) : String := target.type.name

/-- The target type of a shape. -/
def Target.ofShape (type : TargetType) (shape : Shape) : Target Json := ⟨type, shape.read⟩

/-- The object so far with one more column. -/
def addColumn (t : Table) (fields : Keyed Json) (column : String × Json) :
    Except MappingError (Keyed Json) :=
  match t.propertyOf? column.1 with
  | none => .ok fields
  | some p =>
    match p.kind.coerce column.2 with
    | .error e => .error ⟨t.typeName, some p.name, e.message⟩
    | .ok v => .ok (if v.isNull then fields else fields.insert p.name v)

/-- The object of a row: the values of its properties that are there. -/
def fieldsOf (t : Table) (r : Row) : Except MappingError (Keyed Json) :=
  r.columns.foldlM (addColumn t) .empty

/-- The mapping error of a refusal. -/
def Refusal.toMappingError (r : Refusal) (typeName : String) : MappingError :=
  ⟨typeName, placeText r.place, r.cause⟩

/-- The value of a row. -/
def mapRow {α : Type} (target : Target α) (t : Table) (r : Row) : Except MappingError α :=
  match fieldsOf t r with
  | .error e => .error e
  | .ok fields =>
    match target.read (.ofKeyed fields) with
    | .error refusal => .error (refusal.toMappingError t.typeName)
    | .ok v => .ok v

/-- The values of rows, or the error of the first row that has none. -/
def mapRows {α : Type} (target : Target α) (t : Table) (rows : List Row) :
    Except MappingError (List α) :=
  rows.mapM (mapRow target t)

/-- The value of a row of a type that the catalogue knows. -/
def Catalogue.convert {α : Type} (c : Catalogue) (target : Target α) (r : Row) :
    Except Error α := do
  let t ← (c.table target.type).mapError Error.configuration
  (mapRow target t r).mapError Error.mapping

/-- The values of rows of a type that the catalogue knows. -/
def Catalogue.convertAll {α : Type} (c : Catalogue) (target : Target α) (rows : List Row) :
    Except Error (List α) := do
  let t ← (c.table target.type).mapError Error.configuration
  (mapRows target t rows).mapError Error.mapping

end TableQuery
