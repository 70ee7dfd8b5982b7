import TableQuery.Event
import TableQuery.Table
import TableQuery.Traced

/-!
# The catalogue of tables

A `Catalogue` holds the tables of all target types that a program queries.  It is made at once from
all registrations; the first one with a defect is an error.

* `TargetType` — a target type, which is more than the name that messages show;
* `Registration` — a target type and its declaration;
* `Catalogue.build` — the catalogue of some registrations;
* `Catalogue.table`, `Catalogue.column?`, `Catalogue.propertyOf?` — reading it.
-/

namespace TableQuery

/-! ## Target types -/

/-- A target type.  Its name is what messages show, and several types may have the same one. -/
structure TargetType where
  /-- The name that messages show. -/
  name : String
  /-- Which of the types of this name it is. -/
  variant : Nat
  deriving DecidableEq, Inhabited, Repr

/-- A name alone stands for the first type that has it. -/
instance : Coe String TargetType := ⟨fun name => ⟨name, 0⟩⟩

/-- A target type and its declaration. -/
structure Registration where
  /-- The target type. -/
  type : TargetType
  /-- What is declared about it. -/
  declaration : Declaration
  deriving DecidableEq, Inhabited, Repr

/-- The tables of target types. -/
structure Catalogue where
  /-- The tables with their types. -/
  tables : List (TargetType × Table)

namespace Catalogue

/-- No tables. -/
def empty : Catalogue := ⟨[]⟩

/-- The table of a type, if it has one. -/
def find? (c : Catalogue) (type : TargetType) : Option Table := c.tables.lookup type

/-- The type has a table. -/
def isRegistered (c : Catalogue) (type : TargetType) : Bool := (c.find? type).isSome

/-- The catalogue with the table of one more type. -/
def insert (c : Catalogue) (type : TargetType) (t : Table) : Catalogue := ⟨(type, t) :: c.tables⟩

/-- Nothing is found where there are no tables. -/
@[simp] theorem find?_empty (type : TargetType) : empty.find? type = none := rfl

/-- A table that was put in is found under its type, and no other type is touched. -/
@[simp] theorem find?_insert (c : Catalogue) (type type' : TargetType) (t : Table) :
    (c.insert type t).find? type' = if type' = type then some t else c.find? type' := by
  rw [find?, insert, List.lookup_cons]
  by_cases h : type' = type
  · simp [h]
  · simp [h, beq_false_of_ne h, find?]

/-! ## Making a catalogue -/

/-- The event of a registration. -/
def registered (t : Table) : Event where
  level := .debug
  origin := .metadata
  message := "Registered data table"
  fields := [("target_type", .quoted t.typeName), ("properties", .count t.properties.length)]
  span := none

/-- One more table, whose type must not have one. -/
def add (folder : Folder) (c : Catalogue) (r : Registration) :
    Traced Event ConfigurationError Catalogue :=
  if c.isRegistered r.type then .fail (.duplicateTable r.type.name)
  else do
    let table ← .ofExcept (Table.ofDeclaration folder r.type.name r.declaration)
    .emit (registered table)
    pure (c.insert r.type table)

/-- The catalogue of registrations, in their order. -/
def build (folder : Folder) (registrations : List Registration) :
    Traced Event ConfigurationError Catalogue :=
  registrations.foldlM (add folder) empty

/-! ## Reading a catalogue -/

/-- The table of a type. -/
def table (c : Catalogue) (type : TargetType) : Except ConfigurationError Table :=
  match c.find? type with
  | some t => .ok t
  | none => .error (.unregisteredType type.name)

/-- The base query of a type. -/
def baseText (c : Catalogue) (type : TargetType) : Except ConfigurationError String := do
  (← c.table type).baseText

/-- The column of a property of a type. -/
def column? (c : Catalogue) (type : TargetType) (property : String) : Option String :=
  ((c.find? type).bind fun t => t.property? property).map Property.column

/-- The property of a column label of a type. -/
def propertyOf? (c : Catalogue) (type : TargetType) (label : String) : Option Property :=
  (c.find? type).bind fun t => t.propertyOf? label

end Catalogue

end TableQuery
