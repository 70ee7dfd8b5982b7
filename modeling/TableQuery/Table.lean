import TableQuery.Folder
import TableQuery.Identifier
import TableQuery.Text.Blank

/-!
# Tables

The table of a target type says where its rows come from and which property each column is.  A
`Declaration` is what a user writes; a `Table` is a declaration that was checked and whose base
query was read.

* `Property` — a name, a column and a kind;
* `condense` — the text of a query file on one line, without blank lines and whole-line comments;
* `baseQuery` — the base query that a reference stands for;
* `Table.ofDeclaration` — the checks, the first defect being the error;
* `Table.property?`, `Table.propertyOf?` — the property of a name, and of a column label.
-/

namespace TableQuery

/-! ## Declarations -/

/-- A property of a target type. -/
structure Property where
  /-- The name of the property. -/
  name : String
  /-- The column that holds it. -/
  column : String
  /-- The kind of its values. -/
  kind : Kind
  deriving DecidableEq, Inhabited, Repr

/-- A property in a column of the same name. -/
def Property.named (name : String) (kind : Kind) : Property := ⟨name, name, kind⟩

/-- What a user says about the table of a type. -/
structure Declaration where
  /-- A query, or the name of a query file. -/
  dataTable : Option String
  /-- The properties in order. -/
  properties : List Property
  deriving DecidableEq, Inhabited, Repr

/-! ## Base queries -/

/-- The text of a query file on one line: each line without blanks around it, and no line that is
blank or begins with a comment. -/
def condense (text : String) : String :=
  let lines := (Text.splitAll '\n' text).map Text.trim
  " ".intercalate (lines.filter fun line => line ≠ "" && !Text.startsWith "--" line)

/-- A reference names a file if it ends in `.sql`, in any letter case; otherwise it is the query
itself. -/
def namesFile (reference : String) : Bool := Text.endsWith ".sql" (Text.lower reference)

/-- The base query that a reference stands for. -/
def baseQuery (folder : Folder) (reference : String) : Except ConfigurationError String :=
  let reference := Text.trim reference
  if namesFile reference then
    match folder.readText reference with
    | .ok text => .ok (condense text)
    | .error obstacle =>
      .error (.unreadableQueryFile (folder.pathOf reference) obstacle.message)
  else .ok reference

/-! ## Tables -/

/-- The table of a target type. -/
structure Table where
  /-- The name of the target type. -/
  typeName : String
  /-- The base query, if there is one. -/
  base : Option String
  /-- The properties in order. -/
  properties : List Property
  deriving DecidableEq, Inhabited, Repr

namespace Table

/-- A property of that name is among these. -/
def hasName (properties : List Property) (name : String) : Bool :=
  properties.any fun p => p.name == name

/-- A property in that column, in any letter case, is among these. -/
def hasColumn (properties : List Property) (column : String) : Bool :=
  properties.any fun p => Text.sameLetters p.column column

/-- Checks properties one after the other, given those before them. -/
def checkProperties (typeName : String) :
    List Property → List Property → Except ConfigurationError Unit
  | _, [] => .ok ()
  | earlier, p :: rest => do
    checkIdentifier p.name
    checkIdentifier p.column
    if hasName earlier p.name then .error (.duplicateProperty typeName p.name)
    else if hasColumn earlier p.column then .error (.duplicateColumn typeName p.column)
    else checkProperties typeName (earlier ++ [p]) rest

/-- The table of a declaration, whose base query may be in a file of the folder. -/
def ofDeclaration (folder : Folder) (typeName : String) (d : Declaration) :
    Except ConfigurationError Table := do
  let base ← d.dataTable.mapM (baseQuery folder)
  checkProperties typeName [] d.properties
  .ok ⟨typeName, base, d.properties⟩

/-- The base query. -/
def baseText (t : Table) : Except ConfigurationError String :=
  match t.base with
  | some base => .ok base
  | none => .error (.missingDataTable t.typeName)

/-- The property of a name. -/
def property? (t : Table) (name : String) : Option Property :=
  t.properties.find? fun p => p.name == name

/-- The property of a column label, in any letter case. -/
def propertyOf? (t : Table) (label : String) : Option Property :=
  t.properties.find? fun p => Text.sameLetters p.column label

end Table

end TableQuery
