import TableQuery.Database.Reader
import TableQuery.Execution

/-!
# A database in memory

A `Database` holds tables in memory and answers the statements of executions.  A table is created
with declared columns and rows.  Every row has a number, which is its integer primary key where
there is one, and the rows stand in the order of their numbers.

* `Database.create` — one more table;
* `Database.answer` — the relation of a bound statement;
* `Database.toSource` — the database as the source of an executor.
-/

namespace TableQuery

/-- Tables in memory. -/
structure Database where
  /-- The tables by their names. -/
  tables : Database.Tables
  deriving Inhabited

namespace Database

/-- No tables. -/
def empty : Database := ⟨[]⟩

/-! ## Tables -/

/-- The words of a primary key stand somewhere among words, and nothing says that it descends. -/
def hasKeyWords : List String → Bool
  | "primary" :: "key" :: rest => rest.head? != some "desc"
  | _ :: rest => hasKeyWords rest
  | [] => false

/-- The declaration of an integer primary key. -/
def isPrimaryKey (declared : String) : Bool :=
  Affinity.typeOf declared == "integer" && hasKeyWords (Affinity.wordsOf declared)

/-- A row of values as the columns store them. -/
def storeRow (columns : List Column) (row : List Value) : List Cell :=
  (columns.zip row).map fun (c, v) => c.affinity.store (Cell.ofValue v)

/-- The numbers of rows with these keys: a row without a key comes after the greatest number so
far; an increment that is automatic never goes below one. -/
def rowNumbers : Option Int → List Cell → List Int
  | _, [] => []
  | greatest, key :: rest =>
    let n := match key with
      | .integer i => i.toInt
      | _ => greatest.elim 1 (· + 1)
    n :: rowNumbers (some (greatest.elim n (max n))) rest

/-- A table with these columns, given by names and declared types, and these rows. -/
def relationOf (columns : List (String × String)) (rows : List (List Value)) : Relation :=
  let made : List Column :=
    columns.map fun (name, declared) => { label := name, affinity := .ofDeclared declared }
  let key := columns.findIdx? fun c => isPrimaryKey c.2
  let stored := rows.map (storeRow made)
  let keyOf (row : List Cell) : Cell := (key.bind fun i => row[i]?).getD .null
  let isCounted := columns.any fun c => (Affinity.wordsOf c.2).contains "autoincrement"
  let numbered := (rowNumbers (if isCounted then some 0 else none) (stored.map keyOf)).zip stored
  let ordered := numbered.mergeSort fun a b => a.1 ≤ b.1
  ⟨made ++ [{ label := "rowid", affinity := .numeric, isNumber := true }],
    ordered.map fun (n, row) =>
      let number := Cell.integer (Int64.ofInt n)
      key.elim row (fun i => row.set i number) ++ [number]⟩

/-- One more table. -/
def create (d : Database) (name : String) (columns : List (String × String))
    (rows : List (List Value)) : Database :=
  ⟨d.tables ++ [(name, relationOf columns rows)]⟩

/-! ## Answers -/

/-- The relation of a bound statement. -/
def answer (d : Database) (s : BoundStatement) : Except Fault Relation := do
  (← Query.read s.sql).run d.tables (s.values.map Cell.ofValue)

/-- The JSON value of a cell in this place; bytes have none. -/
def jsonOf (index : Nat) : Cell → Except DataSourceError Json
  | .null => .ok .null
  | .integer i => .ok (.ofInt64 i)
  | .real x => .ok (.ofFloat x)
  | .text s => .ok (.text s)
  | .blob _ =>
    .error ⟨.decode, "unsupported SQLite value type BLOB at index " ++ toString index⟩

/-- The JSON values of cells, the first of which has this place. -/
def jsonsOf : Nat → List Cell → Except DataSourceError (List Json)
  | _, [] => .ok []
  | index, c :: rest => do
    let v ← jsonOf index c
    .ok (v :: (← jsonsOf (index + 1) rest))

/-- A row of a relation as a row of a source. -/
def rowOf (columns : List Column) (row : List Cell) : Except DataSourceError Row := do
  .ok ⟨(columns.map Column.label).zip (← jsonsOf 0 row)⟩

/-- The name of the type of a cell that is no integer. -/
def typeName : Cell → String
  | .real _ => "REAL"
  | .text _ => "TEXT"
  | .blob _ => "BLOB"
  | _ => "INTEGER"

/-- The number that a cell gives; nothing gives zero. -/
def numberOf : Cell → Except Fault Int64
  | .integer i => .ok i
  | .null => .ok 0
  | c =>
    let wanted := "mismatched types; Rust type `i64` (as SQL type `INTEGER`)"
    let found := " is not compatible with SQL type `" ++ typeName c ++ "`"
    .error (.unreadableColumn "0" (wanted ++ found))

/-- The rows of a statement. -/
def rows (d : Database) (s : BoundStatement) : List (Except DataSourceError Row) :=
  match d.answer s with
  | .error fault => [.error fault.toError]
  | .ok r => r.rows.map (rowOf r.columns)

/-- The number in the first column of the first row of a statement. -/
def total (d : Database) (s : BoundStatement) : Except DataSourceError Int64 :=
  let number : Except Fault Int64 := do
    let r ← d.answer s
    match r.rows with
    | [] => .error .noRow
    | row :: _ => numberOf (row.head?.getD .null)
  number.mapError Fault.toError

/-- The database as the source of an executor. -/
def toSource (d : Database) : Source := ⟨.sqlite, d.rows, d.total⟩

end Database

end TableQuery
