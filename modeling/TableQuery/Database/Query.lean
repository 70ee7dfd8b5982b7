import TableQuery.Database.Cell
import TableQuery.Database.Like
import TableQuery.Descriptor
import TableQuery.Fault

/-!
# Queries and their results

A query starts from a table and goes through layers, from the innermost one to the outermost: each
layer keeps the rows that satisfy its conditions, orders them, cuts out a window, and selects
columns.  A condition on nothing does not hold.  A name that is no column may be a truth value, and
the rows of a table have numbers, which are in a column that is found by name only.

* `Operand`, `Condition`, `Selection`, `Layer`, `Query` — the queries;
* `Relation` — columns and rows;
* `Layer.apply` — what a layer makes of a relation;
* `Query.run` — the result of a query on a database.
-/

namespace TableQuery.Database

/-! ## Queries -/

/-- A value in a query. -/
inductive Operand where
  /-- The value of a column; a name between quotes that is no column is a text. -/
  | column (name : String) (quoted : Bool)
  /-- The value of a placeholder; the first one is number one. -/
  | slot (n : Nat)
  /-- A value that stands in the query itself. -/
  | constant (c : Cell)
  /-- Two texts in a row. -/
  | joined (a b : Operand)
  /-- The opposite of a truth value. -/
  | negated (a : Operand)
  deriving Inhabited

/-- How two values are compared. -/
inductive Comparison where
  /-- They are equal. -/
  | equal
  /-- They differ. -/
  | different
  /-- The first one is less. -/
  | less
  /-- The first one is less or they are equal. -/
  | lessOrEqual
  /-- The first one is greater. -/
  | greater
  /-- The first one is greater or they are equal. -/
  | greaterOrEqual
  deriving DecidableEq, Repr

/-- What the rows of a layer have to satisfy. -/
inductive Condition where
  /-- A comparison of two values. -/
  | compared (how : Comparison) (a b : Operand)
  /-- Equality, or inequality, where nothing equals nothing. -/
  | same (equal : Bool) (a b : Operand)
  /-- The form of a pattern. -/
  | like (a pattern : Operand)
  /-- Equality with one of several values. -/
  | oneOf (a : Operand) (items : List Operand)
  deriving Inhabited

/-- The columns that a layer selects. -/
inductive Selection where
  /-- All columns. -/
  | all
  /-- The number of rows. -/
  | count
  /-- These values, each with a label of its own perhaps. -/
  | listed (items : List (Operand × Option String))
  deriving Inhabited

/-- One layer of a query. -/
structure Layer where
  /-- The columns. -/
  selection : Selection
  /-- What the rows have to satisfy. -/
  conditions : List Condition
  /-- The order keys, the most important one first. -/
  orders : List (Operand × Direction)
  /-- The greatest number of rows, and the number of rows before them. -/
  window : Option (Nat × Nat)
  deriving Inhabited

/-- A query: its table, unless it has none, and its layers, the innermost one first. -/
structure Query where
  table : Option String
  layers : List Layer
  deriving Inhabited

/-! ## Relations -/

/-- A column. -/
structure Column where
  label : String
  /-- The form of its values. -/
  affinity : Affinity
  /-- It holds the numbers of the rows, which are not among the values of the rows. -/
  isNumber : Bool := false
  deriving DecidableEq, Inhabited, Repr

/-- Columns and rows. -/
structure Relation where
  columns : List Column
  /-- The rows, with a cell for each column. -/
  rows : List (List Cell)
  deriving Inhabited

/-- One row without columns. -/
def Relation.unit : Relation := ⟨[], [[]]⟩

/-- Labels in which a repeated one has a number after a colon. -/
def distinctLabels : List String → List String → List String
  | _, [] => []
  | earlier, label :: rest =>
    let taken := earlier.filter fun e => Text.sameLetters e label
    (if taken.isEmpty then label else label ++ ":" ++ toString taken.length) ::
      distinctLabels (earlier ++ [label]) rest

/-- The truth value that a name stands for. -/
def truthOf? (name : String) : Option Bool :=
  match Text.lower name with
  | "true" => some true
  | "false" => some false
  | _ => none

/-- Labels in which the name of a truth value is replaced by the place of the column, counted from
this number on. -/
def namedLabels : Nat → List String → List String
  | _, [] => []
  | place, label :: rest =>
    (if (truthOf? label).isSome then "column" ++ toString place else label) ::
      namedLabels (place + 1) rest

/-- The relation with labels that another layer can refer to: no two are the same, and none is the
name of a truth value. -/
def Relation.relabelled (r : Relation) : Relation :=
  let labels := distinctLabels [] (namedLabels 1 (r.columns.map Column.label))
  { r with columns := (labels.zip r.columns).map fun (label, c) => { c with label } }

/-- The names of the number of a row. -/
def numberNames : List String := ["rowid", "oid", "_rowid_"]

/-- The place of a column of this name, in any letter case; the number of a row comes last. -/
def Relation.place? (r : Relation) (name : String) : Option Nat :=
  (r.columns.findIdx? fun c => !c.isNumber && Text.sameLetters c.label name).orElse fun _ =>
    if numberNames.contains (Text.lower name) then r.columns.findIdx? Column.isNumber else none

/-- The value of a name that is no column. -/
def valueOfName? (name : String) (quoted : Bool) : Option Cell :=
  if quoted then some (.text name)
  else (truthOf? name).map fun b => .integer (if b then 1 else 0)

/-! ## Checks -/

/-- The report about a column that is not there. -/
def noColumn (name : String) : Fault := .refused ("(code: 1) no such column: " ++ name)

/-- The report about a table that is not there. -/
def noTable (name : String) : Fault := .refused ("(code: 1) no such table: " ++ name)

/-- Refuses a value with a column that is not there. -/
def Operand.check (r : Relation) : Operand → Except Fault Unit
  | .column name quoted =>
    if (r.place? name).isSome || (valueOfName? name quoted).isSome then .ok ()
    else .error (noColumn name)
  | .joined a b => do
    a.check r
    b.check r
  | .negated a => a.check r
  | _ => .ok ()

/-- Refuses a condition with a column that is not there. -/
def Condition.check (r : Relation) : Condition → Except Fault Unit
  | .compared _ a b | .same _ a b | .like a b => do
    a.check r
    b.check r
  | .oneOf a items => do
    a.check r
    items.forM fun b => b.check r

/-- Refuses a selection with a column that is not there. -/
def Selection.check (r : Relation) : Selection → Except Fault Unit
  | .listed items => items.forM fun i => i.1.check r
  | _ => .ok ()

/-- Refuses a layer with a column that is not there: the selection comes first, then the
conditions, then the order keys. -/
def Layer.check (r : Relation) (l : Layer) : Except Fault Unit := do
  l.selection.check r
  l.conditions.forM fun c => c.check r
  l.orders.forM fun o => o.1.check r

/-! ## Values and conditions -/

/-- A row together with what its cells mean and the values of the placeholders. -/
structure Scope where
  /-- The columns. -/
  relation : Relation
  /-- The cells. -/
  row : List Cell
  /-- The values of the placeholders. -/
  values : List Cell

/-- The value of an operand. -/
def Operand.eval (s : Scope) : Operand → Cell
  | .column name quoted =>
    match s.relation.place? name with
    | some i => (s.row[i]?).getD .null
    | none => (valueOfName? name quoted).getD .null
  | .slot n => (s.values[n - 1]?).getD .null
  | .constant c => c
  | .joined a b =>
    match (a.eval s).text?, (b.eval s).text? with
    | some x, some y => .text (x ++ y)
    | _, _ => .null
  | .negated a => (a.eval s).truth?.elim .null fun b => .integer (if b then 0 else 1)

/-- The affinity of an operand; only a column has one. -/
def Operand.affinity (r : Relation) : Operand → Affinity
  | .column name _ => ((r.place? name).bind fun i => r.columns[i]?).elim .any Column.affinity
  | _ => .any

/-- Two values in one form, and their order. -/
def orderOf (s : Scope) (a b : Operand) : Ordering :=
  let (x, y) := Affinity.align (a.affinity s.relation) (b.affinity s.relation) (a.eval s) (b.eval s)
  x.compare y

/-- An order is one that the comparison asks for. -/
def Comparison.holds : Comparison → Ordering → Bool
  | .equal, o => o == .eq
  | .different, o => o != .eq
  | .less, o => o == .lt
  | .lessOrEqual, o => o != .gt
  | .greater, o => o == .gt
  | .greaterOrEqual, o => o != .lt

/-- Both values are something and compare as asked for. -/
def comparedHolds (s : Scope) (how : Comparison) (a b : Operand) : Bool :=
  a.eval s != .null && b.eval s != .null && how.holds (orderOf s a b)

/-- The characters that a pattern match sees: a text ends at its first null character. -/
def visible (s : String) : List Char := s.toList.takeWhile (· ≠ '\x00')

/-- A row satisfies a condition. -/
def Condition.holds (s : Scope) : Condition → Bool
  | .compared how a b => comparedHolds s how a b
  | .same equal a b => (orderOf s a b == .eq) == equal
  | .like a pattern =>
    match (a.eval s).text?, (pattern.eval s).text? with
    | some text, some p => isLike (visible p) (visible text)
    | _, _ => false
  | .oneOf a items => items.any fun b => comparedHolds s .equal a b

/-! ## Layers -/

/-- One row stands before another, or at least not after it, by the order keys. -/
def inOrder (orders : List (Operand × Direction)) (scope : List Cell → Scope)
    (a b : List Cell) : Bool :=
  let keyOrder (o : Operand × Direction) : Ordering :=
    let order := (o.1.eval (scope a)).compare (o.1.eval (scope b))
    match o.2 with
    | .ascending => order
    | .descending => order.swap
  orders.foldr (fun o rest => (keyOrder o).then rest) .eq != .gt

/-- The label of a selected value. -/
def labelOf (item : Operand × Option String) : String :=
  match item with
  | (_, some label) => label
  | (.column name _, none) => name
  | (.slot n, none) => "?" ++ toString n
  | (_, none) => ""

/-- The relation without the numbers of its rows. -/
def Relation.withoutNumbers (r : Relation) : Relation :=
  ⟨r.columns.filter fun c => !c.isNumber,
    r.rows.map fun row =>
      ((r.columns.zip row).filter fun (c, _) => !c.isNumber).map Prod.snd⟩

/-- The selected columns of rows. -/
def Selection.apply (scope : Relation → List Cell → Scope) (r : Relation) :
    Selection → Relation
  | .all => r.withoutNumbers
  | .count =>
    ⟨[{ label := "COUNT(1)", affinity := .any }], [[.integer (Int64.ofNat r.rows.length)]]⟩
  | .listed items =>
    ⟨items.map fun item => { label := labelOf item, affinity := item.1.affinity r },
      r.rows.map fun row => items.map fun item => item.1.eval (scope r row)⟩

/-- What a layer makes of a relation. -/
def Layer.apply (values : List Cell) (r : Relation) (l : Layer) : Except Fault Relation := do
  l.check r
  let scope (r : Relation) (row : List Cell) : Scope := ⟨r, row, values⟩
  let kept := r.rows.filter fun row => l.conditions.all fun c => c.holds (scope r row)
  let ordered := kept.mergeSort (inOrder l.orders (scope r))
  let cut := match l.window with
    | none => ordered
    | some (limit, offset) => (ordered.drop offset).take limit
  .ok (l.selection.apply scope { r with rows := cut })

/-! ## Databases -/

/-- The tables of a database by their names. -/
abbrev Tables := List (String × Relation)

/-- The result of a query, with the values of its placeholders. -/
def Query.run (tables : Tables) (values : List Cell) (q : Query) : Except Fault Relation := do
  let start ← match q.table with
    | none => .ok Relation.unit
    | some name =>
      match tables.find? fun t => Text.sameLetters t.1 name with
      | some (_, r) => .ok r
      | none => .error (noTable name)
  match q.layers with
  | [] => .ok start
  | inner :: outer =>
    outer.foldlM (fun r l => l.apply values r.relabelled) (← inner.apply values start)

end TableQuery.Database
