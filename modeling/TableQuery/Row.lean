import TableQuery.Json

/-!
# Rows

A row is what a data source gives: labelled JSON values in the order of the columns.  Labels may
occur more than once.
-/

namespace TableQuery

/-- A row of a data source. -/
structure Row where
  /-- The labels and values in the order of the columns. -/
  columns : List (String × Json)
  deriving BEq, Inhabited

namespace Row

/-- The row without columns. -/
def empty : Row := ⟨[]⟩

/-- One more column at the end. -/
def push (r : Row) (label : String) (v : Json) : Row := ⟨r.columns ++ [(label, v)]⟩

/-- The value of the first column with this label. -/
def get? (r : Row) (label : String) : Option Json := r.columns.lookup label

/-- The labels in the order of the columns. -/
def labels (r : Row) : List String := r.columns.map Prod.fst

/-- The number of columns. -/
def size (r : Row) : Nat := r.columns.length

/-- There is no column. -/
def isEmpty (r : Row) : Bool := r.columns.isEmpty

end Row

end TableQuery
