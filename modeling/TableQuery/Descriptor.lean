import TableQuery.Value
import TableQuery.Text.Blank
import TableQuery.Text.Split

/-!
# Descriptions of queries

A `Descriptor` asks for one page of the rows of a target type: filters that all have to hold, order
keys, and a page number with a page size.  Nothing in it depends on a database.

* `Direction` — ascending or descending;
* `PropertyFilter` — one condition;
* `Descriptor` and its `with…` functions — a description, put together step by step;
* `Descriptor.window` — the rows of the page, as a limit and an offset.
-/

namespace TableQuery

/-! ## Directions -/

/-- The direction of an order. -/
inductive Direction where
  /-- The least value first. -/
  | ascending
  /-- The greatest value first. -/
  | descending
  deriving DecidableEq, Inhabited, Repr

namespace Direction

/-- The name of a direction in requests. -/
def name : Direction → String
  | .ascending => "asc"
  | .descending => "desc"

/-- The keyword of a direction in statements. -/
def keyword : Direction → String
  | .ascending => "ASC"
  | .descending => "DESC"

/-- The direction that a request names, in any letter case and between blanks. -/
def read? (raw : String) : Option Direction :=
  let word := Text.lower (Text.trim raw)
  if word = "asc" then some .ascending
  else if word = "desc" then some .descending
  else none

end Direction

/-! ## Filters -/

/-- One condition of a query. -/
structure PropertyFilter where
  /-- The property of the target type. -/
  property : String
  /-- The column of the base query, which is also the name of the placeholder. -/
  column : String
  /-- The id of the operator. -/
  operation : String
  /-- The value to compare with. -/
  value : Value
  deriving BEq, Inhabited

/-- A condition on a column that is named like the property. -/
def PropertyFilter.on (property operation : String) (value : Value) : PropertyFilter :=
  ⟨property, property, operation, value⟩

/-! ## Windows -/

/-- The rows of a page. -/
structure Window where
  /-- The greatest number of rows. -/
  limit : UInt64
  /-- The number of rows before them. -/
  offset : UInt64
  deriving DecidableEq, Repr

namespace Window

/-- The greatest number that databases take as a limit or an offset. -/
def greatest : UInt64 := 9223372036854775807

/-- A product, or the greatest number of sixty-four bits if the product is greater. -/
def boundedProduct (a b : UInt64) : UInt64 :=
  if a.toNat * b.toNat < UInt64.size then a * b else 18446744073709551615

/-- The window of a page of this size.  A cap makes larger pages smaller, but never empty. -/
def ofPage (page size : UInt64) (cap : Option UInt64) : Window :=
  let capped := match cap with
    | none => size
    | some c => min size (max c 1)
  let limit := min capped greatest
  ⟨limit, min (boundedProduct page limit) greatest⟩

end Window

/-! ## Descriptions -/

/-- One page of the rows of a target type. -/
structure Descriptor where
  /-- The number of the page; the first one is zero. -/
  page : Option UInt64 := none
  /-- The size of a page. -/
  size : Option UInt64 := none
  /-- The conditions, all of which have to hold. -/
  filters : List PropertyFilter := []
  /-- The order keys with their directions, the most important one first. -/
  orders : List (String × Direction) := []
  deriving BEq, Inhabited

namespace Descriptor

/-- All rows in any order. -/
def empty : Descriptor := {}

/-- Asks for this page. -/
def withPage (d : Descriptor) (page : UInt64) : Descriptor := { d with page := some page }

/-- Asks for pages of this size. -/
def withSize (d : Descriptor) (size : UInt64) : Descriptor := { d with size := some size }

/-- One more condition. -/
def withFilter (d : Descriptor) (f : PropertyFilter) : Descriptor :=
  { d with filters := d.filters ++ [f] }

/-- Order keys with one more, or with another direction for a key that is among them. -/
def placeOrder (key : String) (direction : Direction) :
    List (String × Direction) → List (String × Direction)
  | [] => [(key, direction)]
  | (k, e) :: rest =>
    if k = key then (k, direction) :: rest else (k, e) :: placeOrder key direction rest

/-- One more order key; a key that is there already keeps its place and takes the direction. -/
def withOrder (d : Descriptor) (key : String) (direction : Direction) : Descriptor :=
  { d with orders := placeOrder key direction d.orders }

/-- The rows of the page, if there are a page and a size and the size is not zero. -/
def windowCapped (d : Descriptor) (cap : Option UInt64) : Option Window :=
  match d.page, d.size with
  | some page, some size => if size = 0 then none else some (.ofPage page size cap)
  | _, _ => none

/-- The rows of the page when pages may have any size. -/
def window (d : Descriptor) : Option Window := d.windowCapped none

end Descriptor

end TableQuery
