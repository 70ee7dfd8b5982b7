import TableQuery.Settings.Tree

/-!
# The tables of a TOML document

A table comes into being in three ways: a header names it, a header names a table inside it, or a
key with dots goes through it.  Each table may be named by one header only, a header may not name
what dotted keys have made, and dotted keys may not go into what a header has named.  A double
header adds a table to a list.

* `Node` — what stands under a key while the document is read;
* `Node.inside` — a change of the table at the end of a path;
* `Node.open?`, `Node.append?` — a header and a double header;
* `Node.assign?` — a key with a value;
* `Node.toTree` — the tree of what was read.
-/

namespace TableQuery.Toml

/-- How a table came into being. -/
inductive Making where
  /-- A header names it. -/
  | named
  /-- A header names a table inside it. -/
  | passed
  /-- A dotted key goes through it. -/
  | dotted
  deriving DecidableEq, Repr

/-- What stands under a key. -/
inductive Node where
  /-- A value, which is complete. -/
  | value (t : Tree)
  | table (making : Making) (fields : List (String × Node))
  /-- A list of tables, the last one first. -/
  | tables (items : List (List (String × Node)))
  deriving Inhabited

/-- A table that is being read. -/
structure Fields where
  /-- How it came into being. -/
  making : Making
  fields : List (String × Node)

namespace Node

/-! ## Changes inside a table -/

/-- Fields with another node under a key. -/
def set (key : String) (node : Node) : List (String × Node) → List (String × Node)
  | [] => [(key, node)]
  | (k, n) :: rest => if k = key then (k, node) :: rest else (k, n) :: set key node rest

/-- Changes the table at the end of a path.  Missing tables on the way are made as `making` says,
and the way goes through the last table of a list.  A dotted way does not go through a table that a
header has named. -/
def inside (making : Making) (change : Fields → Option Fields) :
    List String → Fields → Option Fields
  | [], t => change t
  | key :: path, t =>
    let next (u : Fields) := inside making change path u
    match t.fields.lookup key with
    | none => do
      let u ← next ⟨making, []⟩
      some { t with fields := set key (.table u.making u.fields) t.fields }
    | some (.value _) => none
    | some (.table made fields) => do
      if making = .dotted ∧ made = .named then none
      else
        let u ← next ⟨made, fields⟩
        some { t with fields := set key (.table u.making u.fields) t.fields }
    | some (.tables []) => none
    | some (.tables (last :: earlier)) => do
      let u ← next ⟨.named, last⟩
      some { t with fields := set key (.tables (u.fields :: earlier)) t.fields }

/-! ## Headers and keys -/

/-- The last key of a path with those before it. -/
def splitLast? (path : List String) : Option (List String × String) :=
  path.getLast?.map fun last => (path.dropLast, last)

/-- A header names the table at this path. -/
def open? (path : List String) (root : Fields) : Option Fields := do
  let (parents, last) ← splitLast? path
  inside .passed (fun t =>
    match t.fields.lookup last with
    | none => some { t with fields := set last (.table .named []) t.fields }
    | some (.table .passed fields) =>
      some { t with fields := set last (.table .named fields) t.fields }
    | some _ => none) parents root

/-- A double header adds a table to the list at this path. -/
def append? (path : List String) (root : Fields) : Option Fields := do
  let (parents, last) ← splitLast? path
  inside .passed (fun t =>
    match t.fields.lookup last with
    | none => some { t with fields := set last (.tables [[]]) t.fields }
    | some (.tables items) => some { t with fields := set last (.tables ([] :: items)) t.fields }
    | some _ => none) parents root

/-- A key, perhaps with dots, gets a value.  The table that it goes to must be the one that the key
is written in, or must be made by dotted keys alone. -/
def assign? (path : List String) (value : Tree) (t : Fields) : Option Fields := do
  let (parents, last) ← splitLast? path
  inside .dotted (fun u =>
    if u.making = .dotted ↔ parents = [] then none
    else if (u.fields.lookup last).isSome then none
    else some { u with fields := set last (.value value) u.fields }) parents t

/-- A key gets a value in the table that the last header names. -/
def assignUnder? (header path : List String) (value : Tree) (root : Fields) : Option Fields :=
  inside .passed (assign? path value) header root

/-! ## Trees -/

mutual

/-- The tree of a node. -/
def toTree : Node → Tree
  | .value t => t
  | .table _ fields => .table (toFields fields)
  | .tables items => .list (toItems items).reverse

/-- The fields of a table, least key first. -/
def toFields : List (String × Node) → List (String × Tree)
  | [] => []
  | (key, node) :: rest => Keyed.place key (toTree node) (toFields rest)

/-- The tables of a list. -/
def toItems : List (List (String × Node)) → List Tree
  | [] => []
  | fields :: rest => .table (toFields fields) :: toItems rest

end

end Node

/-- The tree of a document or of a table in braces. -/
def Fields.toTree (t : Fields) : Tree := .table (Node.toFields t.fields)

end TableQuery.Toml
