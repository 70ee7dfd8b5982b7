import TableQuery.Keyed
import TableQuery.Text.Quoted
import TableQuery.Decimal.Layout

/-!
# Trees of settings

A layer of settings is a tree: single values, lists, and tables of further trees under keys.  One
layer is laid over another key by key: where both have a table the tables are combined, and
anywhere else the upper layer counts.

* `Tree` — the trees;
* `Tree.overlay` — one layer over another;
* `Tree.at?` — what stands at a path;
* `Tree.under` — a tree at the end of a path.
-/

namespace TableQuery

/-- A layer of settings, or a part of one. -/
inductive Tree where
  | text (s : String)
  /-- A truth value. -/
  | truth (b : Bool)
  /-- An integer that was read as one with a sign. -/
  | signed (i : Int)
  /-- An integer that was read as one without a sign. -/
  | unsigned (n : Nat)
  | double (x : Float)
  | list (items : List Tree)
  /-- A table: trees under keys, least key first. -/
  | table (fields : List (String × Tree))
  deriving BEq, Inhabited

namespace Tree

/-- What a tree is, in words. -/
def described : Tree → String
  | .text s => "string " ++ Text.quoted s
  | .truth b => "bool " ++ (if b then "true" else "false")
  | .signed i => "signed int `" ++ toString i ++ "`"
  | .unsigned n => "unsigned int `" ++ toString n ++ "`"
  | .double x => "float `" ++ Layout.plain.text x ++ "`"
  | .list _ => "sequence"
  | .table _ => "map"

/-! ## Layers -/

/-- The fields of a table; anything else has none. -/
def fields : Tree → List (String × Tree)
  | .table fields => fields
  | _ => []

mutual

/-- The second layer over the first one. -/
def overlay (lower : Tree) : Tree → Tree
  | .table upper =>
    match lower with
    | .table fields => .table (overlayFields fields upper)
    | _ => .table upper
  | upper => upper

/-- The fields of the second layer over those of the first one. -/
def overlayFields (lower : List (String × Tree)) : List (String × Tree) → List (String × Tree)
  | [] => lower
  | (key, upper) :: rest =>
    let combined := match lower.lookup key with
      | some t => overlay t upper
      | none => upper
    overlayFields (Keyed.place key combined lower) rest

end

/-! ## Paths -/

/-- What stands at the end of a path of keys. -/
def at? : List String → Tree → Option Tree
  | [], t => some t
  | key :: rest, t => (t.fields.lookup key).bind (at? rest)

/-- A tree at the end of a path of keys. -/
def under : List String → Tree → Tree
  | [], t => t
  | key :: rest, t => .table [(key, under rest t)]

end Tree

end TableQuery
