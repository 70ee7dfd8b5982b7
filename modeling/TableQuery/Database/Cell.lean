import TableQuery.Database.Number
import TableQuery.Text.Blank
import TableQuery.Value

/-!
# Cells

A cell of a table is absent, a number, a text or a run of bytes.  Cells of different kinds are
ordered by kind, numbers by value, and texts and bytes from left to right.  The affinity of a column
says into which form a value is brought when it is stored in it or compared with it.

* `Cell`, `Cell.compare` — the cells and their order;
* `Cell.ofValue` — the cell of a bound value;
* `Cell.text?` — the text of a cell for a pattern;
* `Affinity`, `Affinity.ofDeclared`, `Affinity.store` — the forms of columns;
* `Affinity.align` — both sides of a comparison in one form.
-/

namespace TableQuery.Database

/-- A cell of a table. -/
inductive Cell where
  /-- Nothing. -/
  | null
  /-- An integer of sixty-four bits. -/
  | integer (i : Int64)
  /-- A double that is a number or infinite. -/
  | real (x : Float)
  | text (s : String)
  /-- A run of bytes. -/
  | blob (bytes : List UInt8)
  deriving DecidableEq, Inhabited

namespace Cell

/-! ## Order -/

/-- The rank of a kind of cells. -/
def rank : Cell → Nat
  | .null => 0
  | .integer _ | .real _ => 1
  | .text _ => 2
  | .blob _ => 3

/-- The order of an integer and a double by their exact values. -/
def compareIntReal (i : Int64) (x : Float) : Ordering :=
  match Dyadic.ofFloat? x with
  | some d => (Dyadic.ofInt i.toInt).compare d
  | none => if x < 0.0 then .gt else .lt

/-- The order of two doubles. -/
def compareReal (x y : Float) : Ordering :=
  if x < y then .lt else if y < x then .gt else .eq

/-- The order of cells. -/
def compare : Cell → Cell → Ordering
  | .integer i, .integer j => Ord.compare i.toInt j.toInt
  | .integer i, .real y => compareIntReal i y
  | .real x, .integer j => (compareIntReal j x).swap
  | .real x, .real y => compareReal x y
  | .text s, .text t => if s < t then .lt else if s = t then .eq else .gt
  | .blob a, .blob b => Ord.compare a b
  | a, b => Ord.compare a.rank b.rank

/-! ## Values and texts -/

/-- The cell of a bound value; a list and what is no number are nothing. -/
def ofValue : Value → Cell
  | .null | .list _ => .null
  | .boolean b => .integer (if b then 1 else 0)
  | .integer i => .integer i
  | .real x => if x.isNaN then .null else .real x
  | .text s => .text s

/-- The text of a cell, if it is something. -/
def text? : Cell → Option String
  | .null => none
  | .integer i => some (toString i.toInt)
  | .real x => some (realText x)
  | .text s => some s
  | .blob bytes => some (String.ofList (bytes.map fun b => Char.ofNat b.toNat))

/-- A cell as a truth value, if it is something: a number other than zero, or the text of one. -/
def truth? : Cell → Option Bool
  | .null => none
  | .integer i => some (i != 0)
  | .real x => some (x != 0.0)
  | .text s => some (((Numeral.read? s).map Numeral.significand).getD 0 != 0)
  | .blob _ => some false

end Cell

/-! ## Affinity -/

/-- The form into which the values of a column are brought. -/
inductive Affinity where
  /-- As they are. -/
  | any
  /-- Texts. -/
  | text
  /-- Numbers where they are numbers. -/
  | numeric
  /-- Doubles where they are numbers. -/
  | real
  deriving DecidableEq, Inhabited, Repr

namespace Affinity

/-- A word stands somewhere in a text. -/
def mentions (text word : String) : Bool := (Text.cutAround word.toList text.toList).isSome

/-- The words of a declaration in lower case. -/
def wordsOf (declared : String) : List String :=
  (((Text.lower declared).splitToList isBlank).filter (· ≠ ""))

/-- The words that start a constraint; the name of the type stands before them. -/
def constraintWords : List String :=
  ["constraint", "default", "null", "not", "primary", "unique", "check", "references", "collate",
    "as"]

/-- The name of the type in a declaration, in lower case. -/
def typeOf (declared : String) : String :=
  " ".intercalate ((wordsOf declared).takeWhile fun w => !constraintWords.contains w)

/-- The affinity of a column with this declaration. -/
def ofDeclared (declared : String) : Affinity :=
  let name := typeOf declared
  if mentions name "int" then .numeric
  else if mentions name "char" || mentions name "clob" || mentions name "text" then .text
  else if mentions name "blob" || name = "" then .any
  else if mentions name "real" || mentions name "floa" || mentions name "doub" then .real
  else .numeric

/-- Numbers count as numbers. -/
def isNumeric : Affinity → Bool
  | .numeric | .real => true
  | _ => false

/-- The number that a text writes: an integer if it is written as one and has sixty-four bits, and
otherwise a double. -/
def number? (s : String) : Option Cell :=
  (Numeral.read? s).map fun n =>
    let integer := if n.whole then Decimal.readInt64 (trimmed s) else none
    integer.elim (.real n.toFloat) .integer

/-- A text as a number if it writes one. -/
def toNumber : Cell → Cell
  | .text s => (number? s).getD (.text s)
  | c => c

/-- A number as a text. -/
def toText : Cell → Cell
  | .integer i => .text ((Cell.integer i).text?.getD "")
  | .real x => .text (realText x)
  | c => c

/-- An integer as a double. -/
def toReal : Cell → Cell
  | .integer i => .real (Float.ofInt i.toInt)
  | c => c

/-- A whole double as an integer, unless it is the least or the greatest one or beyond; so a zero
loses its sign. -/
def toWhole : Cell → Cell
  | .real x =>
    match (Dyadic.ofFloat? x).bind Dyadic.toInt? with
    | some i =>
      if Int64.minValue.toInt < i ∧ i < Int64.maxValue.toInt then .integer (Int64.ofInt i)
      else .real x
    | none => .real x
  | c => c

/-- A cell as a column stores it. -/
def store : Affinity → Cell → Cell
  | .any, c => c
  | .text, c => toText c
  | .numeric, c => toWhole (toNumber c)
  | .real, c => toReal (toWhole (toNumber c))

/-- Both sides of a comparison in the form that the columns among them ask for: a numeric column
makes a number of a text on the other side, and otherwise a column of texts makes a text of a
number. -/
def align (a b : Affinity) (left right : Cell) : Cell × Cell :=
  if a.isNumeric || b.isNumeric then
    (if a.isNumeric then left else toNumber left, if b.isNumeric then right else toNumber right)
  else if a = .text || b = .text then (toText left, toText right)
  else (left, right)

end Affinity

end TableQuery.Database
