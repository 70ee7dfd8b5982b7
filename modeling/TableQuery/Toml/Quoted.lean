import TableQuery.Text.Split

/-!
# Texts in TOML documents

A text stands between double quotes, with escapes after a backslash, or between single quotes,
without any.  Three quotes make a text that may go over several lines: a line break right after the
opening quotes does not count, every other one is a line feed, and in double quotes a backslash at
the end of a line takes the blanks and line breaks after it away.

All functions here take the characters after the opening quotes and give the text with the
characters after the closing ones.
-/

namespace TableQuery.Toml

/-- What is read, and the characters that are left. -/
abbrev Reading (α : Type) := Option (α × List Char)

/-! ## Characters -/

/-- A space or a tab. -/
def isSpace (c : Char) : Bool := c == ' ' || c == '\t'

/-- A character that may stand in a comment or a text on one line: no control but the tab. -/
def isVisible (c : Char) : Bool := c == '\t' || (0x20 ≤ c.toNat && c.toNat != 0x7F)

/-- The characters after a line break. -/
def afterBreak? : List Char → Option (List Char)
  | '\n' :: rest => some rest
  | '\r' :: '\n' :: rest => some rest
  | _ => none

/-- The value of a hexadecimal digit. -/
def hexDigit? (c : Char) : Option Nat :=
  if c.isDigit then some (c.toNat - '0'.toNat)
  else if 'a' ≤ c ∧ c ≤ 'f' then some (c.toNat - 'a'.toNat + 10)
  else if 'A' ≤ c ∧ c ≤ 'F' then some (c.toNat - 'A'.toNat + 10)
  else none

/-- The character whose code point a run of hexadecimal digits writes. -/
def scalarOf? (digits : List Char) : Option Char := do
  let code ← digits.foldlM (fun n c => (hexDigit? c).map (16 * n + ·)) 0
  if code.isValidChar then some (Char.ofNat code) else none

/-- A code point with this number of hexadecimal digits. -/
def readScalar (count : Nat) (cs : List Char) : Reading Char :=
  if (cs.take count).length = count then
    (scalarOf? (cs.take count)).map fun c => (c, cs.drop count)
  else none

/-- The character of an escape, from the characters after its backslash. -/
def readEscape : List Char → Reading Char
  | 'b' :: rest => some ('\x08', rest)
  | 't' :: rest => some ('\t', rest)
  | 'n' :: rest => some ('\n', rest)
  | 'f' :: rest => some ('\x0c', rest)
  | 'r' :: rest => some ('\r', rest)
  | '\x22' :: rest => some ('\x22', rest)
  | '\\' :: rest => some ('\\', rest)
  | 'u' :: rest => readScalar 4 rest
  | 'U' :: rest => readScalar 8 rest
  | _ => none

/-! ## Texts on one line -/

/-- One more character before what is read. -/
def prepend (c : Char) (r : Reading (List Char)) : Reading (List Char) :=
  r.map fun (text, rest) => (c :: text, rest)

/-- A text between double quotes. -/
def readBasic : Nat → List Char → Reading (List Char)
  | _, '\x22' :: rest => some ([], rest)
  | fuel + 1, '\\' :: rest =>
    (readEscape rest).bind fun (c, rest) => prepend c (readBasic fuel rest)
  | fuel + 1, c :: rest => if isVisible c then prepend c (readBasic fuel rest) else none
  | _, _ => none

/-- A text between single quotes. -/
def readLiteral : List Char → Reading (List Char)
  | '\x27' :: rest => some ([], rest)
  | c :: rest => if isVisible c then prepend c (readLiteral rest) else none
  | [] => none

/-! ## Texts on several lines -/

/-- The end of a text on several lines: three quotes, with one or two more that belong to it. -/
def readClosing (quote : Char) (cs : List Char) : Reading (List Char) :=
  let run := (cs.takeWhile (· == quote)).length
  if 3 ≤ run then
    let inside := min (run - 3) 2
    some (List.replicate inside quote, cs.drop (inside + 3))
  else none

/-- The characters after spaces, tabs and line breaks. -/
def skipBreaks : List Char → List Char
  | '\n' :: rest => skipBreaks rest
  | '\r' :: '\n' :: rest => skipBreaks rest
  | c :: rest => if isSpace c then skipBreaks rest else c :: rest
  | [] => []

/-- The characters after the blanks and line breaks that a backslash at the end of a line takes
away, if there is a line break among them. -/
def afterContinuation? (cs : List Char) : Option (List Char) :=
  (afterBreak? (cs.dropWhile isSpace)).map skipBreaks

/-- A text between three double quotes. -/
def readLongBasic : Nat → List Char → Reading (List Char)
  | 0, _ => none
  | _ + 1, [] => none
  | fuel + 1, c :: rest =>
    match readClosing '\x22' (c :: rest) with
    | some closed => some closed
    | none =>
      if c = '\\' then
        match afterContinuation? rest with
        | some rest => readLongBasic fuel rest
        | none => (readEscape rest).bind fun (e, rest) => prepend e (readLongBasic fuel rest)
      else match afterBreak? (c :: rest) with
        | some rest => prepend '\n' (readLongBasic fuel rest)
        | none => if isVisible c then prepend c (readLongBasic fuel rest) else none

/-- A text between three single quotes. -/
def readLongLiteral : Nat → List Char → Reading (List Char)
  | 0, _ => none
  | _ + 1, [] => none
  | fuel + 1, c :: rest =>
    match readClosing '\x27' (c :: rest) with
    | some closed => some closed
    | none =>
      match afterBreak? (c :: rest) with
      | some rest => prepend '\n' (readLongLiteral fuel rest)
      | none => if isVisible c then prepend c (readLongLiteral fuel rest) else none

/-! ## All texts -/

/-- The characters after a line break, if there is one. -/
def withoutBreak (cs : List Char) : List Char := (afterBreak? cs).getD cs

/-- A text on one line with its quotes. -/
def readShort? : List Char → Reading String
  | '\x22' :: rest => (readBasic rest.length rest).map fun (t, r) => (String.ofList t, r)
  | '\x27' :: rest => (readLiteral rest).map fun (t, r) => (String.ofList t, r)
  | _ => none

/-- A text with its quotes. -/
def readText? : List Char → Reading String
  | '\x22' :: '\x22' :: '\x22' :: rest =>
    (readLongBasic (rest.length + 1) (withoutBreak rest)).map fun (t, r) => (String.ofList t, r)
  | '\x27' :: '\x27' :: '\x27' :: rest =>
    (readLongLiteral (rest.length + 1) (withoutBreak rest)).map fun (t, r) => (String.ofList t, r)
  | cs => readShort? cs

end TableQuery.Toml
