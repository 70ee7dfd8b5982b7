import TableQuery.Decimal.Reading
import TableQuery.Settings.Tree
import TableQuery.Text.Blank
import TableQuery.Toml.Quoted

/-!
# Settings in environment variables

A variable sets something if its name starts with `ACTON_QUERY_`, in any letter case.  The rest of
the name is the path of the setting in small letters, with two underscores or a dot between its
keys.  The value is a truth value, a table in braces, a list in brackets, a text between double
quotes, a character between single quotes, or a word: a number or any other text.  A value that is
none of these to its end is a text as a whole.

* `Environment.pathOf?` — the path that the name of a variable stands for;
* `Environment.readTree` — the tree that its value writes;
* `Environment.layer` — the layer of all variables, a later one over an earlier one.
-/

namespace TableQuery.Environment

/-! ## Names -/

/-- What the names of all variables of settings start with. -/
def namespaceWord : String := "ACTON_QUERY_"

/-- A text in which two underscores are a dot. -/
def dotted : List Char → List Char
  | '_' :: '_' :: rest => '.' :: dotted rest
  | c :: rest => c :: dotted rest
  | [] => []

/-- The path that the name of a variable stands for: blanks around it do not count, and its keys
are not empty. -/
def pathOf? (name : String) : Option (List String) := do
  let rest ← Text.after? (Text.lower namespaceWord).toList (Text.lower name).toList
  let keys := Text.splitAll '.' (Text.trim (String.ofList (dotted rest)))
  if keys.contains "" then none else some keys

/-! ## Words -/

/-- A blank that may stand around a value. -/
def isBlank (c : Char) : Bool :=
  c == ' ' || c == '\t' || c == '\n' || c == '\x0c' || c == '\r'

/-- A character that ends a word. -/
def isSeparator (c : Char) : Bool :=
  c == ',' || c == '\x7b' || c == '\x7d' || c == '[' || c == ']'

/-- The tree of a word: a double if it has a point and is a number, an integer if it is one of
sixty-four bits without or with a sign, and otherwise a text. -/
def wordTree (word : String) : Tree :=
  let double := if word.toList.contains '.' then Decimal.readFloat word else none
  match double, Decimal.readNat (UInt64.size - 1) word, Decimal.readInt64 word with
  | some x, _, _ => .double x
  | none, some n, _ => .unsigned n
  | none, none, some i => .signed i.toInt
  | none, none, none => .text word

/-! ## Quoted texts -/

/-- The characters before the closing quote, which no backslash stands before, and after it. -/
def cutQuoted : List Char → Option (List Char × List Char)
  | '\x22' :: rest => some ([], rest)
  | '\\' :: c :: rest => (cutQuoted rest).map fun (inside, rest) => ('\\' :: c :: inside, rest)
  | c :: rest => (cutQuoted rest).map fun (inside, rest) => (c :: inside, rest)
  | [] => none

/-- The first characters of a text whose bytes have room. -/
def fitting : Nat → List Char → List Char
  | room, c :: rest =>
    if c.utf8Size ≤ room then c :: fitting (room - c.utf8Size) rest else []
  | _, [] => []

/-- A text with escapes, after its opening quote.  If there is an escape, the part before the first
one is cut to as many bytes as it has characters. -/
def readQuoted? (cs : List Char) : Option (String × List Char) := do
  let (inside, rest) ← cutQuoted cs
  let (text, _) ← Toml.readBasic (inside.length + 1) (inside ++ ['\x22'])
  let plain := inside.takeWhile (· != '\\')
  let kept := if plain = inside then plain else fitting plain.length plain
  some (String.ofList (kept ++ text.drop plain.length), rest)

/-- A key of a table in braces. -/
def readKey? (cs : List Char) : Option (String × List Char) :=
  let isKeyChar c := Char.isAlphanum c || c == '_' || c == '-'
  match cs with
  | '\x22' :: rest => readQuoted? rest
  | _ =>
    if cs.takeWhile isKeyChar = [] then none
    else some (String.ofList (cs.takeWhile isKeyChar), cs.dropWhile isKeyChar)

/-! ## Values -/

mutual

/-- A value with the blanks around it. -/
def readValue? : Nat → List Char → Option (Tree × List Char)
  | 0, _ => none
  | fuel + 1, cs =>
    let start := cs.dropWhile isBlank
    let value := match Text.after? "true".toList start, Text.after? "false".toList start with
      | some rest, _ => some (Tree.truth true, rest)
      | _, some rest => some (Tree.truth false, rest)
      | _, _ =>
        match start with
        | '\x7b' :: rest =>
          (readPairs? fuel rest).map fun (fields, rest) =>
            (.table (Keyed.ofList fields).entries, rest)
        | '[' :: rest => (readItems? fuel rest).map fun (items, rest) => (.list items, rest)
        | '\x22' :: rest => (readQuoted? rest).map fun (s, rest) => (.text s, rest)
        | '\x27' :: c :: '\x27' :: rest => some (.text c.toString, rest)
        | '\x27' :: _ => none
        | _ =>
          let word := start.takeWhile fun c => !isSeparator c
          some (wordTree (Text.trim (String.ofList word)), start.dropWhile fun c => !isSeparator c)
    value.map fun (t, rest) => (t, rest.dropWhile isBlank)

/-- The items of a list and its closing bracket. -/
def readItems? : Nat → List Char → Option (List Tree × List Char)
  | 0, _ => none
  | _, ']' :: rest => some ([], rest)
  | fuel + 1, cs =>
    match readValue? fuel cs with
    | some (item, ',' :: rest) =>
      (readItems? fuel rest).map fun (items, rest) => (item :: items, rest)
    | some (item, ']' :: rest) => some ([item], rest)
    | _ => none

/-- The fields of a table and its closing brace. -/
def readPairs? : Nat → List Char → Option (List (String × Tree) × List Char)
  | 0, _ => none
  | _, '\x7d' :: rest => some ([], rest)
  | fuel + 1, cs =>
    match (readKey? (cs.dropWhile isBlank)).map fun (k, r) => (k, r.dropWhile isBlank) with
    | some (key, '=' :: rest) =>
      match readValue? fuel rest with
      | some (value, ',' :: rest) =>
        (readPairs? fuel rest).map fun (fields, rest) => ((key, value) :: fields, rest)
      | some (value, '\x7d' :: rest) => some ([(key, value)], rest)
      | _ => none
    | _ => none

end

/-- The tree that the value of a variable writes. -/
def readTree (value : String) : Tree :=
  match readValue? (2 * value.length + 2) value.toList with
  | some (t, []) => t
  | _ => .text value

/-! ## Layers -/

/-- The layer of the variables, given as names and values. -/
def layer (entries : List (String × String)) : Tree :=
  entries.foldl (fun lower (name, value) =>
    match pathOf? name with
    | some path => lower.overlay (Tree.under path (readTree value))
    | none => lower) (.table [])

end TableQuery.Environment
