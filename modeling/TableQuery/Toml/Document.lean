import TableQuery.Toml.Node
import TableQuery.Toml.Quoted
import TableQuery.Toml.Scalar

/-!
# TOML documents

A document is a sequence of lines: headers, keys with values, comments and empty lines.  A document
that breaks a rule has no tree at all.

* `readPath?` — a key, perhaps with dots;
* `readValue?` — a value: a text, a word, a list, or a table in braces;
* `readLine?` — one line;
* `Tree.ofToml?` — the tree of a document.
-/

namespace TableQuery.Toml

/-! ## Blanks and comments -/

/-- The characters after spaces and tabs. -/
def skipSpaces (cs : List Char) : List Char := cs.dropWhile isSpace

/-- The characters after a comment, if there is one. -/
def skipComment : List Char → List Char
  | '#' :: rest => rest.dropWhile isVisible
  | cs => cs

/-- The characters after spaces, comments and line breaks. -/
def skipLines : Nat → List Char → List Char
  | 0, cs => cs
  | fuel + 1, cs =>
    match afterBreak? (skipComment (skipSpaces cs)) with
    | some rest => skipLines fuel rest
    | none => skipSpaces cs

/-- The characters after the end of a line, which a comment may stand before. -/
def afterLine? (cs : List Char) : Option (List Char) :=
  let rest := skipComment (skipSpaces cs)
  if rest = [] then some [] else afterBreak? rest

/-! ## Keys -/

/-- A character of a key without quotes. -/
def isKeyChar (c : Char) : Bool := c.isAlphanum || c == '_' || c == '-'

/-- A key without dots. -/
def readKey? (cs : List Char) : Option (String × List Char) :=
  match cs with
  | '\x22' :: _ | '\x27' :: _ => readShort? cs
  | _ =>
    if cs.takeWhile isKeyChar = [] then none
    else some (String.ofList (cs.takeWhile isKeyChar), cs.dropWhile isKeyChar)

/-- The greatest number of parts of a key, and of lists and tables in braces around each other. -/
def deepest : Nat := 79

/-- The parts of a key, which dots stand between, and the spaces around them. -/
def readParts? : Nat → List Char → Option (List String × List Char)
  | 0, _ => none
  | fuel + 1, cs =>
    match readKey? (skipSpaces cs) with
    | none => none
    | some (key, rest) =>
      match skipSpaces rest with
      | '.' :: rest => (readParts? fuel rest).map fun (path, rest) => (key :: path, rest)
      | rest => some ([key], rest)

/-- A key, perhaps with dots. -/
def readPath? (cs : List Char) : Option (List String × List Char) :=
  (readParts? (cs.length + 1) cs).filter fun (path, _) => path.length ≤ deepest

/-! ## Values -/

/-- A word; a date and a time may have a space between them. -/
def readBare? (cs : List Char) : Option (Tree × List Char) :=
  let word := cs.takeWhile isWordChar
  let rest := cs.dropWhile isWordChar
  let longer := match rest with
    | ' ' :: more => word ++ ' ' :: more.takeWhile isWordChar
    | _ => word
  if isDate word ∧ longer ≠ word ∧ isMoment longer then
    some (.table [], (rest.drop 1).dropWhile isWordChar)
  else (readWord? word).map fun t => (t, rest)

mutual

/-- A value, in which so many lists and tables may stand around each other. -/
def readValue? : Nat → Nat → List Char → Option (Tree × List Char)
  | 0, _, _ => none
  | fuel + 1, levels, cs =>
    match levels, cs with
    | _, '\x22' :: _ | _, '\x27' :: _ => (readText? cs).map fun (s, rest) => (.text s, rest)
    | 0, '[' :: _ | 0, '\x7b' :: _ => none
    | levels + 1, '[' :: rest =>
      (readItems? fuel levels rest).map fun (items, rest) => (.list items, rest)
    | levels + 1, '\x7b' :: rest =>
      match skipSpaces rest with
      | '\x7d' :: rest => some (.table [], rest)
      | rest =>
        (readPairs? fuel levels ⟨.named, []⟩ rest).map fun (t, rest) => (t.toTree, rest)
    | _, _ => readBare? cs

/-- The items of a list and its closing bracket; a comma may follow the last item. -/
def readItems? : Nat → Nat → List Char → Option (List Tree × List Char)
  | 0, _, _ => none
  | fuel + 1, levels, cs =>
    match skipLines cs.length cs with
    | ']' :: rest => some ([], rest)
    | start =>
      match readValue? fuel levels start with
      | none => none
      | some (item, rest) =>
        match skipLines rest.length rest with
        | ']' :: rest => some ([item], rest)
        | ',' :: rest =>
          (readItems? fuel levels rest).map fun (items, rest) => (item :: items, rest)
        | _ => none

/-- The fields of a table in braces and its closing brace. -/
def readPairs? : Nat → Nat → Fields → List Char → Option (Fields × List Char)
  | 0, _, _, _ => none
  | fuel + 1, levels, t, cs =>
    match readPath? cs with
    | some (path, '=' :: rest) =>
      match readValue? fuel levels (skipSpaces rest) with
      | none => none
      | some (value, rest) =>
        match Node.assign? path value t, skipSpaces rest with
        | some t, '\x7d' :: rest => some (t, rest)
        | some t, ',' :: rest => readPairs? fuel levels t rest
        | _, _ => none
    | _ => none

end

/-! ## Lines -/

/-- A document that is being read: its tables, and the path of the last header. -/
structure State where
  /-- The tables so far. -/
  root : Fields
  /-- The path of the last header. -/
  header : List String

/-- The start of a document. -/
def State.start : State := ⟨⟨.named, []⟩, []⟩

/-- The path of a header, which ends in a bracket. -/
def readHeader? (cs : List Char) : Option (List String × List Char) :=
  match readPath? cs with
  | some (path, ']' :: rest) => some (path, rest)
  | _ => none

/-- One line without its end. -/
def readLine? (s : State) (cs : List Char) : Option (State × List Char) :=
  match skipSpaces cs with
  | [] => some (s, [])
  | '#' :: rest => some (s, '#' :: rest)
  | '\n' :: rest => some (s, '\n' :: rest)
  | '\r' :: rest => some (s, '\r' :: rest)
  | '[' :: '[' :: rest =>
    match readHeader? rest with
    | some (path, ']' :: rest) =>
      (Node.append? path s.root).map fun root => (⟨root, path⟩, rest)
    | _ => none
  | '[' :: rest =>
    (readHeader? rest).bind fun (path, rest) =>
      (Node.open? path s.root).map fun root => (⟨root, path⟩, rest)
  | start =>
    match readPath? start with
    | some (path, '=' :: rest) =>
      (readValue? (2 * rest.length + 2) deepest (skipSpaces rest)).bind fun (value, rest) =>
        (Node.assignUnder? s.header path value s.root).map fun root => ({ s with root }, rest)
    | _ => none

/-- All lines. -/
def readLines? : Nat → State → List Char → Option State
  | _, s, [] => some s
  | 0, _, _ => none
  | fuel + 1, s, cs =>
    (readLine? s cs).bind fun (s, rest) => (afterLine? rest).bind (readLines? fuel s)

/-- A text without the mark that says how it is encoded. -/
def withoutMark : List Char → List Char
  | '\ufeff' :: rest => rest
  | cs => cs

end TableQuery.Toml

namespace TableQuery

/-- The tree of a TOML document. -/
def Tree.ofToml? (text : String) : Option Tree :=
  let cs := Toml.withoutMark text.toList
  (Toml.readLines? (cs.length + 1) .start cs).map fun s => s.root.toTree

end TableQuery
