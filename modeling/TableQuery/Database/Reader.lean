import TableQuery.Database.Query
import TableQuery.Identifier
import TableQuery.Toml.Quoted

/-!
# Reading queries

The text of a query is cut into tokens, and the tokens are read from left to right.  The first
token that cannot stand where it stands is reported, with the spelling of the text.  A run of
characters that is no token at all counts as one, which can stand nowhere.

* `Token` — the tokens;
* `Token.scan` — the tokens of a text;
* `readQuery` — the query of some tokens;
* `Query.read` — the query of a text.
-/

namespace TableQuery.Database

/-! ## Tokens -/

/-- What a token is. -/
inductive TokenKind where
  | word
  /-- A name between double quotes. -/
  | name (s : String)
  /-- A numbered placeholder. -/
  | slot (n : Nat)
  | number
  /-- A text between single quotes. -/
  | text (s : String)
  /-- A run of bytes. -/
  | blob (bytes : List UInt8)
  | symbol
  /-- No token. -/
  | illegal
  deriving DecidableEq

/-- A token with its spelling. -/
structure Token where
  /-- What it is. -/
  kind : TokenKind
  /-- How it is spelled. -/
  spelling : String
  deriving DecidableEq

namespace Token

/-- The characters up to the closing quote, a quote written twice counting once, and the rest. -/
def cutQuoted (quote : Char) : List Char → Option (List Char × List Char)
  | [] => none
  | [c] => if c = quote then some ([], []) else none
  | c :: d :: rest =>
    if c = quote then
      if d = quote then (cutQuoted quote rest).map fun (inside, rest) => (quote :: inside, rest)
      else some ([], d :: rest)
    else (cutQuoted quote (d :: rest)).map fun (inside, rest) => (c :: inside, rest)

/-- The bytes of pairs of hexadecimal digits. -/
def bytesOf? : List Char → Option (List UInt8)
  | [] => some []
  | a :: b :: rest => do
    let high ← Toml.hexDigit? a
    let low ← Toml.hexDigit? b
    some ((16 * high + low).toUInt8 :: (← bytesOf? rest))
  | _ => none

/-- The token of a text before the rest of the text. -/
def upTo (kind : TokenKind) (text rest : List Char) : Token × List Char :=
  (⟨kind, String.ofList (text.take (text.length - rest.length))⟩, rest)

/-- A token between quotes, of which the first one starts the text. -/
def quotedToken (quote : Char) (make : String → TokenKind) (text : List Char) :
    Token × List Char :=
  match cutQuoted quote (text.drop 1) with
  | some (inside, rest) => upTo (make (String.ofList inside)) text rest
  | none => upTo .illegal text []

/-- A run of bytes, as a text that starts with a letter and a quote; whatever is not in pairs of
digits makes it illegal up to the next quote. -/
def blobToken (text : List Char) : Token × List Char :=
  let (inside, rest) := (text.drop 2).span (· ≠ '\x27')
  match bytesOf? inside, rest with
  | some bytes, _ :: rest => upTo (.blob bytes) text rest
  | _, rest => upTo .illegal text (rest.drop 1)

/-- The symbols of two characters. -/
def pairs : List String := ["<=", ">=", "<>", "!=", "==", "||"]

/-- The symbols of one character. -/
def singles : List Char := "-()+*/%=<>|,&~;.".toList

/-- A symbol of one or two characters. -/
def symbolToken : List Char → Token × List Char
  | [] => (⟨.illegal, ""⟩, [])
  | [c] => (⟨if singles.contains c then .symbol else .illegal, c.toString⟩, [])
  | c :: d :: rest =>
    let two := String.ofList [c, d]
    if pairs.contains two then (⟨.symbol, two⟩, rest)
    else (⟨if singles.contains c then .symbol else .illegal, c.toString⟩, d :: rest)

/-- A character of a word. -/
def isWordChar (c : Char) : Bool := Identifier.isPart c || 128 ≤ c.toNat || c == '$'

/-- The rest of a text behind an exponent, if there is one at its start. -/
def afterPower (text : List Char) : List Char :=
  let digits := match text.drop 1 with
    | '+' :: rest | '-' :: rest => rest
    | rest => rest
  if (text.head?.any fun c => c == 'e' || c == 'E') && digits.head?.any Char.isDigit then
    digits.dropWhile Char.isDigit
  else text

/-- A number, which no character of a word may follow at once. -/
def numberToken (text : List Char) : Token × List Char :=
  let rest := match text.dropWhile Char.isDigit with
    | '.' :: rest => afterPower (rest.dropWhile Char.isDigit)
    | rest => afterPower rest
  if rest.head?.any isWordChar then upTo .illegal text (rest.dropWhile isWordChar)
  else upTo .number text rest

/-- The first token of a text that does not start with a blank. -/
def first (text : List Char) : Token × List Char :=
  let next := text[1]?
  match text.head? with
  | none => (⟨.illegal, ""⟩, [])
  | some c =>
    if c = '\x27' then quotedToken c .text text
    else if c = '\x22' ∨ c = '\x60' then quotedToken c .name text
    else if c = '?' then
      let digits := (text.drop 1).takeWhile Char.isDigit
      upTo (.slot ((Decimal.readDigits digits).getD 0)) text ((text.drop 1).drop digits.length)
    else if c.isDigit ∨ (c = '.' ∧ next.any Char.isDigit) then numberToken text
    else if (c = 'x' ∨ c = 'X') ∧ next = some '\x27' then blobToken text
    else if isWordChar c ∧ c ≠ '$' then upTo .word text (text.dropWhile isWordChar)
    else symbolToken text

/-- A blank that may stand first among blanks. -/
def startsBlanks (c : Char) : Bool := (isBlank c && c != '\x0b') || c == '\ufeff'

/-- The text without the blanks and comments before its first token. -/
def skipBlanks : Nat → List Char → List Char
  | 0, cs => cs
  | fuel + 1, cs =>
    match cs with
    | '-' :: '-' :: rest => skipBlanks fuel (rest.dropWhile (· != '\n'))
    | '/' :: '*' :: rest =>
      skipBlanks fuel (((Text.cutAround ['*', '/'] rest).map Prod.snd).getD [])
    | c :: rest => if startsBlanks c then skipBlanks fuel (rest.dropWhile isBlank) else cs
    | [] => []

/-- The tokens of a text. -/
def scan : Nat → List Char → List Token
  | 0, _ => []
  | fuel + 1, cs =>
    match skipBlanks (cs.length + 1) cs with
    | [] => []
    | start =>
      let (token, rest) := first start
      token :: scan fuel rest

/-- The token is this word, in any letter case. -/
def isWord (word : String) (t : Token) : Bool :=
  t.kind == .word && Text.sameLetters t.spelling word

/-- The token is this symbol. -/
def isSymbol (symbol : String) (t : Token) : Bool := t.kind == .symbol && t.spelling == symbol

end Token

/-! ## Steps -/

/-- Reads tokens from the left. -/
abbrev Reading := StateT (List Token) (Except Fault)

/-- Reports the next token, which cannot stand where it stands. -/
def unexpected {α : Type} : Reading α := do
  match ← get with
  | [] => throw (.refused "(code: 1) incomplete input")
  | t :: _ =>
    let quoted := "\x22" ++ t.spelling ++ "\x22"
    throw (.refused (if t.kind = .illegal then "(code: 1) unrecognized token: " ++ quoted
      else "(code: 1) near " ++ quoted ++ ": syntax error"))

/-- The next token satisfies a test. -/
def nextIs (test : Token → Bool) : Reading Bool := do return (← get).head?.any test

/-- Passes over the next token. -/
def skip : Reading Unit := modify (List.drop 1)

/-- Passes over the next token if it satisfies a test, and says whether it does. -/
def skipIf (test : Token → Bool) : Reading Bool := do
  if ← nextIs test then
    skip
    return true
  else return false

/-- Passes over a token that must satisfy a test. -/
def expect (test : Token → Bool) : Reading Unit := do
  if ← skipIf test then return else unexpected

/-- Reads one thing and, after commas, more of them. -/
def readMany {α : Type} (read : Reading α) : Nat → Reading (List α)
  | 0 => unexpected
  | fuel + 1 => do
    let a ← read
    if ← skipIf (Token.isSymbol ",") then return a :: (← readMany read fuel) else return [a]

/-- As many steps as there are tokens, which is enough for anything. -/
def enough : Reading Nat := do return (← get).length + 1

/-! ## Operands -/

/-- The words that are no names. -/
def reservedWords : List String :=
  ["add", "all", "alter", "and", "as", "autoincrement", "between", "case", "check", "collate",
    "commit", "constraint", "create", "default", "deferrable", "delete", "distinct", "drop",
    "else", "escape", "except", "exists", "foreign", "from", "group", "having", "in", "index",
    "insert", "intersect", "into", "is", "isnull", "join", "limit", "not", "nothing", "notnull",
    "null", "on", "or", "order", "primary", "references", "returning", "select", "set", "table",
    "then", "to", "transaction", "union", "unique", "update", "using", "values", "when", "where"]

/-- The name of a token that is no reserved word. -/
def Token.name? (t : Token) : Option String :=
  match t.kind with
  | .word => if reservedWords.contains (Text.lower t.spelling) then none else some t.spelling
  | .name s => some s
  | _ => none

/-- The words for the moment of a query. -/
def momentWords : List String := ["current_date", "current_time", "current_timestamp"]

/-- The text of a moment; a query does not see when it is run. -/
def momentText : String := "2000-01-01 00:00:00"

/-- The operand of a token that is one. -/
def Token.operand? (t : Token) : Option Operand :=
  match t.kind with
  | .slot n => some (.slot n)
  | .text s => some (.constant (.text s))
  | .blob bytes => some (.constant (.blob bytes))
  | .number => (Affinity.number? t.spelling).map .constant
  | .name s => some (.column s true)
  | _ =>
    if t.isWord "null" then some (.constant .null)
    else if momentWords.any t.isWord then some (.constant (.text momentText))
    else t.name?.map (.column · false)

/-- The next token, which must be of some kind. -/
def readToken {α : Type} (make : Token → Option α) : Reading α := do
  match (← get).head?.bind make with
  | some a =>
    skip
    return a
  | none => unexpected

/-- The words behind which a parenthesis must stand in the place of a value. -/
def callWords : List String := ["exists", "cast", "raise"]

/-- The word stands for one of these. -/
def Token.isOneOf (t : Token) (ws : List String) : Bool := ws.any t.isWord

/-- A value that is not put together from texts.  What stands behind the words of calls and of cases
is never complete here. -/
def readUnit : Nat → Reading Operand
  | 0 => unexpected
  | fuel + 1 => do
    if ← skipIf (Token.isWord "not") then return .negated (← readUnit fuel)
    else if ← skipIf (Token.isOneOf · callWords) then
      expect (Token.isSymbol "(")
      unexpected
    else if ← skipIf (Token.isWord "case") then
      let _ ← skipIf (Token.isWord "when")
      let _ ← readUnit fuel
      unexpected
    else readToken Token.operand?

/-- Values in a row, with double bars between them, after a first one. -/
def readJoined (a : Operand) : Nat → Reading Operand
  | 0 => return a
  | fuel + 1 => do
    if ← skipIf (Token.isSymbol "||") then
      let b ← readUnit fuel
      readJoined (.joined a b) fuel
    else return a

/-- A value. -/
def readOperand : Reading Operand := do
  let fuel ← enough
  readJoined (← readUnit fuel) fuel

/-! ## Conditions -/

/-- The comparison of a symbol. -/
def Token.comparison? (t : Token) : Option Comparison :=
  if t.kind ≠ .symbol then none
  else match t.spelling with
    | "=" | "==" => some .equal
    | "<>" | "!=" => some .different
    | "<" => some .less
    | "<=" => some .lessOrEqual
    | ">" => some .greater
    | ">=" => some .greaterOrEqual
    | _ => none

/-- A condition. -/
def readCondition : Reading Condition := do
  let a ← readOperand
  if ← skipIf (Token.isWord "like") then return .like a (← readOperand)
  else if ← skipIf (Token.isWord "is") then
    let negative ← skipIf (Token.isWord "not")
    return .same (!negative) a (← readOperand)
  else if ← skipIf (Token.isWord "in") then
    expect (Token.isSymbol "(")
    if ← skipIf (Token.isSymbol ")") then return .oneOf a []
    let items ← readMany readOperand (← enough)
    expect (Token.isSymbol ")")
    return .oneOf a items
  else
    let how ← readToken Token.comparison?
    return .compared how a (← readOperand)

/-- Conditions that all have to hold. -/
def readConditions : Nat → Reading (List Condition)
  | 0 => unexpected
  | fuel + 1 => do
    let c ← readCondition
    if ← skipIf (Token.isWord "and") then return c :: (← readConditions fuel) else return [c]

/-! ## Clauses -/

/-- The label of a value that starts with a token, unless the value itself has one. -/
def labelFrom (start : Option Token) : Operand → Option String
  | .constant _ => start.map Token.spelling
  | _ => none

/-- The label of a token that stands behind a value: a name or a text. -/
def Token.label? (t : Token) : Option String :=
  match t.kind with
  | .text s => some s
  | _ => t.name?

/-- A selected value with its label, if it has one. -/
def readSelected : Reading (Operand × Option String) := do
  let start := (← get).head?
  let a ← readOperand
  if ← skipIf (Token.isWord "as") then return (a, some (← readToken Token.label?))
  else if ← nextIs fun t => t.label?.isSome then return (a, some (← readToken Token.label?))
  else return (a, labelFrom start a)

/-- The selection of a layer. -/
def readSelection : Reading Selection := do
  if ← skipIf (Token.isSymbol "*") then return .all
  else if (← nextIs (Token.isWord "count")) && (← get)[1]?.any (Token.isSymbol "(") then
    skip
    skip
    let _ ← readToken Token.operand?
    expect (Token.isSymbol ")")
    return .count
  else return .listed (← readMany readSelected (← enough))

/-- The conditions of a layer, if it has any. -/
def readWhere : Reading (List Condition) := do
  if ← skipIf (Token.isWord "where") then readConditions (← enough) else return []

/-- An order key with its direction. -/
def readOrder : Reading (Operand × Direction) := do
  let a ← readOperand
  if ← skipIf (Token.isWord "desc") then return (a, .descending)
  else
    let _ ← skipIf (Token.isWord "asc")
    return (a, .ascending)

/-- The order keys of a layer, if it has any. -/
def readOrders : Reading (List (Operand × Direction)) := do
  if ← skipIf (Token.isWord "order") then
    expect (Token.isWord "by")
    readMany readOrder (← enough)
  else return []

/-- The natural number that a token writes. -/
def Token.count? (t : Token) : Option Nat :=
  if t.kind = .number then Decimal.readDigits t.spelling.toList else none

/-- The window of a layer, if it has one. -/
def readWindow : Reading (Option (Nat × Nat)) := do
  if ← skipIf (Token.isWord "limit") then
    let limit ← readToken Token.count?
    if ← skipIf (Token.isWord "offset") then return some (limit, ← readToken Token.count?)
    else return some (limit, 0)
  else return none

/-! ## Queries -/

/-- A query with its layers, the innermost one first. -/
def readQuery : Nat → Reading Query
  | 0 => unexpected
  | fuel + 1 => do
    expect (Token.isWord "select")
    let selection ← readSelection
    let mut inner : Query := ⟨none, []⟩
    if ← skipIf (Token.isWord "from") then
      if ← skipIf (Token.isSymbol "(") then
        inner ← readQuery fuel
        expect (Token.isSymbol ")")
        let _ ← skipIf (Token.isWord "as")
        let _ ← readToken Token.name?
      else inner := ⟨some (← readToken Token.name?), []⟩
    let conditions ← readWhere
    let orders ← readOrders
    let window ← readWindow
    return ⟨inner.table, inner.layers ++ [⟨selection, conditions, orders, window⟩]⟩

/-- The query of a text, which ends at its first null character; only semicolons may stand after
the query. -/
def Query.read (text : String) : Except Fault Query := do
  let cs := text.toList.takeWhile (· ≠ '\x00')
  let tokens := Token.scan (cs.length + 1) cs
  let (q, rest) ← (readQuery (tokens.length + 1)).run tokens
  if rest.all (Token.isSymbol ";") then .ok q else (unexpected.run rest).map Prod.fst

end TableQuery.Database
