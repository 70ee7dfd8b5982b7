import TableQuery.Identifier

/-!
# The lexical structure of a statement

A statement is read one character at a time.  Inside quotes, quoted identifiers and comments every
character stands for itself; outside of them a colon and an identifier are a placeholder.  A quote
that is written twice does not end its run, a double colon is a cast, and a colon before anything
else is a colon.

* `Lexical` — what the characters read so far mean for the next one;
* `Piece` — what is read: a character to keep, or a placeholder;
* `Lexical.step`, `Lexical.finish` — one character, and the end of the text;
* `Lexical.scan` — the pieces of a text;
* `Lexical.after` — the state at its end; `Lexical.isLive` says that it is outside quotes and
  comments.
-/

namespace TableQuery

/-- What the characters read so far mean for the next one. -/
inductive Lexical where
  /-- Outside quotes and comments. -/
  | code
  /-- After a dash, which another one makes a comment. -/
  | dash
  /-- After a slash, which a star makes a comment. -/
  | slash
  /-- After a colon that is not passed on yet. -/
  | colon
  /-- Inside the name of a placeholder. -/
  | name (read : List Char)
  /-- Inside a run between two quotes of this kind. -/
  | quoted (mark : Char)
  /-- After a quote inside such a run, which another one makes part of it. -/
  | closing (mark : Char)
  /-- Inside a comment that ends with the line. -/
  | lineComment
  /-- Inside a comment between a slash with a star and a star with a slash. -/
  | blockComment
  /-- After a star inside such a comment. -/
  | star
  deriving DecidableEq, Repr

/-- A part of a statement. -/
inductive Piece where
  /-- A character that stands for itself. -/
  | char (c : Char)
  /-- A placeholder, by its name. -/
  | placeholder (name : String)
  deriving DecidableEq, Repr

namespace Lexical

/-! ## Steps -/

/-- A character that both single and double quoted runs may start with. -/
def isQuote (c : Char) : Bool := c == '\x27' || c == '\x22'

/-- A character outside quotes and comments, with nothing pending before it. -/
def enter (c : Char) : Lexical × List Piece :=
  if isQuote c then (.quoted c, [.char c])
  else if c = '-' then (.dash, [.char c])
  else if c = '/' then (.slash, [.char c])
  else if c = ':' then (.colon, [])
  else (.code, [.char c])

/-- A pending piece, then a character outside quotes and comments. -/
def enterAfter (pending : Piece) (c : Char) : Lexical × List Piece :=
  ((enter c).1, pending :: (enter c).2)

/-- Reads one character: the next state and the pieces that are complete with it. -/
def step : Lexical → Char → Lexical × List Piece
  | .code, c => enter c
  | .dash, c => if c = '-' then (.lineComment, [.char c]) else enter c
  | .slash, c => if c = '*' then (.blockComment, [.char c]) else enter c
  | .colon, c =>
    if c = ':' then (.code, [.char ':', .char ':'])
    else if Identifier.isStart c then (.name [c], [])
    else enterAfter (.char ':') c
  | .name read, c =>
    if Identifier.isPart c then (.name (read ++ [c]), [])
    else enterAfter (.placeholder (String.ofList read)) c
  | .quoted mark, c => (if c = mark then .closing mark else .quoted mark, [.char c])
  | .closing mark, c => if c = mark then (.quoted mark, [.char c]) else enter c
  | .lineComment, c => (if c = '\n' then .code else .lineComment, [.char c])
  | .blockComment, c => (if c = '*' then .star else .blockComment, [.char c])
  | .star, c =>
    (if c = '/' then .code else if c = '*' then .star else .blockComment, [.char c])

/-- The pieces that the end of the text completes. -/
def finish : Lexical → List Piece
  | .colon => [.char ':']
  | .name read => [.placeholder (String.ofList read)]
  | _ => []

/-! ## Texts -/

/-- The pieces of a text that is read from a state on. -/
def scan : Lexical → List Char → List Piece
  | state, [] => finish state
  | state, c :: rest => (step state c).2 ++ scan (step state c).1 rest

/-- The state after a text. -/
def after (state : Lexical) (text : List Char) : Lexical :=
  text.foldl (fun s c => (step s c).1) state

/-- A state outside quotes and comments, where the next character may start a placeholder, a quote
or a comment. -/
def isLive : Lexical → Bool
  | .quoted _ | .lineComment | .blockComment | .star => false
  | _ => true

end Lexical

end TableQuery
