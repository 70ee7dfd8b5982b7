import Mathlib.Tactic.SplitIfs
import TableQuery.Proofs.Statement.Filling
import TableQuery.Proofs.Text.Split

/-!
# Binding, token by token

Another reading of a statement: it is split into tokens from left to right, and each token is
written on its own.  A name takes the next placeholders, one for each of its values; everything else
is copied.  No state is carried along but the number of placeholders so far.

* `Token`, `Token.first`, `tokens` — the tokens of a text, each as long as its class allows;
* `Token.operands`, `Token.numbers`, `Token.written` — what a token binds and how it is written;
* `scan_eq_tokens` — the scanner reads the pieces of the tokens;
* `fill_eq_tokens` — the pieces of the tokens are filled with what the tokens come to;
* `bind_eq_tokens` — binding is writing the tokens.
-/

namespace TableQuery

/-! ## Tokens -/

/-- A part of a statement that is read as a whole. -/
inductive Token where
  /-- A run between quotes, with both quotes if it is closed. -/
  | quoted (text : List Char)
  /-- A comment to the end of the line. -/
  | lineComment (text : List Char)
  /-- A comment between its two marks. -/
  | blockComment (text : List Char)
  /-- Two colons. -/
  | cast
  /-- A colon and a name. -/
  | named (name : List Char)
  /-- Any other character. -/
  | other (c : Char)
  deriving DecidableEq, Repr

namespace Token

/-- A text up to the first occurrence of a word and that word, or all of it; and what is left. -/
def through (word text : List Char) : List Char × List Char :=
  match Text.cutAround word text with
  | some (before, rest) => (before ++ word, rest)
  | none => (text, [])

/-- A text up to the first quote of a kind that is not written twice, or all of it; and what is
left. -/
def throughQuote (mark : Char) : List Char → List Char × List Char
  | [] => ([], [])
  | c :: rest =>
    if c = mark then
      match rest with
      | [] => ([c], [])
      | c' :: rest' =>
        if c' = mark then
          (c :: c' :: (throughQuote mark rest').1, (throughQuote mark rest').2)
        else ([c], c' :: rest')
    else (c :: (throughQuote mark rest).1, (throughQuote mark rest).2)

/-- A letter without an accent, or an underscore. -/
def startsName (c : Char) : Bool :=
  ('A' ≤ c && c ≤ 'Z') || ('a' ≤ c && c ≤ 'z') || c == '_'

/-- Such a letter, an underscore or a digit. -/
def continuesName (c : Char) : Bool := startsName c || ('0' ≤ c && c ≤ '9')

/-- The first token of a text that begins with this character, and what is left. -/
def first (c : Char) (rest : List Char) : Token × List Char :=
  if c = '\x27' ∨ c = '\x22' then
    (.quoted (c :: (throughQuote c rest).1), (throughQuote c rest).2)
  else if c = '-' ∧ rest.head? = some '-' then
    (.lineComment ('-' :: '-' :: (through ['\n'] rest.tail).1), (through ['\n'] rest.tail).2)
  else if c = '/' ∧ rest.head? = some '*' then
    (.blockComment ('/' :: '*' :: (through ['*', '/'] rest.tail).1),
      (through ['*', '/'] rest.tail).2)
  else if c = ':' ∧ rest.head? = some ':' then (.cast, rest.tail)
  else if c = ':' ∧ rest.head?.any startsName = true then
    (.named (rest.takeWhile continuesName), rest.dropWhile continuesName)
  else (.other c, rest)

/-- The characters of a token. -/
def text : Token → List Char
  | .quoted text | .lineComment text | .blockComment text => text
  | .cast => [':', ':']
  | .named name => ':' :: name
  | .other c => [c]

/-- The pieces that the scanner reads for a token. -/
def pieces : Token → List Piece
  | .named name => [.placeholder (String.ofList name)]
  | t => t.text.map .char

end Token

/-! ## Classes of characters -/

namespace Token

theorem startsName_eq : startsName = Identifier.isStart := by
  funext c
  delta startsName Identifier.isStart Char.isAlpha Char.isUpper Char.isLower
  rw [Bool.decide_and]
  rfl

theorem continuesName_eq : continuesName = Identifier.isPart := by
  funext c
  delta continuesName Identifier.isPart Char.isAlphanum Char.isDigit
  rw [startsName_eq, Identifier.isStart, Bool.or_right_comm]
  rfl

/-- The first token, in the classes of characters that the scanner uses. -/
theorem first_eq (c : Char) (rest : List Char) :
    first c rest
      = if Lexical.isQuote c then
          (.quoted (c :: (throughQuote c rest).1), (throughQuote c rest).2)
        else if c = '-' ∧ rest.head? = some '-' then
          (.lineComment ('-' :: '-' :: (through ['\n'] rest.tail).1),
            (through ['\n'] rest.tail).2)
        else if c = '/' ∧ rest.head? = some '*' then
          (.blockComment ('/' :: '*' :: (through ['*', '/'] rest.tail).1),
            (through ['*', '/'] rest.tail).2)
        else if c = ':' ∧ rest.head? = some ':' then (.cast, rest.tail)
        else if c = ':' ∧ rest.head?.any Identifier.isStart = true then
          (.named (rest.takeWhile Identifier.isPart), rest.dropWhile Identifier.isPart)
        else (.other c, rest) := by
  have hquote : (c = '\x27' ∨ c = '\x22') ↔ Lexical.isQuote c = true := by
    rw [Lexical.isQuote, Bool.or_eq_true, beq_iff_eq, beq_iff_eq]
  rw [first, startsName_eq, continuesName_eq]
  simp only [hquote]

end Token

/-! ## Nothing is lost -/

namespace Token

theorem through_append (word text : List Char) :
    (through word text).1 ++ (through word text).2 = text := by
  rw [through]
  split
  · rename_i before rest h
    exact (Text.cutAround_eq_some h).symm
  · rw [List.append_nil]

theorem throughQuote_append (mark : Char) (text : List Char) :
    (throughQuote mark text).1 ++ (throughQuote mark text).2 = text := by
  fun_induction throughQuote mark text with
  | case1 => rfl
  | case2 => rfl
  | case3 rest ih => rw [List.cons_append, List.cons_append, ih]
  | case4 => rfl
  | case5 c rest h ih => rw [List.cons_append, ih]

/-- **The first token and what is left are the text.** -/
theorem first_append (c : Char) (rest : List Char) :
    (first c rest).1.text ++ (first c rest).2 = c :: rest := by
  rw [first_eq]
  split_ifs with hquote hline hblock hcast hname
  · rw [text, List.cons_append, throughQuote_append]
  · obtain ⟨rest', rfl⟩ := List.head?_eq_some_iff.1 hline.2
    rw [text, List.cons_append, List.cons_append, List.tail_cons, through_append, hline.1]
  · obtain ⟨rest', rfl⟩ := List.head?_eq_some_iff.1 hblock.2
    rw [text, List.cons_append, List.cons_append, List.tail_cons, through_append, hblock.1]
  · obtain ⟨rest', rfl⟩ := List.head?_eq_some_iff.1 hcast.2
    rw [hcast.1]
    rfl
  · rw [text, List.cons_append, List.takeWhile_append_dropWhile, hname.1]
  · rfl

theorem text_ne_nil_of_first (c : Char) (rest : List Char) : (first c rest).1.text ≠ [] := by
  rw [first_eq]
  split_ifs <;> exact List.cons_ne_nil _ _

theorem length_first_lt (c : Char) (rest : List Char) :
    (first c rest).2.length < (c :: rest).length := by
  have hlength := congrArg List.length (first_append c rest)
  have hpos := List.length_pos_iff.2 (text_ne_nil_of_first c rest)
  rw [List.length_append] at hlength
  omega

end Token

/-- The tokens of a text, from left to right. -/
def tokens : List Char → List Token
  | [] => []
  | c :: rest => (Token.first c rest).1 :: tokens (Token.first c rest).2
termination_by text => text.length
decreasing_by exact Token.length_first_lt c rest

theorem tokens_text (text : List Char) : (tokens text).flatMap Token.text = text := by
  fun_induction tokens text with
  | case1 => rfl
  | case2 c rest ih => rw [List.flatMap_cons, ih, Token.first_append]

/-! ## The scanner reads tokens -/

namespace Lexical

/-- After a quote that may close a run, any other character is entered. -/
theorem scan_closing {mark : Char} {rest : List Char} (h : rest.head? ≠ some mark) :
    scan (.closing mark) rest = scan .code rest := by
  cases rest with
  | nil => rfl
  | cons c rest =>
    have hc : c ≠ mark := fun hc => h (by rw [hc]; rfl)
    have hstep : step (.closing mark) c = step .code c := if_neg hc
    rw [scan, scan, hstep]

theorem scan_quoted (mark : Char) (text : List Char) :
    scan (.quoted mark) text
      = (Token.throughQuote mark text).1.map .char
        ++ scan .code (Token.throughQuote mark text).2 := by
  have hmark : step (.quoted mark) mark = (.closing mark, [.char mark]) :=
    Prod.ext (if_pos rfl) rfl
  fun_induction Token.throughQuote mark text with
  | case1 => rfl
  | case2 =>
    show (step (.quoted mark) mark).2 ++ scan (step (.quoted mark) mark).1 [] = [.char mark]
    rw [hmark]
    rfl
  | case3 rest ih =>
    have hdoubled : step (.closing mark) mark = (.quoted mark, [.char mark]) := if_pos rfl
    rw [scan, hmark, scan, hdoubled, ih]
    rfl
  | case4 c' rest h =>
    have hhead : (c' :: rest).head? ≠ some mark := fun hc => h (Option.some.inj hc)
    rw [scan, hmark, scan_closing hhead]
    rfl
  | case5 c rest h ih =>
    rw [scan, step, if_neg h, ih]
    rfl

theorem scan_lineComment (text : List Char) :
    scan .lineComment text
      = (Token.through ['\n'] text).1.map .char ++ scan .code (Token.through ['\n'] text).2 := by
  induction text with
  | nil => rfl
  | cons c text ih =>
    rw [scan, step]
    by_cases hc : '\n' = c
    · subst hc
      rfl
    · have hcut : Text.cutAround ['\n'] (c :: text)
          = (Text.cutAround ['\n'] text).map fun a => (c :: a.1, a.2) := by
        rw [Text.cutAround, Text.after?, if_neg hc]
      rw [if_neg (Ne.symm hc), ih, Token.through, Token.through, hcut]
      cases Text.cutAround ['\n'] text with
      | none => rfl
      | some a => rfl

/-- After a star, a comment goes on as before, unless a slash ends it. -/
theorem scan_star {rest : List Char} (h : rest.head? ≠ some '/') :
    scan .star rest = scan .blockComment rest := by
  cases rest with
  | nil => rfl
  | cons c rest =>
    have hc : c ≠ '/' := fun hc => h (by rw [hc]; rfl)
    have hstep : step .star c = step .blockComment c := Prod.ext (if_neg hc) rfl
    rw [scan, scan, hstep]

theorem scan_blockComment (text : List Char) :
    scan .blockComment text
      = (Token.through ['*', '/'] text).1.map .char
        ++ scan .code (Token.through ['*', '/'] text).2 := by
  induction text with
  | nil => rfl
  | cons c text ih =>
    by_cases hend : c = '*' ∧ text.head? = some '/'
    · obtain ⟨rest, rfl⟩ := List.head?_eq_some_iff.1 hend.2
      rw [hend.1]
      rfl
    · have hafter : Text.after? ['*', '/'] (c :: text) = none := by
        rw [Text.after?]
        split
        · rename_i hstar
          cases text with
          | nil => rfl
          | cons c' text =>
            have hslash : '/' ≠ c' := fun hs => hend ⟨hstar.symm, by rw [← hs]; rfl⟩
            rw [Text.after?, if_neg hslash]
        · rfl
      -- no end begins here, so the search and the scanner go on with the next character
      have hcut : Text.cutAround ['*', '/'] (c :: text)
          = (Text.cutAround ['*', '/'] text).map fun a => (c :: a.1, a.2) := by
        rw [Text.cutAround, hafter]
      have hstep : scan .blockComment (c :: text) = .char c :: scan .blockComment text := by
        rw [scan, step]
        split
        · rename_i hstar
          rw [scan_star fun hs => hend ⟨hstar, hs⟩]
          rfl
        · rfl
      rw [hstep, ih, Token.through, Token.through, hcut]
      cases Text.cutAround ['*', '/'] text with
      | none => rfl
      | some a => rfl

/-- A character that begins no longer token stands for itself, and nothing is pending after it. -/
theorem scan_other {c : Char} {rest : List Char} (hquote : ¬isQuote c = true)
    (hline : ¬(c = '-' ∧ rest.head? = some '-')) (hblock : ¬(c = '/' ∧ rest.head? = some '*'))
    (hcast : ¬(c = ':' ∧ rest.head? = some ':'))
    (hname : ¬(c = ':' ∧ rest.head?.any Identifier.isStart = true)) :
    scan .code (c :: rest) = .char c :: scan .code rest := by
  rw [scan, step, enter, if_neg hquote]
  split_ifs with hdash hslash hcolon
  · cases rest with
    | nil => rfl
    | cons c' rest =>
      have hc : c' ≠ '-' := fun hc => hline ⟨hdash, by rw [hc]; rfl⟩
      rw [scan, step, if_neg hc]
      rfl
  · cases rest with
    | nil => rfl
    | cons c' rest =>
      have hc : c' ≠ '*' := fun hc => hblock ⟨hslash, by rw [hc]; rfl⟩
      rw [scan, step, if_neg hc]
      rfl
  · subst hcolon
    cases rest with
    | nil => rfl
    | cons c' rest =>
      have hc : c' ≠ ':' := fun hc => hcast ⟨rfl, by rw [hc]; rfl⟩
      have hstart : ¬Identifier.isStart c' = true := fun hs => hname ⟨rfl, hs⟩
      rw [scan, step, if_neg hc, if_neg hstart]
      rfl
  · rfl

/-- Where an identifier may start, the longest run of its characters is one. -/
theorem isIdentifierText_takeWhile {rest : List Char}
    (h : rest.head?.any Identifier.isStart = true) :
    isIdentifierText (rest.takeWhile Identifier.isPart) = true := by
  cases rest with
  | nil => exact absurd h (by simp)
  | cons c rest =>
    have hs : Identifier.isStart c = true := h
    rw [List.takeWhile_cons_of_pos (Identifier.isPart_of_isStart hs), isIdentifierText, hs,
      Bool.true_and]
    exact List.all_takeWhile

/-- **The scanner reads the first token as a whole**, and goes on as at the start of a statement. -/
theorem scan_first (c : Char) (rest : List Char) :
    scan .code (c :: rest)
      = (Token.first c rest).1.pieces ++ scan .code (Token.first c rest).2 := by
  rw [Token.first_eq]
  split_ifs with hquote hline hblock hcast hname
  · rw [scan, step, enter, if_pos hquote, scan_quoted]
    rfl
  · obtain ⟨rest', rfl⟩ := List.head?_eq_some_iff.1 hline.2
    rw [hline.1]
    show .char '-' :: .char '-' :: scan .lineComment rest' = _
    rw [scan_lineComment]
    rfl
  · obtain ⟨rest', rfl⟩ := List.head?_eq_some_iff.1 hblock.2
    rw [hblock.1]
    show .char '/' :: .char '*' :: scan .blockComment rest' = _
    rw [scan_blockComment]
    rfl
  · obtain ⟨rest', rfl⟩ := List.head?_eq_some_iff.1 hcast.2
    rw [hcast.1]
    rfl
  · obtain ⟨rfl, hstart⟩ := hname
    have hsplit : rest.takeWhile Identifier.isPart ++ rest.dropWhile Identifier.isPart = rest :=
      List.takeWhile_append_dropWhile
    have hname := isIdentifierText_takeWhile hstart
    have hend : ∀ c ∈ (rest.dropWhile Identifier.isPart).head?, Identifier.isPart c = false := by
      intro c hc
      have hnot := List.head?_dropWhile_not Identifier.isPart rest
      rw [Option.mem_def.1 hc] at hnot
      exact hnot
    have hscan := scan_placeholder hname hend
    rw [hsplit] at hscan
    exact hscan
  · exact scan_other hquote hline hblock hcast hname

/-- **The scanner reads the pieces of the tokens.** -/
theorem scan_eq_tokens (text : List Char) :
    scan .code text = (tokens text).flatMap Token.pieces := by
  fun_induction tokens text with
  | case1 => rfl
  | case2 c rest ih => rw [scan_first, ih, List.flatMap_cons]

end Lexical

/-! ## What tokens come to -/

namespace Token

/-- The name of a token that has one. -/
def name? : Token → Option String
  | .named name => some (String.ofList name)
  | _ => none

/-- The values that a token binds: the items of a list, or any other value itself. -/
def operands (p : Parameters) (t : Token) : List Value :=
  match t.name?.bind p.get? with
  | some (.list items) => items
  | some v => [v]
  | none => []

/-- The numbers of the placeholders that a token takes, after `bound` others. -/
def numbers (p : Parameters) (bound : Nat) (t : Token) : List Nat :=
  List.range' (bound + 1) (t.operands p).length

/-- How a token is written after `bound` placeholders: a name as the placeholders of its numbers,
spelled out, and everything else as it is. -/
def written (d : Dialect) (p : Parameters) (bound : Nat) (t : Token) : String :=
  match t.name? with
  | none => String.ofList t.text
  | some _ => d.spelled (t.numbers p bound)

end Token

/-- The first name among tokens that has no value. -/
def firstUnbound (p : Parameters) (ts : List Token) : Option String :=
  (ts.filterMap Token.name?).find? fun name => !p.contains name

/-- The values that tokens bind, in their order. -/
def boundValues (p : Parameters) (ts : List Token) : List Value := ts.flatMap (Token.operands p)

/-- The numbers of the placeholders that tokens take, after `bound` others. -/
def boundNumbers (p : Parameters) : Nat → List Token → List Nat
  | _, [] => []
  | bound, t :: ts => t.numbers p bound ++ boundNumbers p (bound + (t.operands p).length) ts

/-- How tokens are written after `bound` placeholders. -/
def boundText (d : Dialect) (p : Parameters) : Nat → List Token → String
  | _, [] => ""
  | bound, t :: ts => t.written d p bound ++ boundText d p (bound + (t.operands p).length) ts

theorem boundValues_cons (p : Parameters) (t : Token) (ts : List Token) :
    boundValues p (t :: ts) = t.operands p ++ boundValues p ts := List.flatMap_cons

/-- **Placeholders are numbered through**: none is left out and none is used twice. -/
theorem boundNumbers_eq_range' (p : Parameters) (bound : Nat) (ts : List Token) :
    boundNumbers p bound ts = List.range' (bound + 1) (boundValues p ts).length := by
  induction ts generalizing bound with
  | nil => rfl
  | cons t ts ih =>
    have hnext : bound + (t.operands p).length + 1 = bound + 1 + 1 * (t.operands p).length := by
      omega
    rw [boundNumbers, ih, Token.numbers, boundValues_cons, List.length_append, hnext,
      List.range'_append]

/-! ## Binding is writing the tokens -/

section

variable (d : Dialect) (p : Parameters)

theorem Token.operands_named {name : List Char} {v : Value}
    (h : p.get? (String.ofList name) = some v) :
    (Token.named name).operands p = v.operands := by
  have hname : (Token.named name).name?.bind p.get? = some v := h
  rw [operands, hname]
  cases v <;> rfl

theorem Token.written_named {name : List Char} {v : Value}
    (h : p.get? (String.ofList name) = some v) (bound : Nat) :
    (Token.named name).written d p bound = d.slots bound v.operands.length := by
  have hname : (Token.named name).name? = some (String.ofList name) := rfl
  rw [written, hname, Dialect.slots_eq_spelled, numbers, operands_named p h]

/-- **The pieces of tokens are filled with what the tokens come to**: the induction is on the
tokens, and the number of placeholders so far is all that one hands to the next. -/
theorem Dialect.fill_eq_tokens (bound : Nat) (ts : List Token) :
    d.fill p bound (ts.flatMap Token.pieces)
      = match firstUnbound p ts with
        | some name => .error (.unboundParameter name)
        | none => .ok ((boundText d p bound ts).toList, boundValues p ts) := by
  induction ts generalizing bound with
  | nil => rfl
  | cons t ts ih =>
    rw [List.flatMap_cons]
    cases t with
    | named name =>
      -- a name without a value is the first of its kind, and any other hides none behind it
      rw [Token.pieces, List.singleton_append]
      cases hget : p.get? (String.ofList name) with
      | none =>
        have hfirst : firstUnbound p (.named name :: ts) = some (String.ofList name) := by
          simp [firstUnbound, Token.name?, Keyed.contains, hget]
        rw [d.fill_unbound p hget, hfirst]
      | some v =>
        have hfirst : firstUnbound p (.named name :: ts) = firstUnbound p ts := by
          simp [firstUnbound, Token.name?, Keyed.contains, hget]
        rw [d.fill_placeholder p hget, ih, hfirst, boundText, boundValues_cons,
          Token.written_named d p hget, Token.operands_named p hget, String.toList_append]
        cases firstUnbound p ts <;> rfl
    | _ =>
      rw [Token.pieces, d.fill_chars_append p, ih]
      · show Except.map _ (match firstUnbound p ts with | some _ => _ | none => _)
          = match firstUnbound p ts with | some _ => _ | none => _
        rw [boundText, Token.written, String.toList_append]
        cases firstUnbound p ts <;> simp [Token.name?, Except.map, boundValues, Token.operands]
      · simp

theorem Dialect.eq_tokens_of_bind {sql : String} {b : BoundStatement}
    (h : d.bind sql p = .ok b) :
    b = ⟨boundText d p 0 (tokens sql.toList), boundValues p (tokens sql.toList)⟩ := by
  rw [d.bind_eq_map, Lexical.scan_eq_tokens, d.fill_eq_tokens] at h
  obtain ⟨a, ha, rfl⟩ := Outcome.map_eq_ok.1 h
  split at ha
  next => cases ha
  next =>
    cases ha
    rw [String.ofList_toList]

end

/-- **Binding, token by token.**  The tokens of a text are the text.  Binding fails at the first
name without a value; otherwise every token is written on its own, the values are those of the
tokens in their order, and the placeholders are numbered from one without a gap. -/
theorem Dialect.bind_eq_tokens (d : Dialect) (p : Parameters) (sql : String) :
    (tokens sql.toList).flatMap Token.text = sql.toList ∧
    d.bind sql p
      = (match firstUnbound p (tokens sql.toList) with
        | some name => .error (.unboundParameter name)
        | none => .ok
          { sql := boundText d p 0 (tokens sql.toList)
            values := boundValues p (tokens sql.toList) }) ∧
    boundNumbers p 0 (tokens sql.toList)
      = List.range' 1 (boundValues p (tokens sql.toList)).length := by
  refine ⟨tokens_text _, ?_, boundNumbers_eq_range' p 0 _⟩
  rw [d.bind_eq_map, Lexical.scan_eq_tokens, d.fill_eq_tokens]
  cases firstUnbound p (tokens sql.toList) with
  | some name => rfl
  | none => simp [Except.map]

set_option maxRecDepth 4000 in
/-- Names in quotes and comments are none, and neither is the one of a cast.  A list takes the next
numbers, an empty one is `NULL`, and a name that is used again takes another number.  Without the
lists the first of them is the error. -/
theorem Dialect.bind_eq_tokens_mixed :
    ∃ (sql : String) (p q : Parameters) (values : List Value),
      sql = "SELECT :x::int, \x27:x\x27\x27:x\x27, \x22:x\x22 /* :no */ WHERE a IN (:ys)" ++
        " OR b IN (:zs) OR c = :x -- :no" ∧
      q = Keyed.empty.insert "x" (.integer 7) ∧
      p = (q.insert "ys" (.list [.text "a", .text ":x"])).insert "zs" (.list []) ∧
      values = [.integer 7, .text "a", .text ":x", .integer 7] ∧
      Dialect.postgres.bind sql p
        = .ok ⟨"SELECT $1::int, \x27:x\x27\x27:x\x27, \x22:x\x22 /* :no */ WHERE a IN ($2, $3)" ++
            " OR b IN (NULL) OR c = $4 -- :no", values⟩ ∧
      Dialect.sqlite.bind sql p
        = .ok ⟨"SELECT ?1::int, \x27:x\x27\x27:x\x27, \x22:x\x22 /* :no */ WHERE a IN (?2, ?3)" ++
            " OR b IN (NULL) OR c = ?4 -- :no", values⟩ ∧
      firstUnbound p (tokens sql.toList) = none ∧
      boundValues p (tokens sql.toList) = values ∧
      boundNumbers p 0 (tokens sql.toList) = [1, 2, 3, 4] ∧
      Dialect.postgres.bind sql q = .error (.unboundParameter "ys") ∧
      firstUnbound q (tokens sql.toList) = some "ys" := by
  have hread {sql : String} {p : Parameters} {b : BoundStatement}
      (h : Dialect.postgres.bind sql p = .ok b) :
      firstUnbound p (tokens sql.toList) = none ∧ boundValues p (tokens sql.toList) = b.values ∧
        boundNumbers p 0 (tokens sql.toList) = List.range' 1 b.values.length := by
    obtain ⟨-, htokens, hnumbers⟩ := bind_eq_tokens .postgres p sql
    rw [h] at htokens
    split at htokens
    next => cases htokens
    next hnone =>
      obtain rfl := Except.ok.inj htokens
      exact ⟨hnone, rfl, hnumbers⟩
  have hunread {sql : String} {p : Parameters} {name : String}
      (h : Dialect.postgres.bind sql p = .error (.unboundParameter name)) :
      firstUnbound p (tokens sql.toList) = some name := by
    obtain ⟨-, htokens, -⟩ := bind_eq_tokens .postgres p sql
    rw [h] at htokens
    split at htokens
    next hname =>
      obtain rfl := ConfigurationError.unboundParameter.inj (Except.error.inj htokens)
      exact hname
    next => cases htokens
  refine ⟨_, _, _, _, rfl, rfl, rfl, rfl, ?bound, rfl, (hread ?bound).1, (hread ?bound).2.1,
    (hread ?bound).2.2, ?unbound, hunread ?unbound⟩
  case bound => rfl
  case unbound => rfl

end TableQuery
