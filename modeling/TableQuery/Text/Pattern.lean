import TableQuery.Toml.Quoted

/-!
# Search patterns

A pattern is a regular expression: characters, classes between brackets, groups, alternatives and
repetitions, and marks for the start and the end of a text.  A text is searched from left to right:
the earliest place counts, at one place the alternative that is written first, and a repetition
takes as much as it can, unless a question mark makes it take as little as it can.  A pattern fits a
text if the piece that is found this way ends where the text ends.

* `Pattern` — the patterns;
* `Pattern.read?` — the pattern of a text;
* `Pattern.steps` — the ways in which a pattern may start, the preferred one first;
* `Pattern.fits` — a text with a piece of the form at its end.
-/

namespace TableQuery.Text

/-- The form of a piece of a text. -/
inductive Pattern where
  /-- The empty piece. -/
  | empty
  /-- One character in one of the ranges, or in none of them. -/
  | oneOf (ranges : List (Char × Char)) (negated : Bool)
  /-- The empty piece at the start of the text. -/
  | start
  /-- The empty piece at the end of the text. -/
  | stop
  /-- One piece after another. -/
  | seq (a b : Pattern)
  /-- A piece of either form, preferably the first one. -/
  | either (a b : Pattern)
  /-- Any number of pieces, preferably many or few. -/
  | many (a : Pattern) (greedy : Bool)
  deriving DecidableEq, Repr, Inhabited

namespace Pattern

/-! ## Searching -/

/-- A character lies in one of the ranges, whose ends count. -/
def inRanges (ranges : List (Char × Char)) (c : Char) : Bool :=
  ranges.any fun r => r.1 ≤ c && c ≤ r.2

/-- One way in which a piece may start. -/
inductive Step where
  /-- The piece is complete. -/
  | complete
  /-- One character in, or not in, the ranges, and then a piece of another form. -/
  | next (ranges : List (Char × Char)) (negated : Bool) (rest : Pattern)
  deriving DecidableEq, Repr

/-- One piece after another, where an empty first one is left out. -/
def andThen (a b : Pattern) : Pattern := if a = .empty then b else .seq a b

/-- The step with another piece behind it. -/
def Step.before (b : Pattern) : Step → Step
  | .complete => .complete
  | .next ranges negated rest => .next ranges negated (andThen rest b)

/-- The ways in which a piece may start, the preferred one first, at or not at the start and the end
of the text. -/
def steps (first last : Bool) : Pattern → List Step
  | .empty => [.complete]
  | .oneOf ranges negated => [.next ranges negated .empty]
  | .start => if first then [.complete] else []
  | .stop => if last then [.complete] else []
  | .seq a b => (steps first last a).flatMap fun
    | .complete => steps first last b
    | step => [step.before b]
  | .either a b => steps first last a ++ steps first last b
  | .many a greedy =>
    let more := ((steps first last a).filter (· ≠ .complete)).map (Step.before (.many a greedy))
    if greedy then more ++ [.complete] else .complete :: more

/-- What is left of a step after a character. -/
def Step.after? (c : Char) : Step → Option Pattern
  | .complete => none
  | .next ranges negated rest => if inRanges ranges c != negated then some rest else none

/-- Searches in the rest of a text with the forms that the piece may still have, the preferred one
first; after a complete piece the ones behind it do not count. -/
def search (first : Bool) : List Pattern → List Char → Bool
  | forms, [] => (forms.flatMap (steps first true)).contains .complete
  | forms, c :: rest =>
    let pending := (forms.flatMap (steps first false)).takeWhile (· ≠ .complete)
    search false (pending.filterMap (Step.after? c)).eraseDups rest

/-- Any character. -/
def anyCharacter : Pattern := .oneOf [] true

/-- A piece that ends where the text ends is found. -/
def fits (p : Pattern) (text : String) : Bool :=
  search true [.seq (.many anyCharacter false) p] text.toList

/-! ## Reading -/

/-- One character. -/
def ofChar (c : Char) : Pattern := .oneOf [(c, c)] false

/-- The characters that stand for themselves after a backslash. -/
def isMark (c : Char) : Bool :=
  c.toNat < 0x80 && !c.isAlphanum && c != '<' && c != '>'

/-- The character behind a backslash, and the rest. -/
def readEscape? : List Char → Option (Char × List Char)
  | 'n' :: rest => some ('\n', rest)
  | 't' :: rest => some ('\t', rest)
  | 'r' :: rest => some ('\x0d', rest)
  | 'a' :: rest => some ('\x07', rest)
  | 'f' :: rest => some ('\x0c', rest)
  | 'v' :: rest => some ('\x0b', rest)
  | 'x' :: a :: b :: rest => do
    let high ← Toml.hexDigit? a
    let low ← Toml.hexDigit? b
    some (Char.ofNat (16 * high + low), rest)
  | c :: rest => if isMark c then some (c, rest) else none
  | [] => none

/-- A character of a class, and the rest. -/
def readMember? : List Char → Option (Char × List Char)
  | '\\' :: rest => readEscape? rest
  | '[' :: _ | [] => none
  | c :: rest => some (c, rest)

/-- The ranges of a class up to its closing bracket, and the rest; a bracket in the first place
stands for itself. -/
def readRanges? (first : Bool) : Nat → List Char → Option (List (Char × Char) × List Char)
  | 0, _ => none
  | fuel + 1, cs =>
    match cs with
    | ']' :: rest =>
      if first then readMore fuel ']' rest else some ([], rest)
    | cs => (readMember? cs).bind fun (c, rest) => readMore fuel c rest
where
  /-- The ranges after a first character. -/
  readMore (fuel : Nat) (low : Char) (cs : List Char) :
      Option (List (Char × Char) × List Char) :=
    match fuel with
    | 0 => none
    | fuel + 1 =>
      let add (high : Char) (rest : List Char) :=
        (readRanges? false fuel rest).map fun (ranges, rest) => ((low, high) :: ranges, rest)
      match cs with
      | '-' :: ']' :: _ => add low cs
      | '-' :: more =>
        (readMember? more).bind fun (high, rest) => if low ≤ high then add high rest else none
      | _ => add low cs

/-- A class behind its opening bracket, and the rest. -/
def readClass? (cs : List Char) : Option (Pattern × List Char) :=
  let (negated, cs) := match cs with
    | '^' :: rest => (true, rest)
    | rest => (false, rest)
  (readRanges? true (2 * cs.length + 2) cs).map fun (ranges, rest) =>
    (.oneOf ranges negated, rest)

/-- A piece with the repetitions behind it, and the rest; how often in numbers is not understood. -/
def readRepetitions? (a : Pattern) : Nat → List Char → Option (Pattern × List Char)
  | 0, _ => none
  | fuel + 1, mark :: cs =>
    let (greedy, rest) := match cs with
      | '?' :: rest => (false, rest)
      | rest => (true, rest)
    match mark with
    | '*' => readRepetitions? (.many a greedy) fuel rest
    | '+' => readRepetitions? (.seq a (.many a greedy)) fuel rest
    | '?' =>
      readRepetitions? (if greedy then .either a .empty else .either .empty a) fuel rest
    | '\x7b' => none
    | _ => some (a, mark :: cs)
  | _ + 1, [] => some (a, [])

/-- What a piece inside alternatives is read with: the fuel bounds the nesting and the length. -/
def readParts? : Nat → Pattern → List Char → Option (Pattern × List Char)
  | 0, _, _ => none
  | fuel + 1, before, cs =>
    let go (a : Pattern) (rest : List Char) : Option (Pattern × List Char) :=
      (readRepetitions? a (rest.length + 1) rest).bind fun (a, rest) =>
        readParts? fuel (andThen before a) rest
    match cs with
    | [] => some (before, [])
    | ')' :: _ => some (before, cs)
    | '|' :: rest =>
      (readParts? fuel .empty rest).map fun (after, rest) => (.either before after, rest)
    | '(' :: rest =>
      let inside := match rest with
        | '?' :: ':' :: inside => some inside
        | '?' :: _ => none
        | inside => some inside
      inside.bind fun inside =>
        (readParts? fuel .empty inside).bind fun (a, rest) =>
          match rest with
          | ')' :: rest => go a rest
          | _ => none
    | '[' :: rest => (readClass? rest).bind fun (a, rest) => go a rest
    | '.' :: rest => go (.oneOf [('\n', '\n')] true) rest
    | '^' :: rest => go .start rest
    | '$' :: rest => go .stop rest
    | '\\' :: 'A' :: rest => go .start rest
    | '\\' :: 'z' :: rest => go .stop rest
    | '\\' :: rest => (readEscape? rest).bind fun (c, rest) => go (ofChar c) rest
    | c :: rest => if "*+?\x7b".toList.contains c then none else go (ofChar c) rest

/-- The pattern of a text. -/
def read? (text : String) : Option Pattern :=
  match readParts? (text.length + 1) .empty text.toList with
  | some (p, []) => some p
  | _ => none

end Pattern

end TableQuery.Text
