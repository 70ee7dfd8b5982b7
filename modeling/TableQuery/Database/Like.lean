import TableQuery.Text.Split

/-!
# Patterns

A pattern is compared with a whole text: a percent sign stands for any characters, an underscore
for any one, and every other character for itself alone.  There is no escape.  The percent signs
cut the pattern into runs.  The first run stands at the start of the text and the last one at its
end, and every run between them is looked for at the earliest place: if the runs after it fit behind
a later place, they fit behind the earliest one too.

* `suffixes` — the ends of a text;
* `afterRun?`, `afterFirst?` — the text behind a run;
* `isLike` — a text has the form of a pattern.
-/

namespace TableQuery.Database

/-- The ends of a list, the whole list first and the empty one last. -/
def suffixes {α : Type} : List α → List (List α)
  | [] => [[]]
  | x :: xs => (x :: xs) :: suffixes xs

/-- The text behind a run that it starts with. -/
def afterRun? : List Char → List Char → Option (List Char)
  | [], text => some text
  | _ :: _, [] => none
  | p :: run, c :: text => if p = '_' ∨ p = c then afterRun? run text else none

/-- The text behind the earliest place where a run stands. -/
def afterFirst? (run text : List Char) : Option (List Char) :=
  (suffixes text).findSome? (afterRun? run)

/-- The text ends with a run. -/
def endsWithRun (run text : List Char) : Bool := (afterRun? run.reverse text.reverse).isSome

/-- A text has the form of runs before each of which any characters may stand; the last run stands
at the end. -/
def isLikeRuns : List (List Char) → List Char → Bool
  | [], text => text.isEmpty
  | [last], text => endsWithRun last text
  | run :: next :: runs, text => (afterFirst? run text).any (isLikeRuns (next :: runs))

/-- A text has the form of a pattern. -/
def isLike (pattern text : List Char) : Bool :=
  match Text.pieces '%' pattern with
  | [] => text.isEmpty
  | first :: runs => (afterRun? first text).any (isLikeRuns runs)

end TableQuery.Database
