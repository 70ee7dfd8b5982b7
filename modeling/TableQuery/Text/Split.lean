/-!
# Cutting texts at separators

The request, settings and address formats are all cut at single separators:

* `cutAt` — at the first occurrence of a character;
* `cutAtLast` — at the last occurrence of a character;
* `cutAround` — around the first occurrence of a word;
* `pieces` — at every occurrence of a character;
* `lower` — the ASCII letters in lower case, all else as it is.

Each has a form on `List Char`, which carries the recursion, and where it is needed a form on
`String`.
-/

namespace TableQuery.Text

/-! ## At one occurrence -/

/-- What stands before and after the first `sep`, if there is one. -/
def cutAt (sep : Char) : List Char → Option (List Char × List Char)
  | [] => none
  | c :: rest =>
    if c = sep then some ([], rest)
    else (cutAt sep rest).map fun (before, after) => (c :: before, after)

/-- What stands before and after the last `sep`, if there is one. -/
def cutAtLast (sep : Char) : List Char → Option (List Char × List Char)
  | [] => none
  | c :: rest =>
    match cutAtLast sep rest with
    | some (before, after) => some (c :: before, after)
    | none => if c = sep then some ([], rest) else none

/-- The rest of a text after a word that it starts with. -/
def after? : List Char → List Char → Option (List Char)
  | [], text => some text
  | _ :: _, [] => none
  | w :: word, c :: text => if w = c then after? word text else none

/-- What stands before and after the first occurrence of a word, if there is one. -/
def cutAround (word : List Char) : List Char → Option (List Char × List Char)
  | [] => (after? word []).map fun rest => ([], rest)
  | c :: text =>
    match after? word (c :: text) with
    | some rest => some ([], rest)
    | none => (cutAround word text).map fun (before, rest) => (c :: before, rest)

/-- `cutAt` on strings. -/
def split? (sep : Char) (s : String) : Option (String × String) :=
  (cutAt sep s.toList).map fun (before, after) => (String.ofList before, String.ofList after)

/-! ## At every occurrence -/

/-- The texts between the separators; one more than there are separators. -/
def pieces (sep : Char) : List Char → List (List Char)
  | [] => [[]]
  | c :: rest =>
    if c = sep then [] :: pieces sep rest
    else match pieces sep rest with
      | [] => [[c]]
      | p :: ps => (c :: p) :: ps

/-- There is always a first piece. -/
theorem pieces_ne_nil (sep : Char) (cs : List Char) : pieces sep cs ≠ [] := by
  cases cs with
  | nil => simp [pieces]
  | cons c rest =>
    rw [pieces]
    split
    · simp
    · split <;> simp

/-- `pieces` on strings. -/
def splitAll (sep : Char) (s : String) : List String :=
  (pieces sep s.toList).map String.ofList

/-! ## Letter case -/

/-- The ASCII letters in lower case, all else as it is. -/
def lower (s : String) : String := String.ofList (s.toList.map Char.toLower)

/-- Equality that does not see the case of ASCII letters. -/
def sameLetters (s t : String) : Bool := lower s == lower t

/-- A string starts with the characters of a word. -/
def startsWith (word s : String) : Bool := (after? word.toList s.toList).isSome

/-- A string ends with the characters of a word. -/
def endsWith (word s : String) : Bool :=
  (after? word.toList.reverse s.toList.reverse).isSome

end TableQuery.Text
