/-!
# Blank characters and trimming

A character is blank when it has the Unicode property `White_Space`.  Every reader of this
library that ignores surrounding space ignores exactly these characters:

* `isBlank` — the table of the property;
* `dropEndWhile` — a list without its longest final run of some elements;
* `trimStart`, `trimEnd`, `trim` — a text without the blanks at its start, its end, or both;
* `isBlankText` — nothing but blanks.
-/

namespace TableQuery.Text

/-! ## The property -/

/-- The characters with the Unicode property `White_Space`, as a test on code points. -/
def isBlankCode (n : Nat) : Bool :=
  (9 ≤ n && n ≤ 13) || n == 0x20 || n == 0x85 || n == 0xA0 || n == 0x1680
    || (0x2000 ≤ n && n ≤ 0x200A) || n == 0x2028 || n == 0x2029 || n == 0x202F
    || n == 0x205F || n == 0x3000

/-- A character is blank when its code point is in the table. -/
def isBlank (c : Char) : Bool := isBlankCode c.toNat

/-! ## Trimming -/

/-- Drops the longest final run of elements that satisfy the test. -/
def dropEndWhile {α : Type} (p : α → Bool) (xs : List α) : List α :=
  (xs.reverse.dropWhile p).reverse

/-- A text without its leading blanks. -/
def trimStart (cs : List Char) : List Char := cs.dropWhile isBlank

/-- A text without its trailing blanks. -/
def trimEnd (cs : List Char) : List Char := dropEndWhile isBlank cs

/-- A text without its leading and trailing blanks. -/
def trimChars (cs : List Char) : List Char := trimEnd (trimStart cs)

/-- A string without its leading and trailing blanks. -/
def trim (s : String) : String := String.ofList (trimChars s.toList)

/-- A string that holds nothing but blanks. -/
def isBlankText (s : String) : Bool := s.toList.all isBlank

end TableQuery.Text
