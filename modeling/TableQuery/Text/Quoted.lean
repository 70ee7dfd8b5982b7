import TableQuery.Text.Shown

/-!
# Quoted texts

A quoted text stands between double quotes.  A quote or a backslash inside it follows a backslash,
tab, line feed, carriage return and the zero character have short escapes, and every other
character that is not shown as itself is written by its code point in hexadecimal.

* `quotedChar` — one character inside the quotes;
* `quoted` — the whole text.
-/

namespace TableQuery.Text

/-- The hexadecimal digits of a number, in lower case. -/
def hexadecimal (n : Nat) : List Char := Nat.toDigits 16 n

/-- A character by its code point. -/
def codePoint (c : Char) : List Char := ['\\', 'u', '\x7b'] ++ hexadecimal c.toNat ++ ['\x7d']

/-- One character inside a quoted text. -/
def quotedChar (c : Char) : List Char :=
  if c = '\x22' then ['\\', '\x22']
  else if c = '\\' then ['\\', '\\']
  else if c = '\t' then ['\\', 't']
  else if c = '\n' then ['\\', 'n']
  else if c = '\r' then ['\\', 'r']
  else if c = '\x00' then ['\\', '0']
  else if isShown c then [c]
  else codePoint c

/-- A text between quotes. -/
def quoted (s : String) : String :=
  String.ofList ('\x22' :: (s.toList.flatMap quotedChar ++ ['\x22']))

end TableQuery.Text
