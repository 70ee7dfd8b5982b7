import TableQuery.Json
import TableQuery.Decimal.Layout

/-!
# JSON text

The compact text of a JSON value: no space between tokens, fields in the order of their names,
doubles as `Layout.json` sets them out.  In a string only the quote, the backslash and the
characters below the space are escaped.

* `Json.escaped` — one character inside a string;
* `Json.compact` — the text of a value.
-/

namespace TableQuery.Json

/-- A hexadecimal digit pair. -/
def hexPair (n : Nat) : List Char := [Nat.digitChar (n / 16), Nat.digitChar (n % 16)]

/-- One character inside a string. -/
def escaped (c : Char) : List Char :=
  if c = '\x22' then ['\\', '\x22']
  else if c = '\\' then ['\\', '\\']
  else if c = '\x08' then ['\\', 'b']
  else if c = '\x0c' then ['\\', 'f']
  else if c = '\n' then ['\\', 'n']
  else if c = '\r' then ['\\', 'r']
  else if c = '\t' then ['\\', 't']
  else if c.toNat < 0x20 then ['\\', 'u', '0', '0'] ++ hexPair c.toNat
  else [c]

/-- A string between quotes. -/
def stringText (s : String) : String :=
  String.ofList ('\x22' :: (s.toList.flatMap escaped ++ ['\x22']))

mutual

/-- The compact text of a value. -/
def compact : Json → String
  | .null => "null"
  | .bool b => if b then "true" else "false"
  | .int i => toString i
  | .real x => Layout.json.text x
  | .text s => stringText s
  | .array items => "[" ++ compactItems items ++ "]"
  | .object fields => "\x7b" ++ compactFields fields ++ "\x7d"

/-- The items of an array with commas between them. -/
def compactItems : List Json → String
  | [] => ""
  | [item] => compact item
  | item :: rest => compact item ++ "," ++ compactItems rest

/-- The fields of an object with commas between them. -/
def compactFields : List (String × Json) → String
  | [] => ""
  | [(name, value)] => stringText name ++ ":" ++ compact value
  | (name, value) :: rest => stringText name ++ ":" ++ compact value ++ "," ++ compactFields rest

end

end TableQuery.Json
