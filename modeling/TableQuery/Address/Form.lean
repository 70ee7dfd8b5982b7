import TableQuery.Text.Encoded
import TableQuery.Text.Split
import TableQuery.Toml.Quoted

/-!
# Parameters of addresses

The parameters of an address are pairs with `&` between them and `=` inside.  A plus sign is a
space, and a percent sign with two hexadecimal digits is the byte that they write.  Bytes that are
no text are refused outside of the parameters and replaced inside them.

* `percentDecoded` — a text without percent signs;
* `formPairs` — the parameters in their order.
-/

namespace TableQuery.Address

/-- The bytes of a text in which a percent sign with two hexadecimal digits is one byte. -/
def decodedBytes : List Char → List UInt8
  | '%' :: a :: b :: rest =>
    match Toml.hexDigit? a, Toml.hexDigit? b with
    | some x, some y => (16 * x + y).toUInt8 :: decodedBytes rest
    | _, _ => '%'.toNat.toUInt8 :: decodedBytes (a :: b :: rest)
  | c :: rest => c.toString.toUTF8.toList ++ decodedBytes rest
  | [] => []

/-- A text without percent signs, or the report that the bytes are no text. -/
def percentDecoded (s : String) : Except Text.EncodingFault String :=
  Text.decoded (decodedBytes s.toList)

/-- A name or a value of a parameter, with a mark in place of what is no text. -/
def formDecoded (cs : List Char) : String :=
  Text.replaced (decodedBytes (cs.map fun c => if c = '+' then ' ' else c))

/-- The parameters in their order; an empty one is none. -/
def formPairs (text : String) : List (String × String) :=
  ((Text.pieces '&' text.toList).filter (· ≠ [])).map fun part =>
    match Text.cutAt '=' part with
    | some (name, value) => (formDecoded name, formDecoded value)
    | none => (formDecoded part, "")

end TableQuery.Address
