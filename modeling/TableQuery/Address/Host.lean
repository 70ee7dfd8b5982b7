import TableQuery.Text.Split
import TableQuery.Toml.Quoted

/-!
# Numeric addresses of hosts

A numeric address of the older kind has four numbers below 256 with points between them.  One of
the newer kind has eight groups of hexadecimal digits with colons between them; two colons in a row
stand for one or more groups of zeros, and an address of the older kind may stand for the last two
groups.

* `isShortAddress` — an address of the older kind;
* `isLongAddress` — an address of the newer kind.
-/

namespace TableQuery.Address

/-- A number below 256 without zeros in front. -/
def isOctet (cs : List Char) : Bool :=
  cs ≠ [] && cs.length ≤ 3 && cs.all Char.isDigit && (cs.length == 1 || cs.head? != some '0') &&
    cs.foldl (fun n c => 10 * n + (c.toNat - '0'.toNat)) 0 ≤ 255

/-- An address of four numbers. -/
def isShortAddress (cs : List Char) : Bool :=
  let octets := Text.pieces '.' cs
  octets.length == 4 && octets.all isOctet

/-- A group of hexadecimal digits. -/
def isGroup (cs : List Char) : Bool :=
  cs ≠ [] && cs.length ≤ 4 && cs.all fun c => (Toml.hexDigit? c).isSome

/-- The number of groups that some parts of an address stand for. -/
def groupCount? : List (List Char) → Option Nat
  | [] => some 0
  | [last] =>
    if isGroup last then some 1 else if isShortAddress last then some 2 else none
  | part :: parts => if isGroup part then (groupCount? parts).map (· + 1) else none

/-- The parts between colons; an empty text has none. -/
def partsOf (cs : List Char) : List (List Char) := if cs = [] then [] else Text.pieces ':' cs

/-- An address of eight groups. -/
def isLongAddress (cs : List Char) : Bool :=
  match Text.cutAround [':', ':'] cs with
  | none => groupCount? (partsOf cs) == some 8
  | some (before, after) =>
    let first := partsOf before
    first.all isGroup && (groupCount? (partsOf after)).any fun n => first.length + n < 8

end TableQuery.Address
