/-!
# Characters as bytes

A character is written as one to four bytes.  The first one says how many there are, and every other
one is between `0x80` and `0xbf`; right behind some first ones the range is narrower, so that no
character has two forms.  Bytes that are no characters are either reported, by the place of the
first fault, or replaced: every run of bytes that starts a character and does not end one counts as
one fault.

* `Chunk`, `Chunk.next` — the character or the fault at the start of some bytes;
* `EncodingFault` — the report about the first fault;
* `decoded` — the text of bytes, or the report;
* `replaced` — the text of bytes with a mark in place of every fault.
-/

namespace TableQuery.Text

/-! ## Chunks -/

/-- What stands at the start of some bytes. -/
inductive Chunk where
  | character (c : Char)
  /-- So many bytes that are no character. -/
  | broken (length : Nat)
  /-- The start of a character at the end of the bytes. -/
  | unfinished
  deriving DecidableEq, Repr

namespace Chunk

/-- How many bytes follow a first one, and the bounds of the one right behind it. -/
def lead? (b : Nat) : Option (Nat × Nat × Nat) :=
  if b < 0x80 then some (0, 0x80, 0xbf)
  else if b < 0xc2 then none
  else if b < 0xe0 then some (1, 0x80, 0xbf)
  else if b < 0xf0 then
    some (2, if b = 0xe0 then 0xa0 else 0x80, if b = 0xed then 0x9f else 0xbf)
  else if b < 0xf5 then
    some (3, if b = 0xf0 then 0x90 else 0x80, if b = 0xf4 then 0x8f else 0xbf)
  else none

/-- Reads the bytes behind some that are read: how many there have to be, the bounds of the first
one of them, how many are read, and the number that they write. -/
def finish : Nat → Nat → Nat → Nat → Nat → List UInt8 → Chunk × List UInt8
  | 0, _, _, _, code, rest => (.character (Char.ofNat code), rest)
  | _ + 1, _, _, _, _, [] => (.unfinished, [])
  | more + 1, low, high, length, code, b :: rest =>
    if low ≤ b.toNat ∧ b.toNat ≤ high then
      finish more 0x80 0xbf (length + 1) (64 * code + b.toNat % 64) rest
    else (.broken length, b :: rest)

/-- The chunk that starts with a byte, and the bytes behind it. -/
def next (b : UInt8) (rest : List UInt8) : Chunk × List UInt8 :=
  match lead? b.toNat with
  | none => (.broken 1, rest)
  | some (more, low, high) =>
    finish more low high 1 (b.toNat % (if more = 0 then 0x80 else Nat.pow 2 (6 - more))) rest

end Chunk

/-- The chunks of bytes. -/
def chunks : Nat → List UInt8 → List Chunk
  | 0, _ | _, [] => []
  | fuel + 1, b :: rest =>
    let (chunk, rest) := Chunk.next b rest
    chunk :: chunks fuel rest

/-! ## Texts -/

/-- The first fault in bytes that should be characters. -/
structure EncodingFault where
  /-- The number of bytes before it. -/
  index : Nat
  /-- The number of its bytes, unless the bytes end before the character does. -/
  length : Option Nat
  deriving DecidableEq, Repr

/-- The wording of a fault. -/
def EncodingFault.message (f : EncodingFault) : String :=
  match f.length with
  | some n =>
    "invalid utf-8 sequence of " ++ toString n ++ " bytes from index " ++ toString f.index
  | none => "incomplete utf-8 byte sequence from index " ++ toString f.index

/-- The characters of chunks, of which the first one stands behind so many bytes. -/
def charactersOf : Nat → List Chunk → Except EncodingFault (List Char)
  | _, [] => .ok []
  | index, .character c :: rest =>
    (charactersOf (index + c.utf8Size) rest).map fun cs => c :: cs
  | index, .broken n :: _ => .error ⟨index, some n⟩
  | index, .unfinished :: _ => .error ⟨index, none⟩

/-- The text of bytes, or the report about the first fault. -/
def decoded (bytes : List UInt8) : Except EncodingFault String :=
  (charactersOf 0 (chunks bytes.length bytes)).map String.ofList

/-- The mark in place of a fault. -/
def replacement : Char := '\ufffd'

/-- The text of bytes with a mark in place of every fault. -/
def replaced (bytes : List UInt8) : String :=
  String.ofList ((chunks bytes.length bytes).map fun
    | .character c => c
    | _ => replacement)

end TableQuery.Text
