import TableQuery.Decimal.Reading
import TableQuery.Settings.Tree

/-!
# Words in TOML documents

A word is a value without quotes and brackets: a truth value, an integer, a double, or a date or
time.  Underscores may stand between digits.  An integer has sixty-four bits and is written in
decimal, or after `0x`, `0o` or `0b` in another base; a decimal one has no needless zeros in front.

* `readWord?` — the tree of a word; a date or time is a table without a setting in it;
* `isDate`, `isTime` — the two halves of a moment, which a space may stand between.
-/

namespace TableQuery.Toml

/-! ## Digits -/

/-- The digits of a run in which single underscores stand between digits. -/
def digitsOf? (isDigit : Char → Bool) (cs : List Char) : Option (List Char) :=
  let groups := Text.pieces '_' cs
  if groups.all fun g => g ≠ [] && g.all isDigit then some groups.flatten else none

/-- The digits of a decimal run that has no needless zero in front. -/
def decimalDigits? (cs : List Char) : Option (List Char) :=
  (digitsOf? Char.isDigit cs).filter fun ds => ds.length ≤ 1 || ds.head? != some '0'

/-- The number that digits write in a base. -/
def valueIn (base : Nat) (digits : List Char) : Nat :=
  digits.foldl (fun n c =>
    base * n + (if c.isDigit then c.toNat - '0'.toNat else c.toLower.toNat - 'a'.toNat + 10)) 0

/-! ## Integers -/

/-- A digit of a base up to sixteen. -/
def isDigitIn (base : Nat) (c : Char) : Bool :=
  if c.isDigit then c.toNat - '0'.toNat < base
  else base == 16 && 'a' ≤ c.toLower && c.toLower ≤ 'f'

/-- An integer of any size. -/
def integerOf? : List Char → Option Int
  | '0' :: 'x' :: rest => (digitsOf? (isDigitIn 16) rest).map fun ds => (valueIn 16 ds : Int)
  | '0' :: 'o' :: rest => (digitsOf? (isDigitIn 8) rest).map fun ds => (valueIn 8 ds : Int)
  | '0' :: 'b' :: rest => (digitsOf? (isDigitIn 2) rest).map fun ds => (valueIn 2 ds : Int)
  | '-' :: rest => (decimalDigits? rest).map fun ds => -(valueIn 10 ds : Int)
  | '+' :: rest => (decimalDigits? rest).map fun ds => (valueIn 10 ds : Int)
  | rest => (decimalDigits? rest).map fun ds => (valueIn 10 ds : Int)

/-! ## Doubles -/

/-- The exponent of a double, with a sign perhaps. -/
def exponentOf? : List Char → Option Int
  | '-' :: rest => (digitsOf? Char.isDigit rest).map fun ds => -(valueIn 10 ds : Int)
  | '+' :: rest => (digitsOf? Char.isDigit rest).map fun ds => (valueIn 10 ds : Int)
  | rest => (digitsOf? Char.isDigit rest).map fun ds => (valueIn 10 ds : Int)

/-- A double without a sign; it has a point with digits on both sides, or an exponent, or both. -/
def magnitudeOf? (cs : List Char) : Option Float := do
  let isMark c := c == 'e' || c == 'E'
  let mantissa := cs.takeWhile fun c => !isMark c
  let rest := cs.dropWhile fun c => !isMark c
  let exponent ← match rest with
    | [] => some none
    | _ :: e => (exponentOf? e).map some
  let (whole, part) ← match Text.cutAt '.' mantissa with
    | none => if exponent.isSome then (decimalDigits? mantissa).map fun w => (w, []) else none
    | some (w, p) => do
      some (← decimalDigits? w, ← digitsOf? Char.isDigit p)
  some (Decimal.nearestFloat (valueIn 10 (whole ++ part)) (exponent.getD 0 - part.length))

/-- A double; one that is written in digits is not too large. -/
def doubleOf? (cs : List Char) : Option Float :=
  let (negative, rest) := match cs with
    | '-' :: rest => (true, rest)
    | '+' :: rest => (false, rest)
    | rest => (false, rest)
  let magnitude :=
    if rest = "inf".toList then some (1.0 / 0.0)
    else if rest = "nan".toList then some (0.0 / 0.0)
    else (magnitudeOf? rest).filter fun x => negative || x.isFinite
  magnitude.map fun x => if negative then -x else x

/-! ## Dates and times -/

/-- A number of exactly so many digits. -/
def fixedNumber? (count : Nat) (cs : List Char) : Option Nat :=
  if cs.length = count ∧ cs.all Char.isDigit then some (valueIn 10 cs) else none

/-- The number of days of a month. -/
def daysOf (year month : Nat) : Nat :=
  if month = 2 then
    if year % 4 = 0 ∧ (year % 100 ≠ 0 ∨ year % 400 = 0) then 29 else 28
  else if month = 4 ∨ month = 6 ∨ month = 9 ∨ month = 11 then 30
  else 31

/-- A date: year, month and day. -/
def isDate (cs : List Char) : Bool :=
  match Text.pieces '-' cs with
  | [y, m, d] =>
    match fixedNumber? 4 y, fixedNumber? 2 m, fixedNumber? 2 d with
    | some y, some m, some d => 1 ≤ m && m ≤ 12 && 1 ≤ d && d ≤ daysOf y m
    | _, _, _ => false
  | _ => false

/-- A number of two digits up to a bound. -/
def isUpTo (bound : Nat) (cs : List Char) : Bool :=
  (fixedNumber? 2 cs).any (· ≤ bound)

/-- Seconds, perhaps with a fraction. -/
def isSeconds (cs : List Char) : Bool :=
  match Text.cutAt '.' cs with
  | none => isUpTo 60 cs
  | some (whole, part) => isUpTo 60 whole && part ≠ [] && part.all Char.isDigit

/-- A time of day: hours, minutes and seconds. -/
def isTime (cs : List Char) : Bool :=
  match Text.pieces ':' cs with
  | [h, m, s] => isUpTo 23 h && isUpTo 59 m && isSeconds s
  | _ => false

/-- A distance from universal time: hours and minutes. -/
def isOffset (cs : List Char) : Bool :=
  match Text.pieces ':' cs with
  | [h, m] => isUpTo 23 h && isUpTo 59 m
  | _ => false

/-- A time of day, perhaps with a distance from universal time. -/
def isZonedTime (cs : List Char) : Bool :=
  let isSign c := c == '+' || c == '-' || c == 'Z' || c == 'z'
  let time := cs.takeWhile fun c => !isSign c
  isTime time && match cs.dropWhile (fun c => !isSign c) with
    | [] => true
    | c :: zone => if c = 'Z' ∨ c = 'z' then zone = [] else isOffset zone

/-- A date, a time of day, or both with a `T` between them. -/
def isMoment (cs : List Char) : Bool :=
  let date := cs.take 10
  isTime cs || isDate cs || (isDate date && match cs.drop 10 with
    | c :: time => (c == 'T' || c == 't' || c == ' ') && isZonedTime time
    | [] => false)

/-! ## Words -/

/-- A character of a word. -/
def isWordChar (c : Char) : Bool :=
  c.isAlphanum || c == '+' || c == '-' || c == '_' || c == '.' || c == ':'

/-- The tree of a word. -/
def readWord? (cs : List Char) : Option Tree :=
  if cs = "true".toList then some (.truth true)
  else if cs = "false".toList then some (.truth false)
  else if isMoment cs then some (.table [])
  else match integerOf? cs with
    | some i =>
      if Int64.minValue.toInt ≤ i ∧ i ≤ Int64.maxValue.toInt then some (.signed i) else none
    | none => (doubleOf? cs).map .double

end TableQuery.Toml
