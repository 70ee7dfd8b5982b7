import TableQuery.Kind
import TableQuery.Proofs.Decimal.Numerals
import TableQuery.Proofs.Outcome
import TableQuery.Proofs.Text.Blank

/-!
# Texts in requests and in rows

A kind meets texts in two places: a request writes a value to compare with, and a column may hold a
text in place of a value.  Both readings take the same texts and find the same values, so a filter
means what the same text means in a row.

* `Kind.Denotes` — a JSON value is what a bound value is;
* `Kind.coerce_text_eq_ok`, `Kind.coerce_text_eq_error` — the text of a column is read as that of a
  request;
* `Kind.integerIn_between` — an integer that was written out is read again between blanks;
* `Kind.read_coerce_alike` — both readings of a text, and of an integer as a text.
-/

namespace TableQuery.Kind

open Outcome

/-- The JSON value of a column is what a bound value is.  JSON has no number for a double that is not
finite. -/
inductive Denotes : Json → Value → Prop where
  | integer (i : Int64) : Denotes (.int i.toInt) (.integer i)
  | boolean (b : Bool) : Denotes (.bool b) (.boolean b)
  | text (s : String) : Denotes (.text s) (.text s)
  | real {x : Float} (h : x.isFinite = true) : Denotes (.real x) (.real x)
  | notFinite {x : Float} (h : x.isFinite = false) : Denotes .null (.real x)

variable {kind : Kind} {s : String} {v : Value} {w : Json}

/-! ## What values denote -/

theorem denotes_integer {i : Int64} : Denotes w (.integer i) ↔ Json.ofInt64 i = w := by
  constructor
  · intro h
    cases h with
    | integer => rfl
  · rintro rfl
    exact .integer i

theorem denotes_boolean {b : Bool} : Denotes w (.boolean b) ↔ Json.bool b = w := by
  constructor
  · intro h
    cases h with
    | boolean => rfl
  · rintro rfl
    exact .boolean b

theorem denotes_text : Denotes w (.text s) ↔ Json.text s = w := by
  constructor
  · intro h
    cases h with
    | text => rfl
  · rintro rfl
    exact .text s

theorem denotes_real {x : Float} : Denotes w (.real x) ↔ Json.ofFloat x = w := by
  rw [Json.ofFloat]
  constructor
  · intro h
    cases h with
    | real hfinite => rw [if_pos hfinite]
    | notFinite hfinite => rw [hfinite, if_neg Bool.false_ne_true]
  · rintro rfl
    by_cases h : x.isFinite = true
    · rw [if_pos h]
      exact .real h
    · rw [if_neg h]
      exact .notFinite (Bool.eq_false_iff.2 h)

/-! ## One text -/

/- The readers of both sides, by what they find in the text. -/

theorem coerce_integer_text (s : String) : Kind.integer.coerce (.text s)
    = ((integerIn s).map Json.ofInt64).elim (.error (.unreadable .integer s)) .ok := rfl

theorem read_integer (s : String) : Kind.integer.read s
    = ((integerIn s).map Value.integer).elim (.error ⟨.integer, s⟩) .ok := rfl

theorem coerce_float_text (s : String) : Kind.float.coerce (.text s)
    = ((floatIn s).map Json.ofFloat).elim (.error (.unreadable .float s)) .ok := rfl

theorem read_float (s : String) : Kind.float.read s
    = ((floatIn s).map Value.real).elim (.error ⟨.float, s⟩) .ok := rfl

theorem coerce_boolean_text (s : String) : Kind.boolean.coerce (.text s)
    = ((truthIn s).map Json.bool).elim (.error (.unreadable .boolean s)) .ok := rfl

theorem read_boolean (s : String) : Kind.boolean.read s
    = ((truthIn s).map Value.boolean).elim (.error ⟨.boolean, s⟩) .ok := rfl

/-- Two readers that find the same thing in a text end alike when each makes of it what the other
one's value denotes. -/
theorem elim_denotes {α ε ε' : Type} {found : Option α} {f : α → Json} {g : α → Value} {e : ε}
    {e' : ε'} (h : ∀ a w, Denotes w (g a) ↔ f a = w) :
    (found.map f).elim (.error e) .ok = Except.ok w ↔
      ∃ v, (found.map g).elim (.error e') .ok = Except.ok v ∧ Denotes w v := by
  simp only [elim_eq_ok]
  constructor
  · rintro ⟨a, ha, hw⟩
    exact ⟨g a, ⟨a, ha, rfl⟩, (h a w).2 hw⟩
  · rintro ⟨_, ⟨a, ha, rfl⟩, hw⟩
    exact ⟨a, ha, (h a w).1 hw⟩

/-- **The text of a column is read as that of a request.** -/
theorem coerce_text_eq_ok :
    kind.coerce (.text s) = .ok w ↔ ∃ v, kind.read s = .ok v ∧ Denotes w v := by
  have hplain : Except.ok (.text s) = (Except.ok w : Except Mismatch Json) ↔
      ∃ v, (Except.ok (.text s) : Except Unreadable Value) = .ok v ∧ Denotes w v := by
    simp only [Except.ok.injEq, exists_eq_left', denotes_text]
  cases kind with
  | text => exact hplain
  | json => exact hplain
  | integer =>
    rw [coerce_integer_text, read_integer]
    exact elim_denotes fun _ _ => denotes_integer
  | float =>
    rw [coerce_float_text, read_float]
    exact elim_denotes fun _ _ => denotes_real
  | boolean =>
    rw [coerce_boolean_text, read_boolean]
    exact elim_denotes fun _ _ => denotes_boolean

/-- Both readings fail for the same texts, and name the same text. -/
theorem coerce_text_eq_error {m : Mismatch} :
    kind.coerce (.text s) = .error m ↔
      kind.read s = .error ⟨kind, s⟩ ∧ m = .unreadable kind s := by
  have hfound {α : Type} {found : Option α} {f : α → Json} {g : α → Value} :
      (found.map f).elim (.error (.unreadable kind s)) .ok = (Except.error m : Except Mismatch Json)
        ↔ (found.map g).elim (.error ⟨kind, s⟩) .ok
            = (Except.error ⟨kind, s⟩ : Except Unreadable Value) ∧ m = .unreadable kind s := by
    rw [elim_eq_error, elim_eq_error, and_iff_left rfl]
    exact and_congr_right fun _ => eq_comm
  cases kind with
  | text => exact ⟨nofun, nofun⟩
  | json => exact ⟨nofun, nofun⟩
  | integer =>
    rw [coerce_integer_text, read_integer]
    exact hfound
  | float =>
    rw [coerce_float_text, read_float]
    exact hfound
  | boolean =>
    rw [coerce_boolean_text, read_boolean]
    exact hfound

/-! ## Integers as texts -/

theorem isBlank_of_numeral {i : Int} : ∀ c ∈ (toString i).toList, Text.isBlank c = false := by
  intro c hc
  rcases Decimal.numeral_chars hc with hdigit | rfl
  · have hcode : 48 ≤ c.toNat ∧ c.toNat ≤ 57 := by
      simpa [Char.isDigit, UInt32.le_iff_toNat_le] using hdigit
    simp only [Text.isBlank, Text.isBlankCode]
    grind
  · rfl

/-- **An integer that was written out** is read again, whatever blanks stand around it. -/
theorem integerIn_between (i : Int64) {front back : String}
    (hfront : Text.isBlankText front = true) (hback : Text.isBlankText back = true) :
    integerIn (front ++ toString i.toInt ++ back) = some i := by
  rw [integerIn, Text.trim_between hfront hback isBlank_of_numeral, Decimal.readInt64_toString]

theorem coerce_text_ofInt64 (i : Int64) :
    Kind.text.coerce (.ofInt64 i) = .ok (.text (toString i.toInt)) := rfl

theorem read_integer_of_integerIn {i : Int64} (h : integerIn s = some i) :
    Kind.integer.read s = .ok (.integer i) := by
  rw [read_integer, elim_eq_ok]
  exact ⟨i, h, rfl⟩

/-! ## All texts -/

/-- **A text means the same in a request and in a row.**  For each kind one reading takes a text just
if the other one does, and what the column comes to is what the bound value is; texts and JSON texts
stay as they are, with all their blanks; and where the readings fail, both name the text.  An integer
that a column of texts has written out is found again by both of them, whatever blanks have come
around it. -/
theorem read_coerce_alike (kind : Kind) (s : String) :
    ((∃ v, kind.read s = .ok v) ↔ ∃ w, kind.coerce (.text s) = .ok w) ∧
    (∀ v w, kind.read s = .ok v → kind.coerce (.text s) = .ok w → Denotes w v) ∧
    (kind = .text ∨ kind = .json →
      kind.read s = .ok (.text s) ∧ kind.coerce (.text s) = .ok (.text s)) ∧
    (∀ m, kind.coerce (.text s) = .error m ↔
      kind.read s = .error ⟨kind, s⟩ ∧ m = .unreadable kind s) ∧
    ∀ i : Int64, ∃ numeral, Kind.text.coerce (.ofInt64 i) = .ok (.text numeral) ∧
      ∀ front back, Text.isBlankText front = true → Text.isBlankText back = true →
        Kind.integer.read (front ++ numeral ++ back) = .ok (.integer i) ∧
        Kind.integer.coerce (.text (front ++ numeral ++ back)) = .ok (.ofInt64 i) := by
  refine ⟨?_, ?_, ?_, fun m => coerce_text_eq_error, fun i => ?_⟩
  · constructor
    · rintro ⟨v, hv⟩
      cases hw : kind.coerce (.text s) with
      | ok w => exact ⟨w, rfl⟩
      | error m =>
        rw [(coerce_text_eq_error.1 hw).1] at hv
        cases hv
    · rintro ⟨w, hw⟩
      obtain ⟨v, hv, -⟩ := coerce_text_eq_ok.1 hw
      exact ⟨v, hv⟩
  · intro v w hv hw
    obtain ⟨v', hv', hdenotes⟩ := coerce_text_eq_ok.1 hw
    obtain rfl := Except.ok.inj (hv.symm.trans hv')
    exact hdenotes
  · rintro (rfl | rfl)
    · exact ⟨rfl, rfl⟩
    · exact ⟨rfl, rfl⟩
  · refine ⟨toString i.toInt, coerce_text_ofInt64 i, fun front back hfront hback => ?_⟩
    have hread := read_integer_of_integerIn (integerIn_between i hfront hback)
    exact ⟨hread, coerce_text_eq_ok.2 ⟨_, hread, .integer i⟩⟩

/-- A truth value between blanks, and the least integer between blanks of several widths. -/
theorem read_coerce_alike_least :
    Kind.boolean.read " TRUE " = .ok (.boolean true) ∧
    Kind.boolean.coerce (.text " TRUE ") = .ok (.bool true) ∧
    Denotes (.bool true) (.boolean true) ∧
    Text.isBlankText "\u00a0\t" = true ∧ Text.isBlankText "\u3000" = true ∧
    Kind.integer.read "\u00a0\t-9223372036854775808\u3000" = .ok (.integer Int64.minValue) ∧
    Kind.integer.coerce (.text "\u00a0\t-9223372036854775808\u3000")
      = .ok (.int (-9223372036854775808)) := by
  have hread : Kind.boolean.read " TRUE " = .ok (.boolean true) := rfl
  have hcoerce : Kind.boolean.coerce (.text " TRUE ") = .ok (.bool true) := rfl
  have hdenotes := (read_coerce_alike .boolean " TRUE ").2.1 _ _ hread hcoerce
  have hfront : Text.isBlankText "\u00a0\t" = true := by decide
  have hback : Text.isBlankText "\u3000" = true := by decide
  obtain ⟨numeral, hnumeral, hboth⟩ := (read_coerce_alike .boolean " TRUE ").2.2.2.2 Int64.minValue
  have hleast : Kind.text.coerce (.ofInt64 Int64.minValue)
      = .ok (.text "-9223372036854775808") := rfl
  obtain rfl := Json.text.inj (Except.ok.inj (hnumeral.symm.trans hleast))
  obtain ⟨hinteger, hcolumn⟩ := hboth _ _ hfront hback
  exact ⟨hread, hcoerce, hdenotes, hfront, hback, hinteger, hcolumn⟩

end TableQuery.Kind
