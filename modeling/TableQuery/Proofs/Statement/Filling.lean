import TableQuery.Proofs.Outcome
import TableQuery.Proofs.Statement.Scanning
import TableQuery.Statement.Binding

/-!
# Binding a statement in parts

The placeholders of a statement are numbered through, so a part is filled after those before it:
what counts is how many values they took.

* `numbered`, `spelled` — placeholders of given numbers, letter by letter; `slots_eq_spelled` says
  that statements have these;
* `fill_append` — one part after another;
* `fill_chars` — characters take no value;
* `bind_eq_error` — a statement fails at a placeholder without a value, and at nothing else;
* `bind_framed` — texts around a statement that bind nothing themselves stay around it, whatever
  the statement leaves open;
* `bind_append_seam` — a part behind a statement is filled after it.
-/

namespace TableQuery.Dialect

variable (d : Dialect) (p : Parameters)

/-! ## How placeholders are spelled -/

/-- The mark before the number of a placeholder. -/
def mark : Dialect → Char
  | .postgres => '$'
  | .sqlite => '?'

/-- The placeholder of a number: the mark and the decimal digits of the number. -/
def numbered (n : Nat) : String := String.ofList (d.mark :: Nat.toDigits 10 n)

/-- The placeholders of these numbers, with a comma and a blank between two of them; and `NULL` for
no numbers. -/
def spelled : List Nat → String
  | [] => "NULL"
  | [n] => d.numbered n
  | n :: m :: rest => d.numbered n ++ ", " ++ spelled (m :: rest)

theorem placeholder_eq_numbered (n : Nat) : d.placeholder n = d.numbered n := by
  have hdigits : (toString n).toList = Nat.toDigits 10 n := by
    rw [Nat.toString_eq_repr, Nat.toList_repr]
  rw [← String.toList_inj, numbered, String.toList_ofList]
  cases d with
  | postgres =>
    rw [placeholder, String.toList_append, hdigits]
    rfl
  | sqlite =>
    rw [placeholder, String.toList_append, hdigits]
    rfl

theorem intercalate_placeholder_eq_spelled (n : Nat) (rest : List Nat) :
    ", ".intercalate ((n :: rest).map d.placeholder) = d.spelled (n :: rest) := by
  induction rest generalizing n with
  | nil => rw [List.map_singleton, String.intercalate_singleton, placeholder_eq_numbered, spelled]
  | cons m rest ih =>
    rw [List.map_cons, List.map_cons, String.intercalate_cons_cons, ← List.map_cons, ih, spelled,
      placeholder_eq_numbered]

/-- **The placeholders of a value** are those of the numbers behind the ones before it. -/
theorem slots_eq_spelled (bound count : Nat) :
    d.slots bound count = d.spelled (List.range' (bound + 1) count) := by
  cases count with
  | zero => rfl
  | succ count =>
    rw [slots, if_neg (Nat.succ_ne_zero count), List.range'_succ,
      intercalate_placeholder_eq_spelled]

theorem slots_one (bound : Nat) : d.slots bound 1 = d.numbered (bound + 1) := by
  rw [slots_eq_spelled, List.range'_one, spelled]

/-! ## Filling -/

theorem fill_char (n : Nat) (c : Char) (ys : List Piece) :
    d.fill p n (.char c :: ys) = (d.fill p n ys).map fun b => (c :: b.1, b.2) := by
  rw [fill]
  cases d.fill p n ys <;> rfl

/-- A placeholder with a value takes the next positions, and what follows is filled after them. -/
theorem fill_placeholder {name : String} {v : Value} (h : p.get? name = some v) (n : Nat)
    (ys : List Piece) :
    d.fill p n (.placeholder name :: ys)
      = (d.fill p (n + v.operands.length) ys).map fun b =>
          ((d.slots n v.operands.length).toList ++ b.1, v.operands ++ b.2) := by
  simp only [fill, h]
  cases d.fill p (n + v.operands.length) ys <;> rfl

theorem fill_unbound {name : String} (h : p.get? name = none) (n : Nat) (ys : List Piece) :
    d.fill p n (.placeholder name :: ys) = .error (.unboundParameter name) := by
  simp only [fill, h]

/-- Characters stand for themselves and take no value. -/
theorem fill_chars (n : Nat) (cs : List Char) : d.fill p n (cs.map .char) = .ok (cs, []) := by
  induction cs with
  | nil => rfl
  | cons c cs ih =>
    rw [List.map_cons, fill_char, ih]
    rfl

/-- **One part after another.**  Pieces behind others are filled after as many values as those
took; pieces that fail, fail with anything behind them. -/
theorem fill_append (n : Nat) (xs ys : List Piece) :
    d.fill p n (xs ++ ys)
      = (d.fill p n xs).bind fun a =>
          (d.fill p (n + a.2.length) ys).map fun b => (a.1 ++ b.1, a.2 ++ b.2) := by
  induction xs generalizing n with
  | nil =>
    show d.fill p n ys = (d.fill p n ys).map fun b => b
    cases d.fill p n ys <;> rfl
  | cons x xs ih =>
    cases x with
    | char c =>
      rw [List.cons_append, fill_char, fill_char, ih]
      cases d.fill p n xs with
      | error e => rfl
      | ok a =>
        show ((d.fill p (n + a.2.length) ys).map _).map _ = (d.fill p (n + a.2.length) ys).map _
        cases d.fill p (n + a.2.length) ys <;> rfl
    | placeholder name =>
      rw [List.cons_append]
      cases hget : p.get? name with
      | none =>
        rw [d.fill_unbound p hget, d.fill_unbound p hget]
        rfl
      | some v =>
        rw [d.fill_placeholder p hget, d.fill_placeholder p hget, ih]
        cases d.fill p (n + v.operands.length) xs with
        | error e => rfl
        | ok a =>
          show ((d.fill p (n + v.operands.length + a.2.length) ys).map _).map _
            = (d.fill p (n + (v.operands ++ a.2).length) ys).map _
          rw [List.length_append, ← Nat.add_assoc]
          cases d.fill p (n + v.operands.length + a.2.length) ys with
          | error e => rfl
          | ok b => simp only [Except.map, List.append_assoc]

/-- Characters before other pieces leave the positions of those as they are. -/
theorem fill_chars_append (n : Nat) (cs : List Char) (ys : List Piece) :
    d.fill p n (cs.map .char ++ ys) = (d.fill p n ys).map fun b => (cs ++ b.1, b.2) := by
  rw [fill_append, fill_chars]
  rfl

/-- A placeholder without a value is all that a statement can fail at. -/
theorem fill_eq_error {n : Nat} {pieces : List Piece} {e : ConfigurationError}
    (h : d.fill p n pieces = .error e) : ∃ name, e = .unboundParameter name := by
  induction pieces generalizing n with
  | nil => cases h
  | cons piece rest ih =>
    cases piece with
    | char c =>
      rw [fill_char] at h
      exact ih (Outcome.map_eq_error.1 h)
    | placeholder name =>
      cases hname : p.get? name with
      | none =>
        rw [fill_unbound d p hname] at h
        exact ⟨name, (Except.error.inj h).symm⟩
      | some v =>
        rw [fill_placeholder d p hname] at h
        exact ih (Outcome.map_eq_error.1 h)

/-! ## Binding -/

theorem bind_eq_map (sql : String) :
    d.bind sql p
      = (d.fill p 0 (Lexical.scan .code sql.toList)).map fun b =>
          ⟨String.ofList b.1, b.2⟩ := by
  rw [bind]
  cases d.fill p 0 (Lexical.scan .code sql.toList) <;> rfl

theorem bind_eq_error {sql : String} {e : ConfigurationError} (h : d.bind sql p = .error e) :
    ∃ name, e = .unboundParameter name := by
  rw [bind_eq_map] at h
  exact fill_eq_error d p (Outcome.map_eq_error.1 h)

/-- **The frame of a statement.**  A closed text before a statement and an inert text behind it
bind nothing: the statement is bound as it would be alone, and they stay where they are. -/
theorem bind_framed (front sql back : String) (hcolon : ':' ∉ front.toList)
    (hclosed : Lexical.after .code front.toList = .code) (hback : Lexical.IsInert back.toList) :
    d.bind (front ++ sql ++ back) p
      = (d.bind sql p).map fun b => ⟨front ++ b.sql ++ back, b.values⟩ := by
  have hscan : Lexical.scan .code (front ++ sql ++ back).toList
      = front.toList.map .char ++ (Lexical.scan .code sql.toList ++ back.toList.map .char) := by
    rw [String.toList_append, String.toList_append, List.append_assoc,
      Lexical.scan_closed_append hcolon hclosed, Lexical.scan_append_inert _ _ hback]
  rw [bind_eq_map, bind_eq_map, hscan, fill_chars_append, fill_append]
  cases d.fill p 0 (Lexical.scan .code sql.toList) with
  | error e => rfl
  | ok a =>
    simp only [Except.bind, fill_chars, Except.map, List.append_nil]
    rw [String.ofList_append, String.ofList_append, String.ofList_toList, String.ofList_toList,
      String.append_assoc]

/-- **A part behind a statement.**  Behind a statement that ends outside quotes and comments, a part
that begins with a separating character is filled after the values of the statement. -/
theorem bind_append_seam {sql part : String} {filled : Nat → String} {values : List Value}
    (hlive : Lexical.isLive (Lexical.after .code sql.toList) = true)
    (hpart : ∀ c ∈ part.toList.head?, Lexical.isSeparator c = true)
    (hfill : ∀ n, d.fill p n (Lexical.scan .code part.toList) = .ok ((filled n).toList, values)) :
    d.bind (sql ++ part) p
      = (d.bind sql p).map fun b => ⟨b.sql ++ filled b.values.length, b.values ++ values⟩ := by
  rw [bind_eq_map, bind_eq_map, String.toList_append, Lexical.scan_append_seam hlive hpart,
    fill_append]
  cases d.fill p 0 (Lexical.scan .code sql.toList) with
  | error e => rfl
  | ok a =>
    simp only [Except.bind, hfill, Except.map]
    rw [Nat.zero_add, String.ofList_append, String.ofList_toList]

end TableQuery.Dialect
