import TableQuery.Proofs.Statement.Filling
import TableQuery.Proofs.Text.Encoding
import TableQuery.Proofs.Text.Split

/-!
# Binding a statement byte by byte

A scanner of bytes has a cursor in the statement and copies nothing while it moves: only at a name
does it copy what stands between the last name and this one, and at the end what is left.  So it
asks for parts of the statement by the numbers of their bytes, and such a part need not be there: a
number may be behind the end of the statement or inside a character.

* `Cursor` — where the scanner stands, and what it has written;
* `Halt` — why it may stop: at a name without a value, or because a part is not there;
* `Cursor.round` — what it does with the byte at the cursor;
* `Cursor.lt_next_of_round` — a round that succeeds moves the cursor on, but not behind the end;
* `Cursor.run`, `Dialect.bindBytewise` — round after round, and what is left behind the last name;
* `Cursor.Reached` — the cursors that are passed, with the number of rounds up to each.
-/

namespace TableQuery

open Text

/-- Where a scanner of bytes stands. -/
structure Cursor where
  /-- The text that is written so far. -/
  written : String
  /-- The values that are bound so far. -/
  values : List Value
  /-- The number of the byte up to which the statement is written. -/
  copied : Nat
  /-- The number of the byte that is read next. -/
  next : Nat

/-- Why a scanner of bytes stops before the end. -/
inductive Halt where
  /-- The statement cannot be bound. -/
  | refused (e : ConfigurationError)
  /-- Bytes are asked for from a number on that is behind the end. -/
  | noBytes (first : Nat)
  /-- A part is asked for whose bounds are out of order, behind the end or inside a character. -/
  | noPart (first last : Nat)

/-! ## Where bytes end -/

/-- The bytes from a number on. -/
def bytesFrom (bytes : List UInt8) (first : Nat) : Except Halt (List UInt8) :=
  if first ≤ bytes.length then .ok (bytes.drop first) else .error (.noBytes first)

/-- The part of a statement between two numbers of bytes. -/
def partOf (sql : String) (first last : Nat) : Except Halt String :=
  match slice? sql first last with
  | some part => .ok part
  | none => .error (.noPart first last)

/-- The end of the quoted run that goes on at a byte: behind the first quote that is not written
twice, or the end of all bytes. -/
def quoteEnd (bytes : List UInt8) (mark : Char) (i : Nat) : Nat :=
  match h : signAt? bytes i with
  | none => bytes.length
  | some c =>
    if c = mark then
      if signAt? bytes (i + 1) = some mark then quoteEnd bytes mark (i + 2) else i + 1
    else quoteEnd bytes mark (i + 1)
termination_by bytes.length - i
decreasing_by
  all_goals
    have hi := lt_length_of_signAt? h
    omega

/-- The end of the line that goes on at a byte: behind the first line break, or the end of all
bytes. -/
def lineEnd (bytes : List UInt8) (i : Nat) : Except Halt Nat :=
  (bytesFrom bytes i).map fun rest =>
    (rest.findIdx? fun b => Char.ofUInt8 b == '\n').elim bytes.length fun n => i + n + 1

/-- The end of the comment that goes on at a byte: behind the first star with a slash, or the end of
the statement. -/
def commentEnd (sql : String) (i : Nat) : Except Halt Nat :=
  (partOf sql i (bytes sql).length).map fun rest =>
    (cutAround ['*', '/'] rest.toList).elim (bytes sql).length fun cut =>
      i + (encoded cut.1).length + 2

/-- The end of the name that begins at a byte: the first byte that goes on no name, or the end of
all bytes. -/
def nameEnd (bytes : List UInt8) (i : Nat) : Except Halt Nat :=
  (bytesFrom bytes i).map fun rest =>
    (rest.findIdx? fun b => !Identifier.isPart (Char.ofUInt8 b)).elim bytes.length fun n => i + n

/-! ## Rounds -/

namespace Cursor

/-- The cursor before the first round. -/
def start : Cursor := ⟨"", [], 0, 0⟩

/-- The cursor at another byte; nothing is copied. -/
def movedTo (s : Cursor) (next : Nat) : Cursor := { s with next := next }

/-- The cursor behind a name, when a text and the placeholders of a value are written. -/
def filled (d : Dialect) (text : String) (v : Value) (last : Nat) (s : Cursor) : Cursor where
  written := s.written ++ text ++ d.slots s.values.length v.operands.length
  values := s.values ++ v.operands
  copied := last
  next := last

section

variable (d : Dialect) (p : Parameters) (sql : String)

/-- The name behind the colon at the cursor is looked up; what stands between the last name and the
colon is copied, and the placeholders of the value are written in place of the name. -/
def replaceName (s : Cursor) : Except Halt Cursor := do
  let last ← nameEnd (bytes sql) (s.next + 1)
  let name ← partOf sql (s.next + 1) last
  match p.get? name with
  | none => .error (.refused (.unboundParameter name))
  | some v => do
    let front ← partOf sql s.copied s.next
    .ok (s.filled d front v last)

/-- One round, at a byte that reads as this character. -/
def round (c : Char) (s : Cursor) : Except Halt Cursor :=
  let following := signAt? (bytes sql) (s.next + 1)
  if Lexical.isQuote c then .ok (s.movedTo (quoteEnd (bytes sql) c (s.next + 1)))
  else if c = '-' ∧ following = some '-' then (lineEnd (bytes sql) s.next).map s.movedTo
  else if c = '/' ∧ following = some '*' then (commentEnd sql (s.next + 2)).map s.movedTo
  else if c = ':' ∧ following = some ':' then .ok (s.movedTo (s.next + 2))
  else if c = ':' ∧ following.any Identifier.isStart = true then s.replaceName d p sql
  else .ok (s.movedTo (s.next + 1))

end

end Cursor

/-! ## Every round moves the cursor on -/

theorem bytesFrom_eq_ok {bytes rest : List UInt8} {first : Nat} :
    bytesFrom bytes first = .ok rest ↔ first ≤ bytes.length ∧ rest = bytes.drop first := by
  rw [bytesFrom]
  split
  next h => exact ⟨fun heq => ⟨h, (Except.ok.inj heq).symm⟩, fun heq => by rw [heq.2]⟩
  next h => exact ⟨fun heq => (by cases heq), fun heq => absurd heq.1 h⟩

theorem partOf_eq_ok {sql part : String} {first last : Nat} :
    partOf sql first last = .ok part ↔ slice? sql first last = some part := by
  rw [partOf]
  cases slice? sql first last with
  | none => exact ⟨fun h => (by cases h), fun h => (by cases h)⟩
  | some part' => simp

theorem quoteEnd_of_end {bytes : List UInt8} {mark : Char} {i : Nat}
    (h : signAt? bytes i = none) : quoteEnd bytes mark i = bytes.length := by
  rw [quoteEnd]
  split
  next => rfl
  next c hc => rw [h] at hc; cases hc

theorem quoteEnd_of_sign {bytes : List UInt8} {mark c : Char} {i : Nat}
    (h : signAt? bytes i = some c) :
    quoteEnd bytes mark i
      = if c = mark then
          if signAt? bytes (i + 1) = some mark then quoteEnd bytes mark (i + 2) else i + 1
        else quoteEnd bytes mark (i + 1) := by
  rw [quoteEnd]
  split
  next hnone => rw [h] at hnone; cases hnone
  next c' hc' =>
    rw [h] at hc'
    cases hc'
    rfl

theorem quoteEnd_bounds {bytes : List UInt8} {mark : Char} {i : Nat} (h : i ≤ bytes.length) :
    i ≤ quoteEnd bytes mark i ∧ quoteEnd bytes mark i ≤ bytes.length := by
  fun_induction quoteEnd bytes mark i with
  | case1 i => exact ⟨h, Nat.le_refl _⟩
  | case2 i hdoubled _ ih =>
    have hi := ih (lt_length_of_signAt? hdoubled)
    omega
  | case3 i _ hmark => exact ⟨Nat.le_succ i, lt_length_of_signAt? hmark⟩
  | case4 i c hc _ ih =>
    have hi := ih (lt_length_of_signAt? hc)
    omega

theorem lineEnd_bounds {bytes : List UInt8} {i last : Nat} (hi : i < bytes.length)
    (h : lineEnd bytes i = .ok last) : i < last ∧ last ≤ bytes.length := by
  obtain ⟨rest, hrest, rfl⟩ := Outcome.map_eq_ok.1 h
  obtain ⟨-, rfl⟩ := bytesFrom_eq_ok.1 hrest
  cases hfind : (bytes.drop i).findIdx? fun b => Char.ofUInt8 b == '\n' with
  | none => exact ⟨hi, Nat.le_refl _⟩
  | some n =>
    have hn := (List.findIdx?_eq_some_iff_getElem.1 hfind).1
    rw [List.length_drop] at hn
    simp only [Option.elim_some]
    omega

theorem nameEnd_bounds {bytes : List UInt8} {i last : Nat} (h : nameEnd bytes i = .ok last) :
    i ≤ last ∧ last ≤ bytes.length := by
  obtain ⟨rest, hrest, rfl⟩ := Outcome.map_eq_ok.1 h
  obtain ⟨hi, rfl⟩ := bytesFrom_eq_ok.1 hrest
  cases hfind : (bytes.drop i).findIdx? fun b => !Identifier.isPart (Char.ofUInt8 b) with
  | none => exact ⟨hi, Nat.le_refl _⟩
  | some n =>
    have hn := (List.findIdx?_eq_some_iff_getElem.1 hfind).1
    rw [List.length_drop] at hn
    simp only [Option.elim_some]
    omega

theorem commentEnd_bounds {sql : String} {i last : Nat} (h : commentEnd sql i = .ok last) :
    i ≤ last ∧ last ≤ (bytes sql).length := by
  obtain ⟨rest, hrest, rfl⟩ := Outcome.map_eq_ok.1 h
  obtain ⟨front, back, hsql, hi, hlength⟩ := slice?_eq_some_iff.1 (partOf_eq_ok.1 hrest)
  rw [String.utf8ByteSize_append] at hlength
  cases hcut : cutAround ['*', '/'] rest.toList with
  | none => exact ⟨by rw [Option.elim_none]; omega, Nat.le_refl _⟩
  | some cut =>
    -- the star and the slash are two bytes of the part behind what is in front of them
    have hrest := congrArg (fun cs => (encoded cs).length) (cutAround_eq_some hcut)
    simp only [encoded_append, List.length_append, length_encoded rest.toList,
      String.ofList_toList] at hrest
    have hmark : (encoded ['*', '/']).length = 2 := rfl
    simp only [Option.elim_some]
    omega

namespace Cursor

variable {d : Dialect} {p : Parameters} {sql : String} {s s' : Cursor} {c : Char}

/-- After a name the cursor is at its end. -/
theorem nameEnd_of_replaceName (h : s.replaceName d p sql = .ok s') :
    nameEnd (bytes sql) (s.next + 1) = .ok s'.next := by
  obtain ⟨last, hlast, h⟩ := Outcome.bind_eq_ok.1 h
  obtain ⟨name, -, h⟩ := Outcome.bind_eq_ok.1 h
  cases hname : p.get? name with
  | none =>
    rw [hname] at h
    cases h
  | some v =>
    rw [hname] at h
    obtain ⟨front, -, h⟩ := Outcome.bind_eq_ok.1 h
    cases h
    exact hlast

/-- **A round that succeeds moves the cursor on**, and not behind the end of the bytes. -/
theorem lt_next_of_round (hc : signAt? (bytes sql) s.next = some c)
    (h : s.round d p sql c = .ok s') : s.next < s'.next ∧ s'.next ≤ (bytes sql).length := by
  have hnext : s.next < (bytes sql).length := lt_length_of_signAt? hc
  rw [round] at h
  split_ifs at h with hquote hline hblock hcast hname
  · cases h
    exact quoteEnd_bounds hnext
  · obtain ⟨last, hlast, rfl⟩ := Outcome.map_eq_ok.1 h
    exact lineEnd_bounds hnext hlast
  · obtain ⟨last, hlast, rfl⟩ := Outcome.map_eq_ok.1 h
    have hbounds := commentEnd_bounds hlast
    exact ⟨by simp only [movedTo]; omega, hbounds.2⟩
  · cases h
    exact ⟨by simp only [movedTo]; omega, lt_length_of_signAt? hcast.2⟩
  · exact nameEnd_bounds (nameEnd_of_replaceName h)
  · cases h
    exact ⟨Nat.lt_succ_self _, hnext⟩

/-! ## Round after round -/

variable (d p sql)

/-- Rounds from a cursor on until there is no byte left. -/
def run (s : Cursor) : Except Halt Cursor :=
  match _hc : signAt? (bytes sql) s.next with
  | none => .ok s
  | some c =>
    match _h : s.round d p sql c with
    | .error e => .error e
    | .ok s' => run s'
termination_by (bytes sql).length - s.next
decreasing_by
  have hmove := lt_next_of_round _hc _h
  omega

/-- The cursors that are passed, with the number of rounds up to each. -/
inductive Reached : Nat → Cursor → Prop where
  | start : Reached 0 .start
  | round {n : Nat} {s s' : Cursor} {c : Char} (hs : Reached n s)
      (hc : signAt? (bytes sql) s.next = some c) (h : s.round d p sql c = .ok s') :
      Reached (n + 1) s'

variable {d p sql}

theorem run_of_round (hc : signAt? (bytes sql) s.next = some c) :
    run d p sql s = (s.round d p sql c).bind (run d p sql) := by
  rw [run]
  split
  next hnone => rw [hc] at hnone; cases hnone
  next c' hc' =>
    rw [hc] at hc'
    cases hc'
    split
    next e he => rw [he]; rfl
    next s' hs' => rw [hs']; rfl

/-- What the rounds come to is what they come to from any cursor on that is passed. -/
theorem run_of_reached {n : Nat} (h : Reached d p sql n s) :
    run d p sql .start = run d p sql s := by
  induction h with
  | start => rfl
  | round _ hc h ih => rw [ih, run_of_round hc, h]; rfl

/-- There are no more rounds than bytes. -/
theorem le_next_of_reached {n : Nat} (h : Reached d p sql n s) : n ≤ s.next := by
  induction h with
  | start => exact Nat.zero_le _
  | round _ hc h ih =>
    have hmove := lt_next_of_round hc h
    omega

theorem next_le_of_reached {n : Nat} (h : Reached d p sql n s) :
    s.next ≤ (bytes sql).length := by
  cases h with
  | start => exact Nat.zero_le _
  | round _ hc h => exact (lt_next_of_round hc h).2

end Cursor

/-- Behind the last name, what is left of the statement is copied. -/
def Cursor.finish (sql : String) (s : Cursor) : Except Halt BoundStatement :=
  (partOf sql s.copied (bytes sql).length).map fun back => ⟨s.written ++ back, s.values⟩

/-- A statement bound by a scanner of bytes. -/
def Dialect.bindBytewise (d : Dialect) (sql : String) (p : Parameters) :
    Except Halt BoundStatement :=
  (Cursor.run d p sql .start).bind (Cursor.finish sql)

end TableQuery
