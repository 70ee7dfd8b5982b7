import TableQuery.Proofs.Statement.Rounds

/-!
# A scanner of bytes reads whole characters

Only at a name and at the end does a scanner of bytes copy anything, and wherever it stands, what it
has passed since the last name is whole characters and possibly some bytes of one more.  Such a byte
reads as no ASCII character.  So whatever begins at the cursor begins at a place of the statement,
and the parts that the scanner asks for are the parts that a reader of characters finds.

* `Cursor.Standing` — the statement in three parts: written, passed and left;
* `Cursor.OnWay` — a cursor between two of its characters or inside one;
* `Cursor.OnWay.under` — a byte that reads as an ASCII character is one;
* `Cursor.OnWay.round`, `Cursor.onWay_of_reached` — one round, and then all rounds, keep a cursor on
  its way;
* `Cursor.WellPlaced`, `Dialect.bind_bytewise` — every round moves on, every part is there, and the
  result is that of binding by characters.
-/

namespace TableQuery

open Text

namespace Cursor

variable {d : Dialect} {p : Parameters} {sql : String} {s : Cursor}
  {before front passed rest : List Char} {c : Char}

/-! ## The statement at a cursor -/

/-- The statement in three parts: what is written, what is passed but not copied, and what is left.
It is bound to what is written, then what is passed as it is, then what is left, filled after the
values so far. -/
structure Standing (d : Dialect) (p : Parameters) (sql : String) (front passed rest : List Char)
    (s : Cursor) : Prop where
  text : sql.toList = front ++ (passed ++ rest)
  copied : s.copied = (encoded front).length
  bound : d.fill p 0 (Lexical.scan .code sql.toList)
    = (d.fill p s.values.length (Lexical.scan .code rest)).map fun b =>
        (s.written.toList ++ (passed ++ b.1), s.values ++ b.2)

/-- A cursor on its way through the statement. -/
inductive OnWay (d : Dialect) (p : Parameters) (sql : String) (s : Cursor) : Prop where
  /-- Between two characters. -/
  | between {front passed rest : List Char} (h : Standing d p sql front passed rest s)
      (hnext : s.next = (encoded (front ++ passed)).length)
  /-- Inside a character that is passed byte by byte. -/
  | inside {front passed rest : List Char} {c : Char} {k : Nat}
      (h : Standing d p sql front passed (c :: rest) s) (hk : 0 < k) (hc : k < c.utf8Size)
      (hnext : s.next = (encoded (front ++ passed)).length + k)

theorem onWay_start : OnWay d p sql .start := by
  have h : Standing d p sql [] [] sql.toList .start := by
    refine ⟨rfl, rfl, ?_⟩
    show _ = (d.fill p 0 (Lexical.scan .code sql.toList)).map fun b => b
    cases d.fill p 0 (Lexical.scan .code sql.toList) <;> rfl
  exact .between h rfl

/-- Text that is read as it stands is passed and copied later. -/
theorem Standing.pass {text : List Char} (h : Standing d p sql front passed (text ++ rest) s)
    (hscan : Lexical.scan .code (text ++ rest) = text.map .char ++ Lexical.scan .code rest)
    (next : Nat) : Standing d p sql front (passed ++ text) rest (s.movedTo next) where
  text := by rw [h.text, List.append_assoc]
  copied := h.copied
  bound := by
    show _ = (d.fill p s.values.length (Lexical.scan .code rest)).map fun b =>
      (s.written.toList ++ (passed ++ text ++ b.1), s.values ++ b.2)
    rw [h.bound, hscan, d.fill_chars_append p]
    cases d.fill p s.values.length (Lexical.scan .code rest) with
    | error e => rfl
    | ok b => simp only [Except.map, List.append_assoc]

/-- What is passed is the part between the last name and a cursor between two characters. -/
theorem Standing.partOf_passed (h : Standing d p sql front passed rest s)
    (hnext : s.next = (encoded (front ++ passed)).length) :
    partOf sql s.copied s.next = .ok (String.ofList passed) := by
  rw [h.copied, hnext, partOf_eq_ok]
  exact slice?_of_append h.text

/-! ## What stands at a cursor -/

/-- A byte of a character that is no ASCII character is none either. -/
theorem le_of_signAt?_inside {c' : Char} {k : Nat} (hsql : sql.toList = before ++ c' :: rest)
    (hc' : 128 ≤ c'.toNat) (hk : k < c'.utf8Size)
    (hc : signAt? (bytes sql) ((encoded before).length + k) = some c) : 128 ≤ c.toNat := by
  have hk' : k < (String.utf8EncodeChar c').length := by rwa [String.length_utf8EncodeChar]
  rw [bytes_eq_encoded, hsql, encoded_append, signAt?_append, encoded_cons, signAt?,
    List.getElem?_append_left hk', List.getElem?_eq_getElem hk'] at hc
  rw [← Option.some.inj hc]
  exact le_of_mem_utf8EncodeChar hc' (List.getElem_mem hk')

/-- What the byte at a cursor belongs to. -/
inductive Under (d : Dialect) (p : Parameters) (sql : String) (s : Cursor) (c : Char) : Prop where
  /-- An ASCII character, which stands between two places. -/
  | ascii {front passed rest : List Char} (hc : c.toNat < 128)
      (h : Standing d p sql front passed (c :: rest) s)
      (hnext : s.next = (encoded (front ++ passed)).length)
  /-- Another character, of which this may be any byte. -/
  | other {front passed rest : List Char} {c' : Char} {k : Nat} (hc : 128 ≤ c.toNat)
      (h : Standing d p sql front passed (c' :: rest) s) (hc' : 128 ≤ c'.toNat)
      (hk : k < c'.utf8Size) (hnext : s.next = (encoded (front ++ passed)).length + k)

/-- **A byte that reads as an ASCII character is one**, wherever the cursor stands. -/
theorem OnWay.under (h : OnWay d p sql s) (hc : signAt? (bytes sql) s.next = some c) :
    Under d p sql s c := by
  cases h with
  | @between front passed rest h hnext =>
    have hsql : sql.toList = (front ++ passed) ++ rest := by rw [h.text, List.append_assoc]
    cases rest with
    | nil =>
      have hlength : (bytes sql).length = s.next := by
        rw [bytes_eq_encoded, hsql, List.append_nil, hnext]
      exact absurd (lt_length_of_signAt? hc) (Nat.not_lt.2 (Nat.le_of_eq hlength))
    | cons c' rest =>
      rcases Nat.lt_or_ge c'.toNat 128 with hc' | hc'
      · obtain ⟨b, hb, hbytes⟩ := encoded_cons_of_ascii hc' rest
        rw [bytes_eq_encoded, hsql, encoded_append, hbytes, hnext, signAt?_append_cons] at hc
        obtain rfl : c' = c := hb.symm.trans (Option.some.inj hc)
        exact .ascii hc' h hnext
      · have hpos : 0 < c'.utf8Size := Char.utf8Size_pos c'
        exact .other (le_of_signAt?_inside hsql hc' hpos (hnext ▸ hc)) h hc' hpos hnext
  | @inside front passed rest c' k h hk hsize hnext =>
    have hsql : sql.toList = (front ++ passed) ++ c' :: rest := by rw [h.text, List.append_assoc]
    have hc' : 128 ≤ c'.toNat := not_ascii_of_utf8Size (Nat.lt_of_le_of_lt hk hsize)
    exact .other (le_of_signAt?_inside hsql hc' hsize (hnext ▸ hc)) h hc' hsize hnext

/-! ## Rounds keep a cursor on its way -/

/-- One byte of a character that is no ASCII character is passed. -/
theorem Standing.pass_byte {k : Nat} (h : Standing d p sql front passed (c :: rest) s)
    (hc : 128 ≤ c.toNat) (hk : k < c.utf8Size)
    (hnext : s.next = (encoded (front ++ passed)).length + k) :
    OnWay d p sql (s.movedTo (s.next + 1)) := by
  rcases Nat.lt_or_ge (k + 1) c.utf8Size with hmore | hlast
  · have hmoved : Standing d p sql front passed (c :: rest) (s.movedTo (s.next + 1)) :=
      ⟨h.text, h.copied, h.bound⟩
    refine .inside hmoved (Nat.succ_pos k) hmore ?_
    rw [movedTo, hnext, Nat.add_assoc]
  · have hmoved : Standing d p sql front (passed ++ [c]) rest (s.movedTo (s.next + 1)) :=
      h.pass (scan_of_not_ascii hc rest) _
    refine .between hmoved ?_
    have hsize : (encoded [c]).length = c.utf8Size := by
      rw [encoded_cons, List.length_append, String.length_utf8EncodeChar]
      rfl
    show s.next + 1 = _
    rw [← List.append_assoc, encoded_append, List.length_append, hsize]
    omega

/-- A token that is no name is passed. -/
theorem Standing.pass_token (h : Standing d p sql front passed (c :: rest) s)
    (hname : (Token.first c rest).1.name? = none)
    (hnext : s.next = (encoded (front ++ passed)).length) :
    OnWay d p sql (s.movedTo (s.next + (encoded (Token.first c rest).1.text).length)) := by
  have hpieces : (Token.first c rest).1.pieces = (Token.first c rest).1.text.map .char := by
    cases htoken : (Token.first c rest).1 with
    | named name => rw [htoken] at hname; cases hname
    | _ => rfl
  rw [← Token.first_append c rest] at h
  refine .between (h.pass ?_ _) ?_
  · rw [Token.first_append, Lexical.scan_first, hpieces]
  · rw [movedTo, ← List.append_assoc, encoded_append _ (Token.first c rest).1.text,
      List.length_append, hnext]

/-- A name begins at a colon, and goes as far as characters of a name. -/
theorem first_of_name {name : String} (h : (Token.first c rest).1.name? = some name) :
    c = ':' ∧ Token.first c rest
      = (.named (rest.takeWhile Identifier.isPart), rest.dropWhile Identifier.isPart) := by
  rw [Token.first_eq] at h ⊢
  split_ifs at h ⊢ with hquote hline hblock hcast hname
  · cases h
  · cases h
  · cases h
  · cases h
  · exact ⟨hname.1, rfl⟩
  · cases h

/-- The name behind a colon is the part up to its end. -/
theorem Standing.name_part (h : Standing d p sql front passed (':' :: rest) s)
    (hnext : s.next = (encoded (front ++ passed)).length) :
    ∃ last, nameEnd (bytes sql) (s.next + 1) = .ok last ∧
      last = (encoded (front ++ (passed ++ ':' :: rest.takeWhile Identifier.isPart))).length ∧
      partOf sql (s.next + 1) last = .ok (String.ofList (rest.takeWhile Identifier.isPart)) := by
  have hsplit : rest.takeWhile Identifier.isPart ++ rest.dropWhile Identifier.isPart = rest :=
    List.takeWhile_append_dropWhile
  have hsql : sql.toList = (front ++ passed ++ [':'])
      ++ (rest.takeWhile Identifier.isPart ++ rest.dropWhile Identifier.isPart) := by
    rw [hsplit, h.text, List.append_assoc, List.append_assoc]
    rfl
  have hstart : s.next + 1 = (encoded (front ++ passed ++ [':'])).length := by
    rw [hnext, length_encoded_concat (by decide)]
  have hlast : front ++ (passed ++ ':' :: rest.takeWhile Identifier.isPart)
      = front ++ passed ++ [':'] ++ rest.takeWhile Identifier.isPart := by
    simp
  refine ⟨_, ?_, rfl, ?_⟩
  · rw [bytes_eq_encoded, hsql, encoded_append, hsplit, hstart, nameEnd_eq, hlast,
      encoded_append _ (rest.takeWhile Identifier.isPart), List.length_append]
  · rw [hstart, hlast, partOf_eq_ok]
    exact slice?_of_append hsql

/-- Behind a name that is replaced, what was passed and the name are written. -/
theorem Standing.fill {name after : List Char} {v : Value}
    (h : Standing d p sql front passed (':' :: (name ++ after)) s)
    (hscan : Lexical.scan .code (':' :: (name ++ after))
      = .placeholder (String.ofList name) :: Lexical.scan .code after)
    (hget : p.get? (String.ofList name) = some v) (last : Nat)
    (hlast : last = (encoded (front ++ (passed ++ ':' :: name))).length) :
    OnWay d p sql (s.filled d (String.ofList passed) v last) := by
  have hfilled : Standing d p sql (front ++ (passed ++ ':' :: name)) [] after
      (s.filled d (String.ofList passed) v last) := by
    refine ⟨by simp [h.text], hlast, ?_⟩
    have hlength : (s.filled d (String.ofList passed) v last).values.length
        = s.values.length + v.operands.length := List.length_append
    rw [h.bound, hscan, d.fill_placeholder p hget, hlength]
    cases d.fill p (s.values.length + v.operands.length) (Lexical.scan .code after) with
    | error e => rfl
    | ok b => simp [Except.map, filled]
  refine .between hfilled ?_
  rw [List.append_nil]
  exact hlast

/-- **A name is replaced**, and the cursor behind it is on its way; or it has no value, and the
statement cannot be bound. -/
theorem Standing.replace_name (h : Standing d p sql front passed (':' :: rest) s)
    (hfirst : Token.first ':' rest
      = (.named (rest.takeWhile Identifier.isPart), rest.dropWhile Identifier.isPart))
    (hnext : s.next = (encoded (front ++ passed)).length) :
    (∃ s', s.replaceName d p sql = .ok s' ∧ OnWay d p sql s') ∨
    ∃ name, p.get? name = none ∧
      s.replaceName d p sql = .error (.refused (.unboundParameter name)) ∧
      d.bind sql p = .error (.unboundParameter name) := by
  obtain ⟨last, hend, hlast, hname⟩ := h.name_part hnext
  have hsplit : rest.takeWhile Identifier.isPart ++ rest.dropWhile Identifier.isPart = rest :=
    List.takeWhile_append_dropWhile
  have hscan : Lexical.scan .code (':' :: rest)
      = .placeholder (String.ofList (rest.takeWhile Identifier.isPart))
        :: Lexical.scan .code (rest.dropWhile Identifier.isPart) := by
    rw [Lexical.scan_first, hfirst]
    rfl
  cases hget : p.get? (String.ofList (rest.takeWhile Identifier.isPart)) with
  | none =>
    have hbound := h.bound
    rw [hscan, d.fill_unbound p hget] at hbound
    refine .inr ⟨_, hget, ?_, ?_⟩
    · simp only [replaceName, hend, hname, hget, bind, Except.bind]
    · rw [d.bind_eq_map, hbound]
      rfl
  | some v =>
    refine .inl ⟨s.filled d (String.ofList passed) v last, ?_, ?_⟩
    · simp only [replaceName, hend, hname, hget, h.partOf_passed hnext, bind, Except.bind]
    · rw [← hsplit] at h hscan
      exact h.fill (by rw [hscan, hsplit]) hget last hlast

/-- **A round keeps a cursor on its way**, or it stops at a name without a value, and then the
statement cannot be bound. -/
theorem OnWay.round (h : OnWay d p sql s) (hc : signAt? (bytes sql) s.next = some c) :
    (∃ s', s.round d p sql c = .ok s' ∧ OnWay d p sql s') ∨
    ∃ name, p.get? name = none ∧
      s.round d p sql c = .error (.refused (.unboundParameter name)) ∧
      d.bind sql p = .error (.unboundParameter name) := by
  cases h.under hc with
  | @ascii front passed rest hascii h hnext =>
    have hsql : sql.toList = (front ++ passed) ++ c :: rest := by rw [h.text, List.append_assoc]
    rw [round_eq hsql hascii hnext]
    cases hname : (Token.first c rest).1.name? with
    | none => exact .inl ⟨_, rfl, h.pass_token hname hnext⟩
    | some name =>
      obtain ⟨rfl, hfirst⟩ := first_of_name hname
      exact h.replace_name hfirst hnext
  | other hother h hc' hk hnext =>
    rw [round_of_not_ascii hother]
    exact .inl ⟨_, rfl, h.pass_byte hc' hk hnext⟩

theorem onWay_of_reached {n : Nat} (h : Reached d p sql n s) : OnWay d p sql s := by
  induction h with
  | start => exact onWay_start
  | round _ hc hround ih =>
    rcases ih.round hc with ⟨s', hs', hway⟩ | ⟨name, -, hstop, -⟩
    · rw [hround] at hs'
      exact Except.ok.inj hs' ▸ hway
    · rw [hround] at hstop
      cases hstop

/-- The bytes of the statement are those up to a cursor and those behind it. -/
theorem Standing.length_bytes (h : Standing d p sql front passed rest s) :
    (bytes sql).length = (encoded (front ++ passed)).length + (encoded rest).length := by
  rw [bytes_eq_encoded, h.text, ← List.append_assoc, encoded_append, List.length_append]

/-- At the end nothing is left but what was passed. -/
theorem OnWay.at_end (h : OnWay d p sql s) (hend : signAt? (bytes sql) s.next = none) :
    ∃ b, s.finish sql = .ok b ∧ d.bind sql p = .ok b := by
  have hsize (c : Char) (cs : List Char) : c.utf8Size ≤ (encoded (c :: cs)).length := by
    rw [encoded_cons, List.length_append, String.length_utf8EncodeChar]
    exact Nat.le_add_right _ _
  rw [signAt?_eq_none] at hend
  cases h with
  | @between front passed rest h hnext =>
    have hlength := h.length_bytes
    cases rest with
    | nil =>
      refine ⟨⟨s.written ++ String.ofList passed, s.values⟩, ?_, ?_⟩
      · have hback : partOf sql s.copied (bytes sql).length = .ok (String.ofList passed) := by
          rw [← h.partOf_passed hnext, hlength, hnext]
          rfl
        rw [finish, hback]
        rfl
      · have hfill : d.fill p s.values.length (Lexical.scan .code []) = .ok ([], []) := rfl
        rw [d.bind_eq_map, h.bound, hfill]
        simp [Except.map]
    | cons c rest =>
      have hc := hsize c rest
      have hpos := Char.utf8Size_pos c
      omega
  | @inside front passed rest c k h hk hc hnext =>
    have hlength := h.length_bytes
    have hc' := hsize c rest
    omega

/-! ## Every part is there -/

/-- Behind the beginning of a comment there is a part up to the end. -/
theorem OnWay.comment_part (h : OnWay d p sql s) (hc : signAt? (bytes sql) s.next = some '/')
    (hfollowing : signAt? (bytes sql) (s.next + 1) = some '*') :
    IsPart sql (s.next + 2) (bytes sql).length := by
  cases h.under hc with
  | @ascii front passed rest hascii h hnext =>
    have hsql : sql.toList = (front ++ passed) ++ '/' :: rest := by rw [h.text, List.append_assoc]
    rw [following_eq hsql hascii hnext, signAt?_encoded_eq_some (by decide)] at hfollowing
    obtain ⟨rest', rfl⟩ := List.head?_eq_some_iff.1 hfollowing
    have hparts : sql.toList = (front ++ passed ++ ['/', '*']) ++ rest' := by
      rw [hsql, List.append_assoc _ ['/', '*']]
      rfl
    have hpart := isPart_of_slice? (slice?_to_end hparts)
    rwa [encoded_append, List.length_append, ← hnext] at hpart
  | other hother => exact absurd hother (by decide)

/-- Behind a colon the name is a part, and so is what stands between the last name and the colon. -/
theorem OnWay.name_parts (h : OnWay d p sql s) (hc : signAt? (bytes sql) s.next = some ':') :
    ∃ last, nameEnd (bytes sql) (s.next + 1) = .ok last ∧ IsPart sql (s.next + 1) last ∧
      IsPart sql s.copied s.next := by
  cases h.under hc with
  | ascii _ h hnext =>
    obtain ⟨last, hend, -, hname⟩ := h.name_part hnext
    exact ⟨last, hend, isPart_of_slice? (partOf_eq_ok.1 hname),
      isPart_of_slice? (partOf_eq_ok.1 (h.partOf_passed hnext))⟩
  | other hother => exact absurd hother (by decide)

/-- What is not written yet is a part. -/
theorem Standing.rest_part (h : Standing d p sql front passed rest s) :
    IsPart sql s.copied (bytes sql).length := by
  rw [h.copied]
  exact isPart_of_slice? (slice?_to_end h.text)

theorem Standing.copied_le (h : Standing d p sql front passed rest s) :
    s.copied ≤ (encoded (front ++ passed)).length := by
  rw [h.copied, encoded_append, List.length_append]
  exact Nat.le_add_right _ _

theorem OnWay.rest_part (h : OnWay d p sql s) :
    IsPart sql s.copied (bytes sql).length ∧ s.copied ≤ s.next := by
  cases h with
  | between h hnext => exact ⟨h.rest_part, hnext ▸ h.copied_le⟩
  | inside h _ _ hnext => exact ⟨h.rest_part, hnext ▸ Nat.le_add_right_of_le h.copied_le⟩

/-- Before a character of more than one byte, the next cursor is inside of it. -/
theorem exists_reached_inside {n : Nat} {back : List Char} (hs : Reached d p sql n s)
    (hsql : sql.toList = before ++ c :: back) (hnext : s.next = (encoded before).length)
    (hc : 1 < c.utf8Size) :
    ∃ s', Reached d p sql (n + 1) s' ∧ s'.next = s.next + 1 ∧ ¬IsPlace sql s'.next := by
  have hlt : ¬(bytes sql).length ≤ s.next := by
    rw [bytes_eq_encoded, hsql, encoded_append, encoded_cons, List.length_append,
      List.length_append, String.length_utf8EncodeChar, hnext]
    omega
  obtain ⟨sign, hsign⟩ := Option.ne_none_iff_exists'.1 fun hnone => hlt (signAt?_eq_none.1 hnone)
  have hother : 128 ≤ sign.toNat := le_of_signAt?_inside (k := 0) hsql (not_ascii_of_utf8Size hc)
    (Char.utf8Size_pos c) (hnext ▸ hsign)
  refine ⟨s.movedTo (s.next + 1), .round hs hsign (round_of_not_ascii hother), rfl, ?_⟩
  show ¬IsPlace sql (s.next + 1)
  rw [hnext]
  exact not_isPlace_inside hsql Nat.one_pos hc

/-! ## All rounds -/

/-- **From a cursor on its way, the rounds and the last copy come to what the statement is bound
to**, or to its refusal. -/
theorem OnWay.run_bind (h : OnWay d p sql s) :
    (run d p sql s).bind (finish sql) = (d.bind sql p).mapError .refused := by
  fun_induction run d p sql s with
  | case1 s hend =>
    obtain ⟨b, hfinish, hbind⟩ := h.at_end hend
    rw [hbind]
    exact hfinish
  | case2 s c hc e he =>
    rcases h.round hc with ⟨s', hs', -⟩ | ⟨name, -, hstop, hbind⟩
    · rw [he] at hs'
      cases hs'
    · rw [he] at hstop
      cases hstop
      rw [hbind]
      rfl
  | case3 s c hc s' hs' ih =>
    rcases h.round hc with ⟨s'', hs'', hway⟩ | ⟨name, -, hstop, -⟩
    · rw [hs'] at hs''
      cases hs''
      exact ih hway
    · rw [hs'] at hstop
      cases hstop

/-- What holds at a cursor that is passed after some rounds. -/
structure WellPlaced (d : Dialect) (p : Parameters) (sql : String) (n : Nat) (s : Cursor) :
    Prop where
  /-- The rounds from here on come to what all rounds come to. -/
  onwards : run d p sql .start = run d p sql s
  /-- There are no more rounds than bytes. -/
  rounds_le : n ≤ s.next
  next_le : s.next ≤ (bytes sql).length
  copied_le : s.copied ≤ s.next
  /-- What would be copied at the end is a part. -/
  rest_part : IsPart sql s.copied (bytes sql).length
  /-- The comment that begins here is a part. -/
  comment_part : signAt? (bytes sql) s.next = some '/' →
    signAt? (bytes sql) (s.next + 1) = some '*' → IsPart sql (s.next + 2) (bytes sql).length
  /-- The name that begins here is a part, and so is what is copied in front of it. -/
  name_parts : signAt? (bytes sql) s.next = some ':' →
    ∃ last, nameEnd (bytes sql) (s.next + 1) = .ok last ∧ IsPart sql (s.next + 1) last ∧
      IsPart sql s.copied s.next
  /-- The next round moves the cursor on, or stops at a name without a value. -/
  moves : ∀ c, signAt? (bytes sql) s.next = some c →
    (∃ s', s.round d p sql c = .ok s' ∧ s.next < s'.next ∧ s'.next ≤ (bytes sql).length) ∨
    ∃ name, p.get? name = none ∧
      s.round d p sql c = .error (.refused (.unboundParameter name))
  /-- Before a character of more than one byte, the next cursor is inside of it. -/
  inside : ∀ front c back, sql.toList = front ++ c :: back → s.next = (encoded front).length →
    1 < c.utf8Size →
    ∃ s', Reached d p sql (n + 1) s' ∧ s'.next = s.next + 1 ∧ ¬IsPlace sql s'.next

end Cursor

/-! ## Binding -/

/-- **A scanner of bytes reads whole characters.**  At every cursor that it passes, the next round
moves the cursor on, by one byte at least and not behind the end, or stops at a name without a
value; so it makes no more rounds than there are bytes.  Every part that a round or the last copy
asks for is there, between two places of the statement that are in order, although the cursor itself
goes through longer characters byte by byte and stands inside of them.  What it comes to is what
the statement is bound to character by character. -/
theorem Dialect.bind_bytewise (d : Dialect) (p : Parameters) (sql : String) :
    (∀ n s, Cursor.Reached d p sql n s → s.WellPlaced d p sql n) ∧
    d.bindBytewise sql p = (d.bind sql p).mapError .refused := by
  constructor
  · intro n s hs
    have hway : s.OnWay d p sql := Cursor.onWay_of_reached hs
    exact {
      onwards := Cursor.run_of_reached hs
      rounds_le := Cursor.le_next_of_reached hs
      next_le := Cursor.next_le_of_reached hs
      copied_le := hway.rest_part.2
      rest_part := hway.rest_part.1
      comment_part := hway.comment_part
      name_parts := hway.name_parts
      moves := fun c hc => (hway.round hc).imp
        (fun ⟨s', hs', _⟩ => ⟨s', hs', Cursor.lt_next_of_round hc hs'⟩)
        (fun ⟨name, hname, hstop, _⟩ => ⟨name, hname, hstop⟩)
      inside := fun front c back => Cursor.exists_reached_inside hs }
  · exact Cursor.onWay_start.run_bind

/-- A letter of two bytes before a comment with another one in it, and a name before a third. -/
theorem Dialect.bind_bytewise_umlauts :
    (∃ s, Cursor.Reached .sqlite (Keyed.empty.insert "n" (.text "ö")) "é/*ü*/ = :n\x27ß\x27" 1 s ∧
      s.next = 1 ∧ ¬IsPlace "é/*ü*/ = :n\x27ß\x27" s.next) ∧
    Dialect.sqlite.bindBytewise "é/*ü*/ = :n\x27ß\x27" (Keyed.empty.insert "n" (.text "ö"))
      = .ok ⟨"é/*ü*/ = ?1\x27ß\x27", [.text "ö"]⟩ := by
  obtain ⟨hplaced, hbind⟩ := Dialect.bind_bytewise .sqlite (Keyed.empty.insert "n" (.text "ö"))
    "é/*ü*/ = :n\x27ß\x27"
  refine ⟨(hplaced 0 .start .start).inside [] 'é' "/*ü*/ = :n\x27ß\x27".toList rfl rfl
    (by decide), ?_⟩
  rw [hbind]
  rfl

end TableQuery
