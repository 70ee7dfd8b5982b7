import TableQuery.Proofs.Statement.Cursor
import TableQuery.Proofs.Statement.Tokens

/-!
# Rounds over bytes and tokens

What begins with an ASCII character at a place of a statement ends for a scanner of bytes where it
ends for one of characters: at a byte that is a quote, a line break or no character of a name, or
at a part of the text.  So a round that begins at such a character passes over the token there.

* `quoteEnd_eq`, `lineEnd_eq`, `commentEnd_eq`, `nameEnd_eq` — ends by bytes and by characters;
* `Cursor.round_eq` — a round at an ASCII character;
* `Cursor.round_of_not_ascii` — a round at any other byte.
-/

namespace TableQuery

open Text

/-! ## Ends of tokens -/

theorem asciiOnly_isPart : AsciiOnly Identifier.isPart := by
  intro c hc
  rw [Identifier.isPart, Bool.or_eq_true, beq_iff_eq] at hc
  delta Char.isAlphanum Char.isAlpha Char.isUpper Char.isLower Char.isDigit at hc
  simp only [Bool.or_eq_true, Bool.and_eq_true, decide_eq_true_eq, ge_iff_le,
    UInt32.le_iff_toNat_le] at hc
  show c.val.toNat < 128
  rcases hc with ((h | h) | h) | rfl
  · exact Nat.lt_of_le_of_lt h.2 (by decide)
  · exact Nat.lt_of_le_of_lt h.2 (by decide)
  · exact Nat.lt_of_le_of_lt h.2 (by decide)
  · decide

theorem asciiOnly_isStart : AsciiOnly Identifier.isStart := fun c hc =>
  asciiOnly_isPart c (Identifier.isPart_of_isStart hc)

theorem asciiOnly_isQuote : AsciiOnly Lexical.isQuote := by
  intro c hc
  rw [Lexical.isQuote, Bool.or_eq_true, beq_iff_eq, beq_iff_eq] at hc
  rcases hc with rfl | rfl <;> decide

section

variable {front : List UInt8} {mark c : Char}

theorem bytesFrom_append (front back : List UInt8) :
    bytesFrom (front ++ back) front.length = .ok back :=
  bytesFrom_eq_ok.2 ⟨by simp, by simp⟩

/-- Bytes that are not the quote are passed over one by one. -/
theorem quoteEnd_skip {passed : List UInt8} (h : ∀ b ∈ passed, Char.ofUInt8 b ≠ mark)
    (front back : List UInt8) :
    quoteEnd (front ++ (passed ++ back)) mark front.length
      = quoteEnd (front ++ passed ++ back) mark (front ++ passed).length := by
  induction passed generalizing front with
  | nil => rw [List.append_nil, List.nil_append]
  | cons b passed ih =>
    obtain ⟨hb, hpassed⟩ := List.forall_mem_cons.1 h
    have hsign : signAt? (front ++ (b :: passed ++ back)) front.length = some (Char.ofUInt8 b) :=
      signAt?_append_cons front (passed ++ back) b
    have hnext := ih hpassed (front ++ [b])
    rw [List.length_append, List.length_singleton, List.append_assoc, List.singleton_append,
      List.append_assoc front, List.singleton_append] at hnext
    rw [quoteEnd_of_sign hsign, if_neg hb]
    exact hnext

/-- **A quoted run ends for bytes where it ends for characters.** -/
theorem quoteEnd_eq (hmark : mark.toNat < 128) (front : List UInt8) (cs : List Char) :
    quoteEnd (front ++ encoded cs) mark front.length
      = front.length + (encoded (Token.throughQuote mark cs).1).length := by
  have hsign (front back : List UInt8) {b : UInt8} (hb : Char.ofUInt8 b = mark) :
      signAt? (front ++ b :: back) front.length = some mark := by
    rw [← hb, signAt?_append_cons]
  have hfollowing (front : List UInt8) (b : UInt8) (cs : List Char) :
      signAt? (front ++ b :: encoded cs) (front.length + 1) = some mark ↔ cs.head? = some mark := by
    rw [signAt?_append front _ 1, ← signAt?_encoded_eq_some hmark]
    rfl
  fun_induction Token.throughQuote mark cs generalizing front with
  | case1 =>
    have hend : signAt? (front ++ encoded []) front.length = none :=
      signAt?_append front (encoded []) 0
    rw [quoteEnd_of_end hend, List.length_append]
  | case2 =>
    obtain ⟨b, hb, hbytes⟩ := encoded_cons_of_ascii hmark []
    rw [hbytes, quoteEnd_of_sign (hsign front _ hb), if_pos rfl, if_neg (by rw [hfollowing]; simp)]
    rfl
  | case3 rest ih =>
    obtain ⟨b, hb, hbytes⟩ := encoded_cons_of_ascii hmark (mark :: rest)
    obtain ⟨b', hb', hbytes'⟩ := encoded_cons_of_ascii hmark rest
    have hnext := ih (front ++ [b, b'])
    rw [List.append_assoc, List.length_append] at hnext
    rw [hbytes, quoteEnd_of_sign (hsign front _ hb), if_pos rfl,
      if_pos ((hfollowing front b _).2 rfl), hbytes']
    refine hnext.trans ?_
    rw [length_encoded_cons_of_ascii hmark, length_encoded_cons_of_ascii hmark, List.length_cons,
      List.length_singleton]
    omega
  | case4 c' rest h =>
    obtain ⟨b, hb, hbytes⟩ := encoded_cons_of_ascii hmark (c' :: rest)
    have hother : ¬(c' :: rest).head? = some mark := fun hc => h (Option.some.inj hc)
    rw [hbytes, quoteEnd_of_sign (hsign front _ hb), if_pos rfl,
      if_neg fun hc => hother ((hfollowing front b _).1 hc), length_encoded_cons_of_ascii hmark]
    rfl
  | case5 c rest h ih =>
    have hpassed : ∀ b ∈ String.utf8EncodeChar c, Char.ofUInt8 b ≠ mark := by
      intro b hb hmark'
      have hclass := sign_of_mem (asciiOnly_beq hmark) hb
      rw [hmark', beq_self_eq_true, eq_comm, beq_iff_eq] at hclass
      exact h hclass
    rw [encoded_cons, quoteEnd_skip hpassed, ih, encoded_cons, List.length_append,
      List.length_append, Nat.add_assoc]

/-- **A comment to the end of the line ends for bytes where it ends for characters.** -/
theorem lineEnd_eq (front : List UInt8) (cs : List Char) :
    lineEnd (front ++ encoded cs) front.length
      = .ok (front.length + (encoded (Token.through ['\n'] cs).1).length) := by
  have hsign (c : Char) (b : UInt8) (hb : b ∈ String.utf8EncodeChar c) :
      (Char.ofUInt8 b == '\n') = (c == '\n') :=
    sign_of_mem (asciiOnly_beq (by decide)) hb
  rw [lineEnd, bytesFrom_append, Except.map, List.length_append, findIdx?_encoded hsign,
    Token.through, cutAround_singleton]
  cases cs.findIdx? (· == '\n') with
  | none => rfl
  | some n =>
    rw [Option.map_some, Option.map_some, Option.elim_some, encoded_append, List.length_append,
      Nat.add_assoc]
    rfl

/-- **A name ends for bytes where it ends for characters.** -/
theorem nameEnd_eq (front : List UInt8) (cs : List Char) :
    nameEnd (front ++ encoded cs) front.length
      = .ok (front.length + (encoded (cs.takeWhile Identifier.isPart)).length) := by
  have hother (c : Char) (b : UInt8) (hb : b ∈ String.utf8EncodeChar c) :
      (!Identifier.isPart (Char.ofUInt8 b)) = !Identifier.isPart c := by
    rw [sign_of_mem asciiOnly_isPart hb]
  rw [nameEnd, bytesFrom_append, Except.map, List.length_append, findIdx?_encoded hother,
    List.takeWhile_eq_take_findIdx_not]
  cases hfind : cs.findIdx? fun c => !Identifier.isPart c with
  | none =>
    rw [List.findIdx?_eq_none_iff_findIdx_eq.1 hfind, List.take_length]
    rfl
  | some n =>
    rw [(List.findIdx?_eq_some_iff_findIdx_eq.1 hfind).2]
    rfl

/-- **A comment between its marks ends for bytes where it ends for characters.** -/
theorem commentEnd_eq {sql : String} {front rest : List Char} (hsql : sql.toList = front ++ rest) :
    commentEnd sql (encoded front).length
      = .ok ((encoded front).length + (encoded (Token.through ['*', '/'] rest).1).length) := by
  have hslice :
      partOf sql (encoded front).length (bytes sql).length = .ok (String.ofList rest) :=
    partOf_eq_ok.2 (slice?_to_end hsql)
  rw [commentEnd, hslice, Except.map, String.toList_ofList, Token.through]
  cases hcut : cutAround ['*', '/'] rest with
  | none =>
    rw [Option.elim_none, bytes_eq_encoded, hsql, encoded_append, List.length_append]
  | some cut =>
    rw [Option.elim_some, encoded_append, List.length_append, Nat.add_assoc]
    rfl

end

/-! ## One round -/

namespace Cursor

variable {d : Dialect} {p : Parameters} {sql : String} {s : Cursor}
  {before rest : List Char} {c : Char}

/-- The byte behind an ASCII character is the first one of what follows. -/
theorem following_eq (hsql : sql.toList = before ++ c :: rest) (hc : c.toNat < 128)
    (hnext : s.next = (encoded before).length) :
    signAt? (bytes sql) (s.next + 1) = signAt? (encoded rest) 0 := by
  rw [bytes_eq_encoded, hsql, ← List.singleton_append, ← List.append_assoc, encoded_append, hnext,
    ← length_encoded_concat hc before]
  exact signAt?_append _ _ 0

/-- A line break is looked for behind any other character. -/
theorem through_newline_cons (hc : '\n' ≠ c) (cs : List Char) :
    (Token.through ['\n'] (c :: cs)).1 = c :: (Token.through ['\n'] cs).1 := by
  have hafter : after? ['\n'] (c :: cs) = none := if_neg hc
  rw [Token.through, Token.through, cutAround, hafter]
  cases cutAround ['\n'] cs <;> rfl

/-- **At an ASCII character a round passes over the token that begins there**, unless that is a
name. -/
theorem round_eq (hsql : sql.toList = before ++ c :: rest) (hc : c.toNat < 128)
    (hnext : s.next = (encoded before).length) :
    s.round d p sql c
      = match (Token.first c rest).1.name? with
        | some _ => s.replaceName d p sql
        | none => .ok (s.movedTo (s.next + (encoded (Token.first c rest).1.text).length)) := by
  rw [round, following_eq hsql hc hnext]
  simp only [signAt?_encoded_eq_some (show ('-').toNat < 128 by decide),
    signAt?_encoded_eq_some (show ('*').toNat < 128 by decide),
    signAt?_encoded_eq_some (show (':').toNat < 128 by decide),
    any_signAt?_encoded asciiOnly_isStart]
  rw [Token.first_eq]
  split_ifs with hquote hline hblock hcast hname
  · have hbytes : bytes sql = encoded (before ++ [c]) ++ encoded rest := by
      rw [bytes_eq_encoded, hsql, ← encoded_append, List.append_assoc, List.singleton_append]
    show Except.ok (s.movedTo _) = Except.ok (s.movedTo _)
    rw [hbytes, hnext, ← length_encoded_concat hc before, quoteEnd_eq hc, Token.text,
      length_encoded_cons_of_ascii hc, length_encoded_concat hc before, Nat.add_right_comm]
    rfl
  · obtain ⟨rest', rfl⟩ := List.head?_eq_some_iff.1 hline.2
    obtain rfl := hline.1
    have hend := lineEnd_eq (encoded before) ('-' :: '-' :: rest')
    rw [through_newline_cons (by decide), through_newline_cons (by decide)] at hend
    rw [bytes_eq_encoded, hsql, encoded_append, hnext, hend]
    rfl
  · obtain ⟨rest', rfl⟩ := List.head?_eq_some_iff.1 hblock.2
    obtain rfl := hblock.1
    have hsql' : sql.toList = (before ++ ['/', '*']) ++ rest' := by
      rw [hsql, List.append_assoc]
      rfl
    have hstart : (encoded (before ++ ['/', '*'])).length = s.next + 2 := by
      rw [encoded_append, List.length_append, hnext]
      rfl
    have hend := commentEnd_eq hsql'
    rw [hstart] at hend
    rw [hend, Token.text, length_encoded_cons_of_ascii hc,
      length_encoded_cons_of_ascii (by decide)]
    show Except.ok (s.movedTo _) = Except.ok (s.movedTo _)
    rw [List.tail_cons, Nat.add_right_comm, Nat.add_assoc]
  · rfl
  · rfl
  · rw [Token.text, length_encoded_cons_of_ascii hc]
    rfl

/-- A character that is no ASCII character begins no token of its own. -/
theorem not_special_of_not_ascii (hc : 128 ≤ c.toNat) :
    ¬Lexical.isQuote c = true ∧ c ≠ '-' ∧ c ≠ '/' ∧ c ≠ ':' := by
  have hne {w : Char} (hw : w.toNat < 128) : c ≠ w := by
    rintro rfl
    omega
  exact ⟨fun h => Nat.not_lt.2 hc (asciiOnly_isQuote c h), hne (by decide), hne (by decide),
    hne (by decide)⟩

/-- At a byte of any other character a round moves on by one byte. -/
theorem round_of_not_ascii (hc : 128 ≤ c.toNat) :
    s.round d p sql c = .ok (s.movedTo (s.next + 1)) := by
  obtain ⟨hquote, hdash, hslash, hcolon⟩ := not_special_of_not_ascii hc
  simp only [round, if_neg hquote, hdash, hslash, hcolon, false_and, if_false]

theorem scan_of_not_ascii (hc : 128 ≤ c.toNat) (rest : List Char) :
    Lexical.scan .code (c :: rest) = .char c :: Lexical.scan .code rest := by
  obtain ⟨hquote, hdash, hslash, hcolon⟩ := not_special_of_not_ascii hc
  exact Lexical.scan_other hquote (fun h => hdash h.1) (fun h => hslash h.1) (fun h => hcolon h.1)
    (fun h => hcolon h.1)

end Cursor

end TableQuery
