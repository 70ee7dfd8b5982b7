import TableQuery.Proofs.Statement.Tokens

/-!
# Bound statements

A bound statement is read once more when somebody binds it again, or when the database reads it.
Its placeholders are numbers, and nothing that was put in for a name is read as more than its
characters: every other token of the statement is a token of the bound statement, and there are no
names left.

* `Token.isPlain` — the characters that stand for themselves wherever they stand; `plain_spelled` says
  that only these are put in for a name;
* `Token.Follows`, `Token.first_again` — a token is read again before any text that begins like
  the one behind it;
* `tokens_boundText` — the tokens of a bound statement, by induction on those of the statement;
* `Dialect.bind_bound` — binding a bound statement changes nothing.
-/

namespace TableQuery

/-! ## Tokens that are read again -/

namespace Token

/-- A character that is a token of its own wherever it stands, and goes on with no other one but a
name. -/
def isPlain (c : Char) : Bool :=
  !Lexical.isQuote c && c != '-' && c != '/' && c != '*' && c != ':'

theorem isPlain_eq_true {c : Char} :
    isPlain c = true ↔ ¬Lexical.isQuote c = true ∧ c ≠ '-' ∧ c ≠ '/' ∧ c ≠ '*' ∧ c ≠ ':' := by
  simp only [isPlain, Bool.and_eq_true, Bool.not_eq_true', Bool.not_eq_true, bne_iff_ne, and_assoc]

theorem first_plain {c : Char} (h : isPlain c = true) (rest : List Char) :
    first c rest = (.other c, rest) := by
  obtain ⟨hquote, hdash, hslash, -, hcolon⟩ := isPlain_eq_true.1 h
  rw [first_eq, if_neg hquote, if_neg fun hc => hdash hc.1, if_neg fun hc => hslash hc.1,
    if_neg fun hc => hcolon hc.1, if_neg fun hc => hcolon hc.1]

/-- The text behind a token may be replaced by this one: it begins with the same character, or with
a plain one where a name began. -/
def Follows (rest other : List Char) : Prop :=
  other.head? = rest.head? ∨ rest.head? = some ':' ∧ ∃ c, other.head? = some c ∧ isPlain c = true

theorem Follows.eq_nil {other : List Char} (h : Follows [] other) : other = [] := by
  rcases h with h | ⟨h, -⟩
  · exact List.head?_eq_none_iff.1 h
  · cases h

/-- Behind a text that does not begin with a character, none that replaces it does, if the character
is not plain. -/
theorem Follows.head_ne {rest other : List Char} (h : Follows rest other) {c : Char}
    (hc : isPlain c = false) (hrest : rest.head? ≠ some c) : other.head? ≠ some c := by
  rcases h with h | ⟨-, c', h, hc'⟩
  · rwa [h]
  · rw [h]
    rintro ⟨⟩
    rw [hc] at hc'
    cases hc'

theorem through_again {word text other : List Char} (h : Follows (through word text).2 other) :
    through word ((through word text).1 ++ other) = ((through word text).1, other) := by
  cases hcut : Text.cutAround word text with
  | none =>
    have hall : through word text = (text, []) := by rw [through, hcut]
    rw [hall] at h ⊢
    rw [h.eq_nil, List.append_nil, hall]
  | some parts =>
    obtain ⟨before, rest⟩ := parts
    have hfound : through word text = (before ++ word, rest) := by rw [through, hcut]
    rw [hfound, through, Text.cutAround_append hcut]

/-- A run between quotes ends where no other quote follows. -/
theorem head_throughQuote (mark : Char) (text : List Char) :
    (throughQuote mark text).2.head? ≠ some mark := by
  fun_induction throughQuote mark text with
  | case1 | case2 =>
    intro h
    cases h
  | case3 rest ih => exact ih
  | case4 c' rest hc => exact fun h => hc (Option.some.inj h)
  | case5 c rest hc ih => exact ih

theorem throughQuote_again {mark : Char} {text other : List Char}
    (h : Follows (throughQuote mark text).2 other) (hother : other.head? ≠ some mark) :
    throughQuote mark ((throughQuote mark text).1 ++ other)
      = ((throughQuote mark text).1, other) := by
  fun_induction throughQuote mark text with
  | case1 =>
    rw [h.eq_nil]
    rfl
  | case2 =>
    rw [h.eq_nil]
    exact if_pos rfl
  | case3 rest ih =>
    rw [List.cons_append, List.cons_append, throughQuote]
    simp only [if_true, ih h]
  | case4 c' rest hc =>
    rw [List.singleton_append]
    cases other with
    | nil => exact if_pos rfl
    | cons c other =>
      have hne : c ≠ mark := fun heq => hother (congrArg some heq)
      rw [throughQuote, if_pos rfl, if_neg hne]
  | case5 c rest hc ih =>
    have hstep : ∀ text, throughQuote mark (c :: text)
        = (c :: (throughQuote mark text).1, (throughQuote mark text).2) := by
      intro text
      rw [throughQuote.eq_def]
      exact if_neg hc
    rw [List.cons_append, hstep, ih h]

/-- **A token is read again**, unless it is a name, before any text that may follow it. -/
theorem first_again {c : Char} {rest other : List Char} (hname : (first c rest).1.name? = none)
    (hother : Follows (first c rest).2 other) :
    ∃ tail, (first c rest).1.text = c :: tail ∧
      first c (tail ++ other) = ((first c rest).1, other) := by
  generalize hfirst : first c rest = found at hname hother ⊢
  rw [first_eq] at hfirst
  split_ifs at hfirst with hquote hline hblock hcast hnamed
  · obtain rfl := hfirst
    have hmark : isPlain c = false := by rw [isPlain, hquote]; rfl
    have hagain := throughQuote_again hother (hother.head_ne hmark (head_throughQuote c rest))
    exact ⟨_, rfl, by rw [first_eq, if_pos hquote, hagain]⟩
  · obtain rfl := hfirst
    obtain ⟨rfl, hhead⟩ := hline
    obtain ⟨rest', rfl⟩ := List.head?_eq_some_iff.1 hhead
    refine ⟨_, rfl, ?_⟩
    rw [List.tail_cons] at hother ⊢
    rw [List.cons_append, first_eq, if_neg (by decide), if_pos ⟨rfl, rfl⟩, List.tail_cons,
      through_again hother]
  · obtain rfl := hfirst
    obtain ⟨rfl, hhead⟩ := hblock
    obtain ⟨rest', rfl⟩ := List.head?_eq_some_iff.1 hhead
    refine ⟨_, rfl, ?_⟩
    rw [List.tail_cons] at hother ⊢
    rw [List.cons_append, first_eq, if_neg (by decide), if_neg fun hc => absurd hc.1 (by decide),
      if_pos ⟨rfl, rfl⟩, List.tail_cons, through_again hother]
  · obtain rfl := hfirst
    obtain ⟨rfl, -⟩ := hcast
    exact ⟨[':'], rfl, rfl⟩
  · obtain rfl := hfirst
    cases hname
  · obtain rfl := hfirst
    refine ⟨[], rfl, ?_⟩
    rw [List.nil_append, first_eq, if_neg hquote,
      if_neg fun hc => hother.head_ne rfl (fun hr => hline ⟨hc.1, hr⟩) hc.2,
      if_neg fun hc => hother.head_ne rfl (fun hr => hblock ⟨hc.1, hr⟩) hc.2,
      if_neg fun hc => hother.head_ne rfl (fun hr => hcast ⟨hc.1, hr⟩) hc.2, if_neg]
    rintro ⟨hc, hstart⟩
    -- no name began behind a single colon, so the other text begins as the first one did
    rcases hother with heq | ⟨hr, -⟩
    · rw [heq] at hstart
      exact hnamed ⟨hc, hstart⟩
    · exact hcast ⟨hc, hr⟩

end Token

/-! ## The tokens of a bound statement -/

section

variable (d : Dialect) (p : Parameters)

/-- The tokens of a token as it is written after `bound` placeholders: the characters that are put
in for a name, or the token itself. -/
def Token.rewritten (bound : Nat) : Token → List Token
  | .named name => ((Token.named name).written d p bound).toList.map .other
  | t => [t]

/-- The tokens of a statement after `bound` placeholders, as they are written. -/
def rewrittenTokens : Nat → List Token → List Token
  | _, [] => []
  | bound, t :: ts => t.rewritten d p bound ++ rewrittenTokens (bound + (t.operands p).length) ts

theorem Token.isPlain_of_isDigit {c : Char} (h : c.isDigit = true) : isPlain c = true := by
  have hne : ∀ e : Char, e.isDigit = false → c ≠ e := by
    rintro e he rfl
    rw [h] at he
    cases he
  rw [isPlain_eq_true, Lexical.isQuote, Bool.or_eq_true, beq_iff_eq, beq_iff_eq, not_or]
  exact ⟨⟨hne _ rfl, hne _ rfl⟩, hne _ rfl, hne _ rfl, hne _ rfl, hne _ rfl⟩

theorem plain_numbered (n : Nat) : ∀ c ∈ (d.numbered n).toList, Token.isPlain c = true := by
  rw [Dialect.numbered, String.toList_ofList, List.forall_mem_cons]
  refine ⟨by cases d <;> rfl, fun c hc => ?_⟩
  exact Token.isPlain_of_isDigit (Nat.isDigit_of_mem_toDigits (by decide) (by decide) hc)

/-- Only plain characters stand in the place of placeholders. -/
theorem plain_spelled (numbers : List Nat) :
    ∀ c ∈ (d.spelled numbers).toList, Token.isPlain c = true := by
  fun_induction Dialect.spelled d numbers with
  | case1 => exact List.all_eq_true.1 rfl
  | case2 n => exact plain_numbered d n
  | case3 n m rest ih =>
    rw [String.toList_append, String.toList_append, List.forall_mem_append, List.forall_mem_append]
    exact ⟨⟨plain_numbered d n, List.all_eq_true.1 rfl⟩, ih⟩

/-- At least one character stands there. -/
theorem spelled_ne_nil (numbers : List Nat) : (d.spelled numbers).toList ≠ [] := by
  cases numbers with
  | nil =>
    rw [Dialect.spelled]
    decide
  | cons n rest =>
    cases rest with
    | nil => simp [Dialect.spelled, Dialect.numbered]
    | cons m rest => simp [Dialect.spelled]

theorem Token.eq_named_or (t : Token) : (∃ name, t = .named name) ∨ t.name? = none := by
  cases t with
  | named name => exact .inl ⟨name, rfl⟩
  | _ => exact .inr rfl

theorem Token.written_of_not_named {t : Token} (h : t.name? = none) (bound : Nat) :
    t.written d p bound = String.ofList t.text := by
  rw [written, h]

theorem Token.rewritten_of_not_named {t : Token} (h : t.name? = none) (bound : Nat) :
    t.rewritten d p bound = [t] := by
  cases t with
  | named name => cases h
  | _ => rfl

/-- A name is written as the placeholders of its numbers. -/
theorem Token.written_named_eq (bound : Nat) (name : List Char) :
    (Token.named name).written d p bound = d.spelled ((Token.named name).numbers p bound) := rfl

theorem tokens_plain_append {xs : List Char} (h : ∀ c ∈ xs, Token.isPlain c = true)
    (ys : List Char) : tokens (xs ++ ys) = xs.map .other ++ tokens ys := by
  induction xs with
  | nil => rfl
  | cons c xs ih =>
    rw [List.forall_mem_cons] at h
    rw [List.cons_append, tokens, Token.first_plain h.1, ih h.2]
    rfl

/-- A bound text begins as the text does, or with a placeholder where the text begins with a
name. -/
theorem follows_boundText (bound : Nat) (text : List Char) :
    Token.Follows text (boundText d p bound (tokens text)).toList := by
  cases text with
  | nil =>
    rw [tokens]
    exact .inl rfl
  | cons c rest =>
    have htext := Token.first_append c rest
    rw [tokens, boundText, String.toList_append]
    rcases (Token.first c rest).1.eq_named_or with ⟨name, hnamed⟩ | hname
    · rw [hnamed] at htext ⊢
      obtain ⟨rfl, -⟩ := List.cons.inj htext
      rw [Token.written_named_eq]
      obtain ⟨c', cs, hspelled⟩ := List.exists_cons_of_ne_nil
        (spelled_ne_nil d ((Token.named name).numbers p bound))
      have hplain := plain_spelled d ((Token.named name).numbers p bound)
      rw [hspelled] at hplain ⊢
      exact .inr ⟨rfl, c', rfl, hplain c' List.mem_cons_self⟩
    · obtain ⟨c', cs, hcs⟩ := List.exists_cons_of_ne_nil (Token.text_ne_nil_of_first c rest)
      rw [Token.written_of_not_named d p hname, String.toList_ofList, hcs]
      rw [hcs] at htext
      exact .inl (congrArg some (List.cons.inj htext).1)

/-- **The tokens of a bound statement**, by induction on those of the statement: what is put in for
a name is read character by character, and every other token is read again. -/
theorem tokens_boundText (bound : Nat) (text : List Char) :
    tokens (boundText d p bound (tokens text)).toList
      = rewrittenTokens d p bound (tokens text) := by
  fun_induction tokens text generalizing bound with
  | case1 =>
    rw [boundText, rewrittenTokens]
    exact tokens.eq_1
  | case2 c rest ih =>
    rw [boundText, rewrittenTokens, String.toList_append]
    rcases (Token.first c rest).1.eq_named_or with ⟨name, hnamed⟩ | hname
    · rw [hnamed, Token.written_named_eq, tokens_plain_append (plain_spelled d _), ih,
        Token.rewritten, Token.written_named_eq]
    · obtain ⟨tail, htext, hagain⟩ := Token.first_again hname (follows_boundText d p
        (bound + ((Token.first c rest).1.operands p).length) (Token.first c rest).2)
      rw [Token.written_of_not_named d p hname, String.toList_ofList, htext, List.cons_append,
        tokens, hagain, ih, Token.rewritten_of_not_named d p hname]
      rfl

/-- What is put in for a name has no names, and no other token has one. -/
theorem name?_of_mem_rewrittenTokens {bound : Nat} {ts : List Token} {t : Token}
    (h : t ∈ rewrittenTokens d p bound ts) : t.name? = none := by
  induction ts generalizing bound with
  | nil => cases h
  | cons s ts ih =>
    rw [rewrittenTokens, List.mem_append] at h
    rcases h with h | h
    · rcases s.eq_named_or with ⟨name, rfl⟩ | hname
      · obtain ⟨c, -, rfl⟩ := List.mem_map.1 h
        rfl
      · rw [Token.rewritten_of_not_named d p hname, List.mem_singleton] at h
        rw [h, hname]
    · exact ih h

/-- A text without names is bound to no value, and stays as it is. -/
theorem bind_of_not_named {sql : String} (h : ∀ t ∈ tokens sql.toList, t.name? = none) :
    d.bind sql p = .ok ⟨sql, []⟩ := by
  have hpieces : ∀ t ∈ tokens sql.toList, t.pieces = t.text.map .char := by
    intro t ht
    cases t with
    | named name => cases h _ ht
    | _ => rfl
  have hscan : Lexical.scan .code sql.toList = sql.toList.map .char := calc
    Lexical.scan .code sql.toList
      = (tokens sql.toList).flatMap Token.pieces := Lexical.scan_eq_tokens _
    _ = (tokens sql.toList).flatMap fun t => t.text.map .char := List.flatMap_congr hpieces
    _ = sql.toList.map .char := by rw [← List.map_flatMap, tokens_text]
  rw [d.bind_eq_map, hscan, d.fill_chars, Except.map, String.ofList_toList]

end

/-- **Binding removes every name.**  The tokens of a bound statement are those of the statement,
with the characters of placeholders in place of its names: nothing that is put in makes a name, a
cast, a comment or a literal with what stands around it, and none that was there begins or ends
elsewhere.  So there is no name left, and binding the bound statement again, from any parameters and
in any dialect, changes nothing and binds no value. -/
theorem Dialect.bind_bound {d : Dialect} {p : Parameters} {sql : String} {b : BoundStatement}
    (h : d.bind sql p = .ok b) :
    tokens b.sql.toList = rewrittenTokens d p 0 (tokens sql.toList) ∧
    (∀ t ∈ tokens b.sql.toList, t.name? = none) ∧
    ∀ (d' : Dialect) (q : Parameters), d'.bind b.sql q = .ok ⟨b.sql, []⟩ := by
  have htokens : tokens b.sql.toList = rewrittenTokens d p 0 (tokens sql.toList) := by
    rw [d.eq_tokens_of_bind p h]
    exact tokens_boundText d p 0 sql.toList
  have hnames : ∀ t ∈ tokens b.sql.toList, t.name? = none := by
    rw [htokens]
    exact fun t => name?_of_mem_rewrittenTokens d p
  exact ⟨htokens, hnames, fun d' q => bind_of_not_named d' q hnames⟩

set_option maxRecDepth 2000 in
/-- Names between colons, dashes, slashes and quotes, a list without items, and a comment that is
left open. -/
theorem Dialect.bind_bound_odd_neighbours :
    ∃ (p : Parameters) (b : BoundStatement),
      Dialect.sqlite.bind
          "::a:::a-:ids/:none:a::int\x27é:a\x27\x27:a\x27:a\x22:a\x22--:a\n/*:a*/:none é/*:a" p
        = .ok b ∧
      b.sql = "::a::?1-?2, ?3/NULL?4::int\x27é:a\x27\x27:a\x27?5\x22:a\x22--:a\n/*:a*/NULL é/*:a" ∧
      Dialect.postgres.bind b.sql p = .ok ⟨b.sql, []⟩ := by
  have h : Dialect.sqlite.bind
      "::a:::a-:ids/:none:a::int\x27é:a\x27\x27:a\x27:a\x22:a\x22--:a\n/*:a*/:none é/*:a"
      (((Keyed.empty.insert "a" (.text ":a")).insert "ids" (.list [.null, .text "--"])).insert
        "none" (.list [])) = .ok _ := rfl
  exact ⟨_, _, h, rfl, (Dialect.bind_bound h).2.2 .postgres _⟩

end TableQuery
