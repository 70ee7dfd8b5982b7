import Mathlib.Data.List.TakeWhile
import TableQuery.Database.Reader
import TableQuery.Proofs.Database.Pattern
import TableQuery.Proofs.Operators

/-!
# Looking for a text inside another

The operator for texts inside others puts its value between percent signs and leaves the match to
the database.  The value is bound as it is, so its own percent signs and underscores are special
too: the operator looks for texts of the form of the value, and just for the value itself where it
has none of them.

* `Token.scan_identifier`, `readOperand_column` — a column at the start of a condition;
* `containsCondition`, `conditionOf_contains` — what the database reads;
* `holds_containsCondition` — what it compares;
* `Operator.contains_finds` — which texts are found.
-/

namespace TableQuery

namespace Database

open Text Lexical

/-! ## Columns at the start of a condition -/

/-- The words that have a meaning of their own where a value is read. -/
def meaningfulWords : List String := reservedWords ++ callWords ++ momentWords

/-- A name that the database reads as the name of a column, and as nothing else. -/
def isColumnWord (name : String) : Bool :=
  isIdentifier name && !meaningfulWords.contains (lower name)

namespace Token

/-- A token before the rest of a text is what stands there. -/
theorem upTo_append (kind : TokenKind) (front rest : List Char) :
    upTo kind (front ++ rest) rest = (⟨kind, String.ofList front⟩, rest) := by
  rw [upTo, List.length_append, Nat.add_sub_cancel, List.take_left]

theorem toNat_of_isStart {c : Char} (h : Identifier.isStart c = true) :
    65 ≤ c.toNat ∧ c.toNat ≤ 122 := by
  delta Identifier.isStart Char.isAlpha Char.isUpper Char.isLower at h
  simp only [Bool.or_eq_true, Bool.and_eq_true, decide_eq_true_eq, beq_iff_eq, ge_iff_le,
    UInt32.le_iff_toNat_le] at h
  rcases h with (⟨h, h'⟩ | ⟨h, h'⟩) | rfl
  · exact ⟨h, Nat.le_trans h' (by decide)⟩
  · exact ⟨Nat.le_trans (by decide) h, h'⟩
  · decide

/-- An identifier stands at once at the start of a text that starts with it. -/
theorem skipBlanks_of_isStart {c : Char} (h : Identifier.isStart c = true) (fuel : Nat)
    (rest : List Char) : skipBlanks (fuel + 1) (c :: rest) = c :: rest := by
  obtain ⟨hle, hge⟩ := toNat_of_isStart h
  have hblank : startsBlanks c = false := by
    have hspace : c ≠ ' ' := by rintro rfl; exact absurd hle (by decide)
    have hmark : c ≠ '\ufeff' := by rintro rfl; exact absurd hge (by decide)
    simp only [startsBlanks, Database.isBlank, Bool.or_eq_false_iff, Bool.and_eq_false_iff,
      beq_eq_false_iff_ne, decide_eq_false_iff_not]
    exact ⟨.inl ⟨hspace, .inr (by omega)⟩, hmark⟩
  rw [skipBlanks, hblank]
  · rfl
  · rintro _ rfl
    exact absurd h (by decide)
  · rintro _ rfl
    exact absurd h (by decide)

/-- **An identifier before a blank is a word.** -/
theorem first_identifier {name : List Char} (h : isIdentifierText name = true) (rest : List Char) :
    first (name ++ ' ' :: rest) = (⟨.word, String.ofList name⟩, ' ' :: rest) := by
  have hword : ∀ c ∈ name, isWordChar c = true := fun c hc => by
    rw [isWordChar, isPart_of_identifierText h c hc]
    rfl
  cases name with
  | nil => cases h
  | cons c name =>
    have hstart : Identifier.isStart c = true := (Bool.and_eq_true_iff.1 h).1
    have hne : ∀ d, Identifier.isStart d = false → c ≠ d := by
      rintro d hd rfl
      rw [hstart] at hd
      cases hd
    have hdigit : c.isDigit = false := by
      have hle : 65 ≤ c.val.toNat := (toNat_of_isStart hstart).1
      simp only [Char.isDigit, ge_iff_le, UInt32.le_iff_toNat_le, Bool.and_eq_false_iff,
        decide_eq_false_iff_not]
      exact .inr fun hge => absurd (Nat.le_trans hle hge) (by decide)
    -- the second character may start a quoted run, but not behind a name
    have hnext : (c :: name ++ ' ' :: rest)[1]? ≠ some '\x27' := by
      cases name with
      | nil => simp
      | cons d name =>
        have hd := isPart_of_identifierText h d (List.mem_cons_of_mem _ List.mem_cons_self)
        simp only [List.cons_append, List.getElem?_cons_succ, List.getElem?_cons_zero, ne_eq,
          Option.some.injEq]
        rintro rfl
        exact absurd hd (by decide)
    have hrest : (c :: name ++ ' ' :: rest).dropWhile isWordChar = ' ' :: rest :=
      List.dropWhile_append_of_pos hword
    simp only [first, List.cons_append, List.head?_cons, hne '\x27' rfl, hne '\x22' rfl,
      hne '\x60' rfl, hne '?' rfl, hne '.' rfl, hne '$' rfl, hdigit, or_self, false_and,
      Bool.false_eq_true, if_false, hword c List.mem_cons_self, ne_eq, not_false_eq_true, and_self,
      if_true]
    rw [← List.cons_append, if_neg (fun hquoted => hnext hquoted.2), hrest, upTo_append]

theorem scan_identifier {name : List Char} (h : isIdentifierText name = true) (fuel : Nat)
    (rest : List Char) :
    scan (fuel + 1) (name ++ ' ' :: rest)
      = ⟨.word, String.ofList name⟩ :: scan fuel (' ' :: rest) := by
  have hskip : skipBlanks ((name ++ ' ' :: rest).length + 1) (name ++ ' ' :: rest)
      = name ++ ' ' :: rest := by
    cases name with
    | nil => cases h
    | cons c name => exact skipBlanks_of_isStart (Bool.and_eq_true_iff.1 h).1 _ _
  have hfirst := first_identifier h rest
  rw [scan, hskip]
  cases name with
  | nil => cases h
  | cons c name =>
    rw [List.cons_append] at hfirst ⊢
    simp only [hfirst]

end Token

theorem run_skipIf_bind {α : Type} {test : Token → Bool} {t : Token} (h : test t = false)
    (rest : List Token) (next : Bool → Reading α) :
    (skipIf test >>= next).run (t :: rest) = (next false).run (t :: rest) := by
  have hskip : (skipIf test).run (t :: rest)
      = (if test t then (do skip; return true : Reading Bool) else return false).run (t :: rest) :=
    rfl
  rw [StateT.run_bind, hskip, h]
  rfl

theorem run_readToken {α : Type} {make : Token → Option α} {t : Token} {a : α}
    (h : make t = some a) (rest : List Token) :
    (readToken make).run (t :: rest) = .ok (a, rest) := by
  have hmake : (t :: rest).head?.bind make = some a := h
  have hget : (get : Reading (List Token)).run (t :: rest) = .ok (t :: rest, t :: rest) := rfl
  rw [readToken, StateT.run_bind, hget]
  simp only [bind, Except.bind, hmake]
  rfl

theorem isWord_eq_false {name : String} (h : isColumnWord name = true) {word : String}
    (hword : word ∈ meaningfulWords) : Token.isWord word ⟨.word, name⟩ = false := by
  have hname : lower name ∉ meaningfulWords := by
    simpa using (Bool.and_eq_true_iff.1 h).2
  have hletters : ∀ w ∈ meaningfulWords, w.toList.map Char.toLower = w.toList := by
    decide +kernel
  have hlower : lower word = word := by
    rw [lower, hletters word hword, String.ofList_toList]
  have hne : lower name ≠ word := fun heq => hname (heq ▸ hword)
  rw [Token.isWord, sameLetters, hlower, beq_eq_false_iff_ne.2 hne, Bool.and_false]

/-- The name of a column is no word with a meaning of its own, so it is an operand. -/
theorem operand?_column {name : String} (h : isColumnWord name = true) :
    Token.operand? ⟨.word, name⟩ = some (.column name false) := by
  have hmoment : (momentWords.any fun word => Token.isWord word ⟨.word, name⟩) = false :=
    Bool.eq_false_iff.2 fun hany => by
      obtain ⟨word, hmem, hword⟩ := List.any_eq_true.1 hany
      rw [isWord_eq_false h (List.mem_append_right _ hmem)] at hword
      cases hword
  have hreserved : reservedWords.contains (lower name) = false :=
    Bool.eq_false_iff.2 fun hmem => by
      have hname : lower name ∉ meaningfulWords := by
        simpa using (Bool.and_eq_true_iff.1 h).2
      exact hname (List.mem_append_left _ (List.mem_append_left _ (List.contains_iff_mem.1 hmem)))
  have hnull : Token.isWord "null" ⟨.word, name⟩ = false := isWord_eq_false h (by decide)
  simp only [Token.operand?, hnull, hmoment, Token.name?, hreserved, Bool.false_eq_true, if_false,
    Option.map_some]

/-- **A column at the start of a condition** is read as such. -/
theorem readOperand_column {name : String} (h : isColumnWord name = true) {t : Token}
    (ht : t.isSymbol "||" = false) (rest : List Token) :
    readOperand.run (⟨.word, name⟩ :: t :: rest) = .ok (.column name false, t :: rest) := by
  have hcall : Token.isOneOf ⟨.word, name⟩ callWords = false :=
    Bool.eq_false_iff.2 fun hany => by
      obtain ⟨word, hmem, hword⟩ := List.any_eq_true.1 hany
      rw [isWord_eq_false h (List.mem_append_left _ (List.mem_append_right _ hmem))] at hword
      cases hword
  have hunit : ∀ fuel, (readUnit (fuel + 1)).run (⟨.word, name⟩ :: t :: rest)
      = .ok (.column name false, t :: rest) := by
    intro fuel
    rw [readUnit, run_skipIf_bind (isWord_eq_false h (by decide))]
    simp only [Bool.false_eq_true, if_false]
    rw [run_skipIf_bind hcall]
    simp only [Bool.false_eq_true, if_false]
    rw [run_skipIf_bind (isWord_eq_false h (by decide))]
    exact run_readToken (operand?_column h) _
  have hjoined : ∀ fuel, (readJoined (.column name false) (fuel + 1)).run (t :: rest)
      = .ok (.column name false, t :: rest) := by
    intro fuel
    rw [readJoined, run_skipIf_bind ht]
    rfl
  have henough : enough.run (⟨.word, name⟩ :: t :: rest)
      = .ok (rest.length + 3, ⟨.word, name⟩ :: t :: rest) := rfl
  rw [readOperand, StateT.run_bind, henough]
  show (readUnit _ >>= fun a => readJoined a _).run _ = _
  rw [StateT.run_bind, hunit]
  exact hjoined _

/-- The condition that a text writes, and the tokens behind it. -/
def conditionOf (sql : String) : Except Fault (Condition × List Token) :=
  readCondition.run (Token.scan (sql.toList.length + 1) sql.toList)

/-- A column has the form of the first value between percent signs. -/
def containsCondition (column : String) : Condition :=
  .like (.column column false)
    (.joined (.joined (.constant (.text "%")) (.slot 1)) (.constant (.text "%")))

/-- **What the operator writes, the database reads** as a match of the column. -/
theorem conditionOf_contains {column : String} (h : isColumnWord column = true) :
    conditionOf (column ++ " LIKE \x27%\x27 || ?1 || \x27%\x27")
      = .ok (containsCondition column, []) := by
  have hname : isIdentifierText column.toList = true := (Bool.and_eq_true_iff.1 h).1
  have htext : (column ++ " LIKE \x27%\x27 || ?1 || \x27%\x27").toList
      = column.toList ++ ' ' :: "LIKE \x27%\x27 || ?1 || \x27%\x27".toList := String.toList_append
  have htokens : ∀ fuel, Token.scan (fuel + 8)
        (column.toList ++ ' ' :: "LIKE \x27%\x27 || ?1 || \x27%\x27".toList)
      = [⟨.word, column⟩, ⟨.word, "LIKE"⟩, ⟨.text "%", "\x27%\x27"⟩, ⟨.symbol, "||"⟩,
        ⟨.slot 1, "?1"⟩, ⟨.symbol, "||"⟩, ⟨.text "%", "\x27%\x27"⟩] := by
    intro fuel
    rw [Token.scan_identifier hname, String.ofList_toList]
    rfl
  have hfuel : (column.toList ++ ' ' :: "LIKE \x27%\x27 || ?1 || \x27%\x27".toList).length + 1
      = column.toList.length + 15 + 8 := by
    rw [List.length_append]
    rfl
  rw [conditionOf, htext, hfuel, htokens, readCondition, StateT.run_bind,
    readOperand_column h (by decide)]
  rfl

/-- The pattern that the operator puts together from the text of its value. -/
theorem eval_containsPattern (relation : Relation) (row : List Cell) (v : String) :
    (Operand.joined (.joined (.constant (.text "%")) (.slot 1)) (.constant (.text "%"))).eval
        ⟨relation, row, [.text v]⟩ = .text ("%" ++ v ++ "%") := rfl

/-- A text without null characters is seen whole. -/
theorem visible_of_not_mem {s : String} (h : '\x00' ∉ s.toList) : visible s = s.toList := by
  rw [visible, List.takeWhile_eq_self_iff.2]
  intro c hc
  simpa using fun heq : c = '\x00' => h (heq ▸ hc)

theorem holds_containsCondition {column : String} {relation : Relation} {row : List Cell}
    {v x : String}
    (hcell : (Operand.column column false).eval ⟨relation, row, [.text v]⟩ = .text x)
    (hv : '\x00' ∉ v.toList) (hx : '\x00' ∉ x.toList) :
    (containsCondition column).holds ⟨relation, row, [.text v]⟩
      = isLike ('%' :: (v.toList ++ ['%'])) x.toList := by
  have hpattern : ("%" ++ v ++ "%").toList = '%' :: (v.toList ++ ['%']) := by
    simp only [String.toList_append]
    rfl
  have hnull : '\x00' ∉ ("%" ++ v ++ "%").toList := by
    rw [hpattern]
    simpa using hv
  simp only [containsCondition, Condition.holds, hcell, eval_containsPattern, Cell.text?]
  rw [visible_of_not_mem hnull, visible_of_not_mem hx, hpattern]

end Database

/-! ## The operator -/

namespace Operator

open Database

/-- The condition of the operator, with the placeholder of its value. -/
theorem bind_contains {column : String} (h : isIdentifier column = true) {p : Parameters}
    {v : String} (hv : p.get? column = some (.text v)) :
    Dialect.sqlite.bind (contains.fragment column) p
      = .ok ⟨column ++ " LIKE \x27%\x27 || ?1 || \x27%\x27", [.text v]⟩ := by
  have hsql : column.toList ++ " LIKE \x27%\x27 || ".toList
        ++ ((Dialect.sqlite.slots 0 1).toList ++ " || \x27%\x27".toList)
      = (column ++ " LIKE \x27%\x27 || ?1 || \x27%\x27").toList := by
    rw [String.toList_append, List.append_assoc]
    rfl
  rw [(places_contains h).bind_fragment h _ hv]
  simp only [Value.operands, List.length_singleton, hsql, String.ofList_toList]

/-- **Which texts the operator finds.**  The database compares the column with the value between
percent signs.  So a text is found just if some part of it has the form of the value, which each
text with the value inside it has; and only texts with the value inside them are found just if the
value has no percent sign and no underscore. -/
theorem contains_finds (v : String) :
    (∀ column, isColumnWord column = true → ∃ sql,
      Dialect.sqlite.bind (contains.fragment column)
          (Keyed.empty.insert column (contains.parameter (.text v))) = .ok ⟨sql, [.text v]⟩ ∧
      conditionOf sql = .ok (containsCondition column, []) ∧
      ∀ (relation : Relation) (row : List Cell) (x : String),
        (Operand.column column false).eval ⟨relation, row, [.text v]⟩ = .text x →
        '\x00' ∉ v.toList → '\x00' ∉ x.toList →
        (containsCondition column).holds ⟨relation, row, [.text v]⟩
          = isLike ('%' :: (v.toList ++ ['%'])) x.toList) ∧
    (∀ x : String, isLike ('%' :: (v.toList ++ ['%'])) x.toList = true ↔
      ∃ part, part <:+: x.toList ∧ Matches v.toList part) ∧
    (∀ x : String, v.toList <:+: x.toList →
      isLike ('%' :: (v.toList ++ ['%'])) x.toList = true) ∧
    ((∀ x : String, isLike ('%' :: (v.toList ++ ['%'])) x.toList = true ↔
      v.toList <:+: x.toList) ↔ '%' ∉ v.toList ∧ '_' ∉ v.toList) := by
  refine ⟨fun column hcolumn => ?_, fun x => isLike_iff.trans matches_between, fun x hx => ?_, ?_⟩
  · have hget : (Keyed.empty.insert column (contains.parameter (.text v))).get? column
        = some (.text v) := by
      rw [Keyed.get?_insert, if_pos rfl]
      rfl
    exact ⟨_, bind_contains (Bool.and_eq_true_iff.1 hcolumn).1 hget, conditionOf_contains hcolumn,
      fun _ _ _ => holds_containsCondition⟩
  · exact isLike_iff.2 (matches_between.2 ⟨_, hx, matches_self _⟩)
  · rw [← matches_between_iff_infix]
    constructor
    · intro h text
      have htext := h (String.ofList text)
      rwa [isLike_iff, String.toList_ofList] at htext
    · intro h x
      exact isLike_iff.trans (h x.toList)

/-- An underscore finds texts without an underscore. -/
theorem contains_finds_underscore : ∃ sql,
    Dialect.sqlite.bind (contains.fragment "item_name")
        (Keyed.empty.insert "item_name" (contains.parameter (.text "_"))) = .ok ⟨sql, [.text "_"]⟩ ∧
    conditionOf sql = .ok (containsCondition "item_name", []) ∧
    (containsCondition "item_name").holds
      ⟨⟨[{ label := "item_name", affinity := .text }], []⟩, [.text "SHIRT"], [.text "_"]⟩ = true ∧
    isLike ('%' :: ("_".toList ++ ['%'])) "SHIRT".toList = true ∧
    ¬"_".toList <:+: "SHIRT".toList :=
  ⟨"item_name LIKE \x27%\x27 || ?1 || \x27%\x27", rfl, rfl, rfl, rfl, by decide⟩

end Operator

end TableQuery
