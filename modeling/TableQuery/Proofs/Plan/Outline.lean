import TableQuery.Proofs.Operators
import TableQuery.Proofs.Plan.Clauses
import TableQuery.Proofs.Plan.Conditions

/-!
# What a statement shows of its description

The columns, operators and order keys of a description stand in the statement as they are, and they
may be spelled like the keywords around them.  The statement can be read in one way all the same:
behind its base query it is the text of one `Outline`, and of no other.

* `Outline` — conditions, orders and limits as a syntax tree, with the text of each;
* `Operator.fragment_cancel` — the column and the operator can be read off a condition;
* `Outline.text_injective` — no text is that of two outlines;
* `Plan.data_unambiguous` — the outline of a statement gives back the description.
-/

namespace TableQuery

/-! ## Outlines -/

/-- A text that is an identifier, whatever else it spells. -/
abbrev Outline.Name := { s : String // isIdentifier s = true }

/-- An operator of the library. -/
abbrev Outline.Known := { op : Operator // op ∈ Operator.builtins }

/-- One or more digits. -/
abbrev Outline.Numeral := { s : String // s ≠ "" ∧ ∀ c ∈ s.toList, c.isDigit = true }

def Outline.Numeral.value (n : Outline.Numeral) : Nat := Nat.ofDigitChars 10 n.val.toList 0

/-- What stands behind the base query of a statement. -/
structure Outline where
  conditions : List (Outline.Name × Outline.Known)
  orders : List (Outline.Name × Direction)
  limits : Option (Outline.Numeral × Outline.Numeral)

namespace Outline

/-- Any number of ` AND fragment`. -/
def whereText : List (Name × Known) → String
  | [] => ""
  | (column, op) :: rest => " AND " ++ op.val.fragment column.val ++ whereText rest

/-- One or more keys with their directions, separated by commas. -/
def keysText (keys : List (Name × Direction)) : String :=
  ", ".intercalate (keys.map fun k => k.1.val ++ " " ++ k.2.keyword)

/-- Nothing, or ` ORDER BY keys`. -/
def byText : List (Name × Direction) → String
  | [] => ""
  | k :: keys => " ORDER BY " ++ keysText (k :: keys)

/-- Nothing, or ` LIMIT n OFFSET m`. -/
def limitText : Option (Numeral × Numeral) → String
  | none => ""
  | some (n, m) => " LIMIT " ++ n.val ++ " OFFSET " ++ m.val

def text (o : Outline) : String := whereText o.conditions ++ byText o.orders ++ limitText o.limits

end Outline

/-! ## Conditions -/

namespace Operator

/-- What stands between the blanks behind the column of a condition. -/
def word (op : Operator) : List Char := ((op.fragment "").toList.drop 1).takeWhile (· ≠ ' ')

theorem blank_not_mem_word {op : Operator} (h : op ∈ builtins) : ' ' ∉ op.word := by
  revert op
  decide

theorem eq_of_word {op op' : Operator} (h : op ∈ builtins) (h' : op' ∈ builtins)
    (heq : op.word = op'.word) : op = op' := by
  have hfind : ∀ op ∈ builtins, builtins.find? (fun o => o.word == op.word) = some op := by
    simp only [builtins, List.forall_mem_cons]
    exact ⟨rfl, rfl, rfl, rfl, rfl, rfl, rfl, by simp⟩
  have h1 := hfind op h
  rw [heq, hfind op' h'] at h1
  exact (Option.some.inj h1).symm

theorem fragment_eq_word {op : Operator} (h : op ∈ builtins) (column : String) :
    ∃ back, (op.fragment column).toList = column.toList ++ ' ' :: (op.word ++ ' ' :: back) := by
  simp only [builtins, List.mem_cons, List.not_mem_nil, or_false] at h
  rcases h with rfl | rfl | rfl | rfl | rfl | rfl | rfl
  all_goals
    simp only [comparison, contains, oneOf, String.toList_append, List.append_assoc]
    exact ⟨_, rfl⟩

/-- **A condition gives back its column and its operator**, whatever follows it.  The column ends at
the first blank and the word of the operator at the second one, so `<` is not taken for `<=`. -/
theorem fragment_cancel {op op' : Operator} (h : op ∈ builtins) (h' : op' ∈ builtins)
    {column column' : String} (hcolumn : isIdentifier column = true)
    (hcolumn' : isIdentifier column' = true) {t t' : List Char}
    (heq : (op.fragment column).toList ++ t = (op'.fragment column').toList ++ t') :
    column = column' ∧ op = op' ∧ t = t' := by
  obtain ⟨back, hback⟩ := fragment_eq_word h column
  obtain ⟨back', hback'⟩ := fragment_eq_word h' column'
  have hcut := heq
  rw [hback, hback'] at hcut
  simp only [List.append_assoc, List.cons_append] at hcut
  obtain ⟨hcolumns, hcut⟩ := Text.append_cons_cancel (Lexical.blank_not_mem_identifierText hcolumn)
    (Lexical.blank_not_mem_identifierText hcolumn') hcut
  obtain ⟨hwords, -⟩ := Text.append_cons_cancel (blank_not_mem_word h) (blank_not_mem_word h') hcut
  obtain rfl := String.toList_inj.1 hcolumns
  obtain rfl := eq_of_word h h' hwords
  exact ⟨rfl, rfl, List.append_cancel_left heq⟩

end Operator

namespace Outline

/-- **Conditions end where no further one begins.**  The induction is on the conditions; what
follows the one at the front is read with the others. -/
theorem whereText_cancel {cs cs' : List (Name × Known)} {t t' : List Char}
    (ht : ∀ u, t ≠ " AND ".toList ++ u) (ht' : ∀ u, t' ≠ " AND ".toList ++ u)
    (heq : (whereText cs).toList ++ t = (whereText cs').toList ++ t') : cs = cs' ∧ t = t' := by
  induction cs generalizing cs' with
  | nil =>
    cases cs' with
    | nil => exact ⟨rfl, heq⟩
    | cons c' cs' =>
      simp only [whereText, String.toList_append, List.append_assoc] at heq
      exact absurd heq (ht _)
  | cons c cs ih =>
    cases cs' with
    | nil =>
      simp only [whereText, String.toList_append, List.append_assoc] at heq
      exact absurd heq.symm (ht' _)
    | cons c' cs' =>
      obtain ⟨column, op⟩ := c
      obtain ⟨column', op'⟩ := c'
      simp only [whereText, String.toList_append, List.append_assoc] at heq
      obtain ⟨hcolumn, hop, hrest⟩ := Operator.fragment_cancel op.2 op'.2 column.2 column'.2
        (List.append_cancel_left heq)
      obtain ⟨rfl, rfl⟩ := ih hrest
      exact ⟨by rw [Subtype.ext hcolumn, Subtype.ext hop], rfl⟩

/-! ## Orders -/

theorem keyword_cancel {e e' : Direction} {t t' : List Char}
    (heq : e.keyword.toList ++ t = e'.keyword.toList ++ t') : e = e' ∧ t = t' := by
  cases e <;> cases e' <;> simp_all [Direction.keyword]

theorem key_cancel {k k' : Name × Direction} {t t' : List Char}
    (heq : (k.1.val ++ " " ++ k.2.keyword).toList ++ t
      = (k'.1.val ++ " " ++ k'.2.keyword).toList ++ t') : k = k' ∧ t = t' := by
  simp only [String.toList_append, List.append_assoc] at heq
  obtain ⟨hname, hrest⟩ := Text.append_cons_cancel (Lexical.blank_not_mem_identifierText k.1.2)
    (Lexical.blank_not_mem_identifierText k'.1.2) heq
  obtain ⟨hdirection, hrest⟩ := keyword_cancel hrest
  exact ⟨Prod.ext (Subtype.ext (String.toList_inj.1 hname)) hdirection, hrest⟩

theorem keysText_cons_append (k l : Name × Direction) (keys : List (Name × Direction))
    (t : List Char) :
    (keysText (k :: l :: keys)).toList ++ t
      = (k.1.val ++ " " ++ k.2.keyword).toList
        ++ (", ".toList ++ ((keysText (l :: keys)).toList ++ t)) := by
  have htext : keysText (k :: l :: keys)
      = k.1.val ++ " " ++ k.2.keyword ++ ", " ++ keysText (l :: keys) :=
    String.intercalate_cons_cons
  rw [htext, String.toList_append, String.toList_append, List.append_assoc, List.append_assoc]

/-- **Keys end where no comma follows**, by induction on the keys. -/
theorem keysText_cancel {k k' : Name × Direction} {keys keys' : List (Name × Direction)}
    {t t' : List Char} (ht : ∀ u, t ≠ ", ".toList ++ u) (ht' : ∀ u, t' ≠ ", ".toList ++ u)
    (heq : (keysText (k :: keys)).toList ++ t = (keysText (k' :: keys')).toList ++ t') :
    k :: keys = k' :: keys' ∧ t = t' := by
  induction keys generalizing k k' keys' with
  | nil =>
    cases keys' with
    | nil =>
      obtain ⟨rfl, hrest⟩ := key_cancel heq
      exact ⟨rfl, hrest⟩
    | cons l' keys' =>
      rw [keysText_cons_append] at heq
      obtain ⟨-, hrest⟩ := key_cancel (k := k) heq
      exact absurd hrest (ht _)
  | cons l keys ih =>
    rw [keysText_cons_append] at heq
    cases keys' with
    | nil =>
      obtain ⟨-, hrest⟩ := key_cancel (k := k') heq.symm
      exact absurd hrest (ht' _)
    | cons l' keys' =>
      rw [keysText_cons_append] at heq
      obtain ⟨rfl, hrest⟩ := key_cancel heq
      obtain ⟨hkeys, hrest⟩ := ih (List.append_cancel_left hrest)
      exact ⟨by rw [hkeys], hrest⟩

/-! ## Limits -/

theorem blank_not_mem_numeral (n : Numeral) : ' ' ∉ n.val.toList :=
  fun hc => absurd (n.2.2 _ hc) (by decide)

theorem limitText_injective : Function.Injective limitText := by
  intro l l' heq
  have htext := congrArg String.toList heq
  rcases l with _ | ⟨n, m⟩
  · rcases l' with _ | ⟨n', m'⟩
    · rfl
    · simp [limitText] at htext
  · rcases l' with _ | ⟨n', m'⟩
    · simp [limitText] at htext
    · have hoffset : " OFFSET ".toList = ' ' :: "OFFSET ".toList := rfl
      simp only [limitText, String.toList_append, List.append_assoc, hoffset, List.cons_append]
        at htext
      have hnumbers := List.append_cancel_left htext
      obtain ⟨hn, hrest⟩ := Text.append_cons_cancel (blank_not_mem_numeral n)
        (blank_not_mem_numeral n') hnumbers
      have hm := List.append_cancel_left hrest
      rw [Subtype.ext (String.toList_inj.1 hn), Subtype.ext (String.toList_inj.1 hm)]

theorem limitText_ne {c d : Char} (h : ¬(c = ' ' ∧ d = 'L')) (l : Option (Numeral × Numeral))
    (u : List Char) : (limitText l).toList ≠ c :: d :: u := by
  intro heq
  rcases l with _ | ⟨n, m⟩
  · simp [limitText] at heq
  · simp only [limitText, String.toList_append, List.append_assoc] at heq
    obtain ⟨hc, hd⟩ := List.cons.inj heq
    exact h ⟨hc.symm, (List.cons.inj hd).1.symm⟩

theorem toList_byText_cons (k : Name × Direction) (keys : List (Name × Direction))
    (t : List Char) :
    (byText (k :: keys)).toList ++ t
      = " ORDER BY ".toList ++ ((keysText (k :: keys)).toList ++ t) := by
  rw [byText, String.toList_append, List.append_assoc]

/-- Behind the conditions no further condition begins. -/
theorem byText_limitText_ne (ks : List (Name × Direction)) (l : Option (Numeral × Numeral))
    (u : List Char) : (byText ks).toList ++ (limitText l).toList ≠ " AND ".toList ++ u := by
  intro heq
  cases ks with
  | nil => exact limitText_ne (by decide) l _ heq
  | cons k keys =>
    rw [toList_byText_cons] at heq
    exact absurd (List.cons.inj (List.cons.inj heq).2).1 (by decide)

theorem byText_limitText_cancel {ks ks' : List (Name × Direction)}
    {l l' : Option (Numeral × Numeral)}
    (heq : (byText ks).toList ++ (limitText l).toList
      = (byText ks').toList ++ (limitText l').toList) : ks = ks' ∧ l = l' := by
  cases ks with
  | nil =>
    cases ks' with
    | nil => exact ⟨rfl, limitText_injective (String.toList_inj.1 heq)⟩
    | cons k' keys' =>
      rw [toList_byText_cons] at heq
      exact absurd heq (limitText_ne (by decide) l _)
  | cons k keys =>
    rw [toList_byText_cons] at heq
    cases ks' with
    | nil => exact absurd heq.symm (limitText_ne (by decide) l' _)
    | cons k' keys' =>
      rw [toList_byText_cons] at heq
      obtain ⟨hkeys, hlimits⟩ := keysText_cancel (limitText_ne (by decide) l)
        (limitText_ne (by decide) l') (List.append_cancel_left heq)
      exact ⟨hkeys, limitText_injective (String.toList_inj.1 hlimits)⟩

/-- **No text is that of two outlines.** -/
theorem text_injective : Function.Injective text := by
  intro o o' heq
  obtain ⟨cs, ks, l⟩ := o
  obtain ⟨cs', ks', l'⟩ := o'
  have htext := congrArg String.toList heq
  simp only [text, String.toList_append, List.append_assoc] at htext
  obtain ⟨rfl, hrest⟩ :=
    whereText_cancel (byText_limitText_ne ks l) (byText_limitText_ne ks' l') htext
  obtain ⟨rfl, rfl⟩ := byText_limitText_cancel hrest
  rfl

/-! ## The outline of a description -/

/-- The outline has the columns, operators, orders and window of the description. -/
structure Shows (o : Outline) (d : Descriptor) (cap : Option UInt64) : Prop where
  conditions : o.conditions.map (fun c => (c.1.val, c.2.val.id))
    = d.filters.map fun f => (f.column, f.operation)
  orders : o.orders.map (fun k => (k.1.val, k.2)) = d.orders
  limits : o.limits.map (fun l => (l.1.value, l.2.value))
    = (d.windowCapped cap).map fun w => (w.limit.toNat, w.offset.toNat)

theorem Shows.window_eq {o : Outline} {d d' : Descriptor} {cap cap' : Option UInt64}
    (h : o.Shows d cap) (h' : o.Shows d' cap') : d.windowCapped cap = d'.windowCapped cap' := by
  have hinj : Function.Injective fun w : Window => (w.limit.toNat, w.offset.toNat) := by
    rintro ⟨limit, offset⟩ ⟨limit', offset'⟩ hw
    have hlimit : limit.toNat = limit'.toNat := (Prod.mk.inj hw).1
    have hoffset : offset.toNat = offset'.toNat := (Prod.mk.inj hw).2
    rw [UInt64.toNat_inj.1 hlimit, UInt64.toNat_inj.1 hoffset]
  exact Option.map_injective hinj (h.limits.symm.trans h'.limits)

theorem exists_whereText {cs : List Condition}
    (h : ∀ c ∈ cs, Registry.builtin.lookup c.filter.operation = .ok c.operator ∧
      isIdentifier c.filter.column = true) :
    ∃ os, whereText os = conditionsText cs ∧
      os.map (fun c => (c.1.val, c.2.val.id))
        = cs.map fun c => (c.filter.column, c.filter.operation) := by
  induction cs with
  | nil => exact ⟨[], rfl, rfl⟩
  | cons c cs ih =>
    rw [List.forall_mem_cons] at h
    obtain ⟨⟨hop, hcolumn⟩, hcs⟩ := h
    obtain ⟨os, htext, hmap⟩ := ih hcs
    refine ⟨(⟨_, hcolumn⟩, ⟨_, Registry.mem_builtins hop⟩) :: os, ?_, ?_⟩
    · rw [whereText, conditionsText, htext]
      rfl
    · rw [List.map_cons, List.map_cons, hmap, (Registry.lookup_builtin hop).2]

theorem exists_byText {orders : List (String × Direction)}
    (h : ∀ o ∈ orders, isIdentifier o.1 = true) :
    ∃ ks, byText ks = orderText orders ∧ ks.map (fun k => (k.1.val, k.2)) = orders := by
  have hkeys : ∃ ks : List (Name × Direction), ks.map (fun k => (k.1.val, k.2)) = orders := by
    induction orders with
    | nil => exact ⟨[], rfl⟩
    | cons o orders ih =>
      rw [List.forall_mem_cons] at h
      obtain ⟨ks, hks⟩ := ih h.2
      exact ⟨(⟨o.1, h.1⟩, o.2) :: ks, by rw [List.map_cons, hks]⟩
  obtain ⟨ks, rfl⟩ := hkeys
  refine ⟨ks, ?_, rfl⟩
  cases ks with
  | nil => rfl
  | cons k keys =>
    rw [byText, keysText, orderText, List.map_map]
    rfl

def numeral (n : Nat) : Numeral where
  val := toString n
  property := by
    rw [Nat.toString_eq_repr]
    refine ⟨Nat.repr_ne_empty, fun c hc => ?_⟩
    rw [Nat.toList_repr] at hc
    exact Nat.isDigit_of_mem_toDigits (by decide) (by decide) hc

theorem value_numeral (n : Nat) : (numeral n).value = n := by
  show Nat.ofDigitChars 10 (toString n).toList 0 = n
  rw [Nat.toString_eq_repr, Nat.toList_repr]
  exact Nat.ofDigitChars_toDigits (by decide) (by decide)

theorem exists_limitText (w : Option Window) :
    ∃ l, limitText l = windowText w ∧
      l.map (fun l => (l.1.value, l.2.value)) = w.map fun w => (w.limit.toNat, w.offset.toNat) := by
  cases w with
  | none => exact ⟨none, rfl, rfl⟩
  | some w =>
    refine ⟨some (numeral w.limit.toNat, numeral w.offset.toNat), rfl, ?_⟩
    simp only [Option.map_some, value_numeral]

end Outline

/-! ## The outline of a statement -/

namespace Plan

theorem exists_outline {cap : Option UInt64} {d : Descriptor} {base : String} {extra : Parameters}
    {plan : Plan} (h : build .builtin cap d base extra = .ok plan) :
    ∃ o : Outline, o.Shows d cap ∧ plan.data = wrapBase base ++ o.text := by
  obtain ⟨draft, hdraft, rfl⟩ := build_eq_ok h
  obtain ⟨cs, hfilters, hcs, horders, htext⟩ := core_eq_ok hdraft
  obtain ⟨conditions, hwhere, hconditions⟩ :=
    Outline.exists_whereText fun c hc => ⟨(hcs c hc).1, (hcs c hc).2.1⟩
  obtain ⟨keys, hby, hkeys⟩ := Outline.exists_byText horders
  obtain ⟨limits, hlimit, hlimits⟩ := Outline.exists_limitText (d.windowCapped cap)
  refine ⟨⟨conditions, keys, limits⟩, ⟨?_, hkeys, hlimits⟩, ?_⟩
  · rw [hconditions, ← hfilters, List.map_map]
    rfl
  · show draft.text ++ windowText (d.windowCapped cap) = _
    rw [htext, Outline.text, hwhere, hby, hlimit]
    simp only [String.append_assoc]

/-- **The strings of a description cannot change the structure of its statement.**  Behind the base
query the statement of a page is the text of one outline and of no other, and this outline gives
back the columns, the operators, the orders and the window.  So two descriptions with one statement
differ in neither of them, however their columns and keys are spelled. -/
theorem data_unambiguous {cap : Option UInt64} {d : Descriptor} {base : String}
    {extra : Parameters} {plan : Plan} (h : build .builtin cap d base extra = .ok plan) :
    (∃ o : Outline, o.Shows d cap ∧ ∀ o' : Outline, plan.data = wrapBase base ++ o'.text ↔ o' = o) ∧
    ∀ (d' : Descriptor) (extra' : Parameters) (plan' : Plan),
      build .builtin cap d' base extra' = .ok plan' → plan'.data = plan.data →
        d'.filters.map (fun f => (f.column, f.operation))
            = d.filters.map (fun f => (f.column, f.operation)) ∧
          d'.orders = d.orders ∧ d'.windowCapped cap = d.windowCapped cap := by
  obtain ⟨o, ho, htext⟩ := exists_outline h
  have hunique : ∀ o' : Outline, plan.data = wrapBase base ++ o'.text → o' = o := by
    intro o' ho'
    rw [htext] at ho'
    exact Outline.text_injective ((String.append_right_inj _).1 ho').symm
  refine ⟨⟨o, ho, fun o' => ⟨hunique o', fun h => h ▸ htext⟩⟩, ?_⟩
  intro d' extra' plan' h' hdata
  obtain ⟨o', ho', htext'⟩ := exists_outline h'
  obtain rfl := hunique o' (hdata.symm.trans htext')
  exact ⟨ho'.conditions.symm.trans ho.conditions, ho'.orders.symm.trans ho.orders,
    ho'.window_eq ho⟩

/-- Columns and keys that are spelled like the keywords around them. -/
theorem data_unambiguous_keywords :
    ∃ plan : Plan,
      build .builtin none
          { page := some 0, size := some 2
            filters := [⟨"a", "AND", "lt", .integer 1⟩, ⟨"b", "ORDER", "contains", .text "LIKE"⟩]
            orders := [("LIMIT", .descending), ("ASC", .ascending)] }
          "SELECT * FROM sales" .empty = .ok plan ∧
      plan.data = "SELECT * FROM (SELECT * FROM sales) AS scope WHERE 1 = 1 AND AND < :AND" ++
        " AND ORDER LIKE \x27%\x27 || :ORDER || \x27%\x27" ++
        " ORDER BY LIMIT DESC, ASC ASC LIMIT 2 OFFSET 0" ∧
      (∃ o : Outline, ∀ o' : Outline,
        plan.data = wrapBase "SELECT * FROM sales" ++ o'.text ↔ o' = o) ∧
      ∀ (d' : Descriptor) (extra' : Parameters) (plan' : Plan),
        build .builtin none d' "SELECT * FROM sales" extra' = .ok plan' → plan'.data = plan.data →
          d'.filters.map (fun f => (f.column, f.operation))
              = [("AND", "lt"), ("ORDER", "contains")] ∧
            d'.orders = [("LIMIT", .descending), ("ASC", .ascending)] ∧
            d'.windowCapped none = some ⟨2, 0⟩ := by
  have h : build .builtin none
      { page := some 0, size := some 2
        filters := [⟨"a", "AND", "lt", .integer 1⟩, ⟨"b", "ORDER", "contains", .text "LIKE"⟩]
        orders := [("LIMIT", .descending), ("ASC", .ascending)] }
      "SELECT * FROM sales" .empty = .ok _ := rfl
  obtain ⟨⟨o, -, ho⟩, hother⟩ := data_unambiguous h
  exact ⟨_, h, rfl, ⟨o, ho⟩, hother⟩

end Plan

end TableQuery
