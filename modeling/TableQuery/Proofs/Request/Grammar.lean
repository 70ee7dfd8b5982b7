import TableQuery.Proofs.Decimal.Numerals
import TableQuery.Proofs.Request.Changes
import TableQuery.Proofs.Text.Blank

/-!
# The forms of request parameters

Each reserved key has texts of one form.  What a text of that form asks for is a relation here, and
so is what is wrong with a text of another form; the readers of the program are shown to find the
one and to report the other.

* `Request.WritesCount`, `Request.readCount_eq_ok` — pages and sizes;
* `Request.NamesDirection` — the two words for a direction;
* `Request.AsksOrder`, `Request.readSort_eq_ok_some` — orders;
* `Request.Declares`, `Request.readOperator_eq_ok` — operators;
* `Request.Operand`, `Request.readOperand_eq_ok` — the values of filters;
* `Request.Malformed`, `Request.readChange_eq_error` — the pairs that cannot be read, key by key;
* `Request.Unreadable`, `Request.readOperand_eq_error` — the values that cannot be read.
-/

namespace TableQuery

open Outcome

namespace Request

variable {t : Table}

/-! ## Numbers -/

/-- A text writes a natural number of sixty-four bits: between blanks it has at least one digit, with
a plus sign before them at most. -/
inductive WritesCount (raw : String) (n : UInt64) : Prop where
  | mk {sign digits} (htext : (Text.trim raw).toList = sign ++ digits)
    (hsign : sign = [] ∨ sign = ['+']) (hne : digits ≠ [])
    (hdigits : ∀ c ∈ digits, '0' ≤ c ∧ c ≤ '9') (hn : Nat.ofDigitChars 10 digits 0 = n.toNat)

theorem isDigit_eq_true_iff {c : Char} : c.isDigit = true ↔ '0' ≤ c ∧ c ≤ '9' := by
  rw [Char.isDigit, Bool.and_eq_true, decide_eq_true_iff, decide_eq_true_iff]
  exact Iff.rfl

theorem readDigits_eq_some {digits : List Char} {n : Nat} :
    Decimal.readDigits digits = some n ↔
      digits ≠ [] ∧ (∀ c ∈ digits, '0' ≤ c ∧ c ≤ '9') ∧ Nat.ofDigitChars 10 digits 0 = n := by
  simp only [Decimal.readDigits, List.all_eq_true, isDigit_eq_true_iff,
    Decimal.digitsValue_eq_ofDigitChars]
  split
  next h => rw [Option.some_inj, ← and_assoc, and_iff_right h]
  next h => exact iff_of_false (by simp) fun hdigits => h ⟨hdigits.1, hdigits.2.1⟩

/-- A digit is no plus sign, so what begins with the sign has its digits behind it. -/
theorem readNat_eq_some {high n : Nat} {s : String} :
    Decimal.readNat high s = some n ↔ n ≤ high ∧ ∃ sign digits, s.toList = sign ++ digits ∧
      (sign = [] ∨ sign = ['+']) ∧ Decimal.readDigits digits = some n := by
  rw [Decimal.readNat, Option.filter_eq_some_iff, decide_eq_true_iff, and_comm]
  refine and_congr_right fun _ => ?_
  constructor
  · intro h
    split at h
    next rest hs => exact ⟨['+'], rest, hs, .inr rfl, h⟩
    next => exact ⟨[], _, rfl, .inl rfl, h⟩
  · rintro ⟨_, digits, hs, rfl | rfl, h⟩
    · split
      next rest hrest =>
        obtain rfl : digits = '+' :: rest := hs.symm.trans hrest
        exact absurd ((readDigits_eq_some.1 h).2.1 '+' List.mem_cons_self).1 (by decide)
      next => rwa [hs]
    · rw [hs]
      exact h

theorem readCount_eq_ok {key raw : String} {n : UInt64} :
    readCount key raw = .ok n ↔ WritesCount raw n := by
  have hread : readCount key raw = .ok n ↔
      Decimal.readNat (UInt64.size - 1) (Text.trim raw) = some n.toNat := by
    rw [readCount]
    constructor
    · intro h
      split at h
      next m hm =>
        obtain rfl := Except.ok.inj h
        have hlt : m < UInt64.size := Nat.lt_of_le_sub_one (by decide) (readNat_eq_some.1 hm).1
        rw [hm, Nat.toUInt64_eq, UInt64.toNat_ofNat_of_lt' hlt]
      next => cases h
    · intro h
      rw [h]
      exact congrArg _ (UInt64.ofNat_toNat)
  have hbound : n.toNat ≤ UInt64.size - 1 := Nat.le_sub_one_of_lt n.toNat_lt
  rw [hread, readNat_eq_some, and_iff_right hbound]
  simp only [readDigits_eq_some]
  constructor
  · rintro ⟨sign, digits, htext, hsign, hne, hdigits, hn⟩
    exact ⟨htext, hsign, hne, hdigits, hn⟩
  · rintro ⟨htext, hsign, hne, hdigits, hn⟩
    exact ⟨_, _, htext, hsign, hne, hdigits, hn⟩

theorem readCount_eq_error {key raw : String} {e : RequestError} :
    readCount key raw = .error e ↔ (∀ n, ¬WritesCount raw n) ∧ e = .notACount key raw := by
  simp only [← @readCount_eq_ok key]
  rw [readCount]
  cases Decimal.readNat (UInt64.size - 1) (Text.trim raw) <;> simp [eq_comm]

/-! ## Directions -/

/-- A text names a direction: between blanks it is the word for it, in any letter case. -/
inductive NamesDirection (raw : String) : Direction → Prop where
  | ascending (h : Text.lower (Text.trim raw) = "asc") : NamesDirection raw .ascending
  | descending (h : Text.lower (Text.trim raw) = "desc") : NamesDirection raw .descending

theorem direction?_eq_some {raw : String} {direction : Direction} :
    Direction.read? raw = some direction ↔ NamesDirection raw direction := by
  rw [Direction.read?]
  constructor
  · intro h
    split at h
    next hasc =>
      obtain rfl := Option.some.inj h
      exact .ascending hasc
    next =>
      split at h
      next hdesc =>
        obtain rfl := Option.some.inj h
        exact .descending hdesc
      next => cases h
  · rintro (hasc | hdesc)
    · rw [if_pos hasc]
    · rw [hdesc]
      rfl

theorem direction?_eq_none {raw : String} :
    Direction.read? raw = none ↔ ∀ direction, ¬NamesDirection raw direction := by
  simp only [← direction?_eq_some]
  exact Option.eq_none_iff_forall_ne_some

/-! ## Orders -/

/-- A text asks for an order by the column of a property.  Without a comma it is the name of the
property; before and after its first comma it has the name and the direction.  Blanks around them do
not count. -/
inductive AsksOrder (t : Table) (raw : String) : String × Direction → Prop where
  | plain {p} (hcomma : Text.split? ',' (Text.trim raw) = none)
      (hp : t.property? (Text.trim raw) = some p) : AsksOrder t raw (p.column, .ascending)
  | directed {name word p direction} (hcomma : Text.split? ',' (Text.trim raw) = some (name, word))
      (hdirection : NamesDirection word direction)
      (hp : t.property? (Text.trim name) = some p) : AsksOrder t raw (p.column, direction)

/-- What is wrong with the text of an order: the direction comes before the property. -/
inductive NoOrder (t : Table) (raw : String) : RequestError → Prop where
  | direction {name word} (hcomma : Text.split? ',' (Text.trim raw) = some (name, word))
      (hdirection : ∀ direction, ¬NamesDirection word direction) :
      NoOrder t raw (.unknownDirection (Text.trim word))
  | plain (hcomma : Text.split? ',' (Text.trim raw) = none)
      (hp : t.property? (Text.trim raw) = none) : NoOrder t raw (.unknownOrder (Text.trim raw))
  | directed {name word direction} (hcomma : Text.split? ',' (Text.trim raw) = some (name, word))
      (hdirection : NamesDirection word direction)
      (hp : t.property? (Text.trim name) = none) : NoOrder t raw (.unknownOrder (Text.trim name))

/-- A blank text asks for no order. -/
theorem readSort_of_blank {raw : String} (h : Text.isBlankText raw = true) :
    readSort t raw = .ok none := by
  rw [readSort]
  exact if_pos (Text.trim_eq_empty_iff.2 h)

/-- A text without a comma is the name of a property. -/
theorem readSort_plain {raw : String} (h : Text.isBlankText raw = false)
    (hcomma : Text.split? ',' (Text.trim raw) = none) :
    readSort t raw = match t.property? (Text.trim raw) with
      | some p => .ok (some (p, .ascending))
      | none => .error (.unknownOrder (Text.trim raw)) := by
  rw [readSort]
  simp only [Text.trim_ne_empty h, if_false, hcomma]
  rfl

/-- A text with a comma has a name and a direction. -/
theorem readSort_directed {raw name word : String} (h : Text.isBlankText raw = false)
    (hcomma : Text.split? ',' (Text.trim raw) = some (name, word)) :
    readSort t raw = match Direction.read? word with
      | none => .error (.unknownDirection (Text.trim word))
      | some direction => match t.property? (Text.trim name) with
        | some p => .ok (some (p, direction))
        | none => .error (.unknownOrder (Text.trim name)) := by
  rw [readSort]
  simp only [Text.trim_ne_empty h, if_false, hcomma]
  cases Direction.read? word <;> rfl

/-- **What an order asks for**: a text that is not blank asks for the order of its form. -/
theorem readSort_eq_ok_some {raw : String} {o : String × Direction} :
    (∃ p, readSort t raw = .ok (some (p, o.2)) ∧ p.column = o.1) ↔
      Text.isBlankText raw = false ∧ AsksOrder t raw o := by
  cases hblank : Text.isBlankText raw with
  | true => simp [readSort_of_blank hblank]
  | false =>
    rw [and_iff_right rfl]
    cases hcomma : Text.split? ',' (Text.trim raw) with
    | none =>
      rw [readSort_plain hblank hcomma]
      constructor
      · rintro ⟨p, h, hcolumn⟩
        split at h
        next q hq =>
          obtain ⟨column, direction⟩ := o
          obtain rfl : p.column = column := hcolumn
          cases h
          exact .plain hcomma hq
        next => cases h
      · intro h
        cases h with
        | @plain p _ hp => exact ⟨p, by rw [hp], rfl⟩
        | directed hcomma' => rw [hcomma] at hcomma'; cases hcomma'
    | some parts =>
      obtain ⟨name, word⟩ := parts
      rw [readSort_directed hblank hcomma]
      constructor
      · rintro ⟨p, h, hcolumn⟩
        split at h
        next => cases h
        next direction hdirection =>
          split at h
          next q hq =>
            obtain ⟨column, direction'⟩ := o
            obtain rfl : p.column = column := hcolumn
            cases h
            exact .directed hcomma (direction?_eq_some.1 hdirection) hq
          next => cases h
      · intro h
        cases h with
        | plain hcomma' => rw [hcomma] at hcomma'; cases hcomma'
        | @directed _ _ p _ hcomma' hdirection hp =>
          obtain ⟨rfl, rfl⟩ := Prod.mk.inj (Option.some.inj (hcomma.symm.trans hcomma'))
          exact ⟨p, by simp only [direction?_eq_some.2 hdirection, hp], rfl⟩

/-- A text that is not blank asks for an order. -/
theorem readSort_ne_none {raw : String} (h : (!Text.isBlankText raw) = true) :
    readSort t raw ≠ .ok none := by
  have hblank : Text.isBlankText raw = false := by simpa using h
  cases hcomma : Text.split? ',' (Text.trim raw) with
  | none =>
    rw [readSort_plain hblank hcomma]
    split <;> simp
  | some parts =>
    rw [readSort_directed hblank hcomma]
    split
    · simp
    · split <;> simp

theorem readSort_eq_error {raw : String} {e : RequestError} :
    readSort t raw = .error e ↔ Text.isBlankText raw = false ∧ NoOrder t raw e := by
  cases hblank : Text.isBlankText raw with
  | true => simp [readSort_of_blank hblank]
  | false =>
    rw [and_iff_right rfl]
    cases hcomma : Text.split? ',' (Text.trim raw) with
    | none =>
      rw [readSort_plain hblank hcomma]
      constructor
      · intro h
        split at h
        next => cases h
        next hp =>
          cases h
          exact .plain hcomma hp
      · intro h
        cases h with
        | plain _ hp => rw [hp]
        | direction hcomma' | directed hcomma' => rw [hcomma] at hcomma'; cases hcomma'
    | some parts =>
      obtain ⟨name, word⟩ := parts
      rw [readSort_directed hblank hcomma]
      constructor
      · intro h
        split at h
        next hdirection =>
          cases h
          exact .direction hcomma (direction?_eq_none.1 hdirection)
        next direction hdirection =>
          split at h
          next => cases h
          next hp =>
            cases h
            exact .directed hcomma (direction?_eq_some.1 hdirection) hp
      · intro h
        cases h with
        | plain hcomma' => rw [hcomma] at hcomma'; cases hcomma'
        | direction hcomma' hdirection =>
          obtain ⟨rfl, rfl⟩ := Prod.mk.inj (Option.some.inj (hcomma.symm.trans hcomma'))
          simp only [direction?_eq_none.2 hdirection]
        | directed hcomma' hdirection hp =>
          obtain ⟨rfl, rfl⟩ := Prod.mk.inj (Option.some.inj (hcomma.symm.trans hcomma'))
          simp only [direction?_eq_some.2 hdirection, hp]

/-! ## Operators -/

/-- A text declares an operator of a property: the name of the property stands before its first
comma and the operator, which is not blank, behind it. -/
inductive Declares (t : Table) (raw : String) : String × String → Prop where
  | pair {name operation p} (hcomma : Text.split? ',' raw = some (name, operation))
      (hoperation : Text.isBlankText operation = false)
      (hp : t.property? (Text.trim name) = some p) : Declares t raw (p.name, Text.trim operation)

/-- What is wrong with the text of an operator: the operator comes before the property. -/
inductive NoDeclaration (t : Table) (raw : String) : RequestError → Prop where
  | pair (hcomma : Text.split? ',' raw = none) : NoDeclaration t raw (.notAPair raw)
  | operator {name operation} (hcomma : Text.split? ',' raw = some (name, operation))
      (hoperation : Text.isBlankText operation = true) : NoDeclaration t raw (.noOperator raw)
  | property {name operation} (hcomma : Text.split? ',' raw = some (name, operation))
      (hoperation : Text.isBlankText operation = false)
      (hp : t.property? (Text.trim name) = none) :
      NoDeclaration t raw (.unknownFilter (Text.trim name))

/-- A text with a comma has a name and an operator. -/
theorem readOperator_pair {raw name operation : String}
    (hcomma : Text.split? ',' raw = some (name, operation)) :
    readOperator t raw = if Text.isBlankText operation then .error (.noOperator raw)
      else match t.property? (Text.trim name) with
        | some p => .ok (p, Text.trim operation)
        | none => .error (.unknownFilter (Text.trim name)) := by
  rw [readOperator, hcomma]
  exact if_congr Text.trim_eq_empty_iff rfl rfl

theorem readOperator_eq_ok {raw : String} {o : String × String} :
    (∃ p, readOperator t raw = .ok (p, o.2) ∧ p.name = o.1) ↔ Declares t raw o := by
  constructor
  · rintro ⟨p, h, hname⟩
    cases hcomma : Text.split? ',' raw with
    | none =>
      rw [readOperator, hcomma] at h
      cases h
    | some parts =>
      rw [readOperator_pair hcomma] at h
      split at h
      next => cases h
      next hoperation =>
        split at h
        next q hq =>
          obtain ⟨name, operation⟩ := o
          obtain rfl : p.name = name := hname
          cases h
          exact .pair hcomma (Bool.eq_false_iff.2 hoperation) hq
        next => cases h
  · intro h
    cases h with
    | @pair _ _ p hcomma hoperation hp =>
      exact ⟨p, by simp [readOperator_pair hcomma, hoperation, hp], rfl⟩

theorem readOperator_eq_error {raw : String} {e : RequestError} :
    readOperator t raw = .error e ↔ NoDeclaration t raw e := by
  constructor
  · intro h
    cases hcomma : Text.split? ',' raw with
    | none =>
      rw [readOperator, hcomma] at h
      cases h
      exact .pair hcomma
    | some parts =>
      rw [readOperator_pair hcomma] at h
      split at h
      next hoperation =>
        cases h
        exact .operator hcomma hoperation
      next hoperation =>
        split at h
        next => cases h
        next hp =>
          cases h
          exact .property hcomma (Bool.eq_false_iff.2 hoperation) hp
  · intro h
    cases h with
    | pair hcomma => rw [readOperator, hcomma]
    | operator hcomma hoperation => simp [readOperator_pair hcomma, hoperation]
    | property hcomma hoperation hp => simp [readOperator_pair hcomma, hoperation, hp]

/-! ## Pairs -/

/-- **What is wrong with a pair** that cannot be read.  Only the reserved keys have a form. -/
inductive Malformed (t : Table) : String × String → RequestError → Prop where
  | page {raw} (h : ∀ n, ¬WritesCount raw n) : Malformed t ("page", raw) (.notACount "page" raw)
  | size {raw} (h : ∀ n, ¬WritesCount raw n) : Malformed t ("size", raw) (.notACount "size" raw)
  | order {raw e} (hblank : Text.isBlankText raw = false) (h : NoOrder t raw e) :
      Malformed t ("sort", raw) e
  | operator {raw e} (h : NoDeclaration t raw e) : Malformed t ("filter", raw) e

/-- **The error of a pair** is what is wrong with it. -/
theorem readChange_eq_error {pair : String × String} {e : RequestError} :
    readChange t pair = .error e ↔ Malformed t pair e := by
  obtain ⟨key, raw⟩ := pair
  constructor
  · intro h
    cases hreserved : isReserved key with
    | false =>
      rw [readChange_of_not_reserved hreserved] at h
      split at h <;> cases h
    | true =>
      have hkeys : key ∈ [pageKey, sizeKey, sortKey, filterKey] := of_decide_eq_true hreserved
      simp only [List.mem_cons, List.not_mem_nil, or_false] at hkeys
      rcases hkeys with rfl | rfl | rfl | rfl
      · rw [readChange_page, map_eq_error, readCount_eq_error] at h
        obtain ⟨hcount, rfl⟩ := h
        exact .page hcount
      · rw [readChange_size, map_eq_error, readCount_eq_error] at h
        obtain ⟨hcount, rfl⟩ := h
        exact .size hcount
      · rw [readChange_sort, map_eq_error, readSort_eq_error] at h
        exact .order h.1 h.2
      · rw [readChange_filter, map_eq_error, readOperator_eq_error] at h
        exact .operator h
  · intro h
    cases h with
    | page h =>
      exact (readChange_page _).trans (map_eq_error.2 (readCount_eq_error.2 ⟨h, rfl⟩))
    | size h =>
      exact (readChange_size _).trans (map_eq_error.2 (readCount_eq_error.2 ⟨h, rfl⟩))
    | order hblank h =>
      exact (readChange_sort _).trans (map_eq_error.2 (readSort_eq_error.2 ⟨hblank, h⟩))
    | operator h =>
      exact (readChange_filter _).trans (map_eq_error.2 (readOperator_eq_error.2 h))

/-! ## Values -/

/-- The texts between the commas of a value, without the blank ones. -/
def items (raw : String) : List String :=
  (Text.splitAll ',' raw).filter fun item => !Text.isBlankText item

/-- The value that a text writes for a filter on a property: with the operator for lists it writes
the items between its commas, with any other one it is one value. -/
inductive Operand (p : Property) (operation raw : String) : Value → Prop where
  | list {vs} (hoperation : operation = "in")
      (h : List.Forall₂ (fun item v => p.kind.read item = .ok v) (items raw) vs) :
      Operand p operation raw (.list vs)
  | single {v} (hoperation : operation ≠ "in") (h : p.kind.read raw = .ok v) :
      Operand p operation raw v

/-- What is wrong with the text of a value: the first item that cannot be read, or the text. -/
inductive Unreadable (p : Property) (operation raw : String) : RequestError → Prop where
  | item {before item after cause} (hoperation : operation = "in")
      (hitems : items raw = before ++ item :: after)
      (hbefore : ∀ b ∈ before, ∃ v, p.kind.read b = .ok v) (h : p.kind.read item = .error cause) :
      Unreadable p operation raw (.unreadable p.name cause)
  | single {cause} (hoperation : operation ≠ "in") (h : p.kind.read raw = .error cause) :
      Unreadable p operation raw (.unreadable p.name cause)

theorem readValue_eq_ok {p : Property} {raw : String} {v : Value} :
    readValue p raw = .ok v ↔ p.kind.read raw = .ok v := by
  rw [readValue]
  cases p.kind.read raw <;> simp

theorem readValue_eq_error {p : Property} {raw : String} {e : RequestError} :
    readValue p raw = .error e ↔ ∃ cause, p.kind.read raw = .error cause ∧
      e = .unreadable p.name cause := by
  rw [readValue]
  cases p.kind.read raw <;> simp [eq_comm]

theorem readOperand_eq_ok {p : Property} {operation raw : String} {v : Value} :
    readOperand p operation raw = .ok v ↔ Operand p operation raw v := by
  by_cases hoperation : operation = listOperator
  · rw [readOperand, if_pos hoperation, map_eq_ok]
    simp only [readItems, mapM_eq_ok, readValue_eq_ok]
    constructor
    · rintro ⟨vs, hvs, rfl⟩
      exact .list hoperation hvs
    · intro h
      cases h with
      | list _ hvs => exact ⟨_, hvs, rfl⟩
      | single hne => exact absurd hoperation hne
  · rw [readOperand, if_neg hoperation, readValue_eq_ok]
    constructor
    · exact .single hoperation
    · intro h
      cases h with
      | list heq => exact absurd heq hoperation
      | single _ h => exact h

theorem readOperand_eq_error {p : Property} {operation raw : String} {e : RequestError} :
    readOperand p operation raw = .error e ↔ Unreadable p operation raw e := by
  by_cases hoperation : operation = listOperator
  · rw [readOperand, if_pos hoperation, map_eq_error]
    simp only [readItems, mapM_eq_error, FirstError, readValue_eq_ok, readValue_eq_error]
    constructor
    · rintro ⟨before, item, after, hitems, hbefore, cause, hcause, rfl⟩
      exact .item hoperation hitems hbefore hcause
    · intro h
      cases h with
      | item _ hitems hbefore hcause => exact ⟨_, _, _, hitems, hbefore, _, hcause, rfl⟩
      | single hne => exact absurd hoperation hne
  · rw [readOperand, if_neg hoperation, readValue_eq_error]
    constructor
    · rintro ⟨cause, hcause, rfl⟩
      exact .single hoperation hcause
    · intro h
      cases h with
      | item heq => exact absurd heq hoperation
      | single _ hcause => exact ⟨_, hcause, rfl⟩

end Request

end TableQuery
