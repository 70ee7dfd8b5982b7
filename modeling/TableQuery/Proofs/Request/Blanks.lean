import TableQuery.Proofs.Request.Without
import TableQuery.Proofs.Text.Split

/-!
# Blank values of a property

A blank value makes no filter.  Several blank values of one property are joined by commas before
they are looked at, and a text with a comma in it is not blank.

* `Text.isBlankText_intercalate_iff` — when the joined values are blank;
* `Request.blankOperand`, `Request.readOperand_joined` — what they are read as when they are not;
* `Request.mem_filtered_blank_iff` — when blank values count;
* `Descriptor.ofRequest_blank_values` — when blank values change nothing, and what they do
  otherwise.
-/

namespace TableQuery

open Outcome

/-! ## Blank texts with commas between them -/

namespace Text

variable {raws : List String}

theorem blank_or_comma (h : ∀ raw ∈ raws, isBlankText raw = true) :
    ∀ c ∈ (",".intercalate raws).toList, isBlank c = true ∨ c = ',' := by
  refine forall_mem_intercalate (fun c hc => .inr (List.mem_singleton.1 hc))
    fun raw hraw c hc => .inl ?_
  exact List.all_eq_true.1 (h raw hraw) c hc

theorem comma_mem_intercalate (h : 1 < raws.length) : ',' ∈ (",".intercalate raws).toList := by
  cases raws with
  | nil => cases h
  | cons raw raws =>
    cases raws with
    | nil => exact absurd h (Nat.lt_irrefl 1)
    | cons raw' raws =>
      rw [String.intercalate_cons_cons, String.toList_append, String.toList_append]
      exact List.mem_append_left _ (List.mem_append_right _ List.mem_cons_self)

/-- **Blank texts with commas between them** are blank just if there is no comma. -/
theorem isBlankText_intercalate_iff (h : ∀ raw ∈ raws, isBlankText raw = true) :
    isBlankText (",".intercalate raws) = true ↔ raws.length ≤ 1 := by
  constructor
  · intro hblank
    refine Nat.le_of_not_lt fun hlength => ?_
    have hcomma : isBlank ',' = true :=
      List.all_eq_true.1 hblank ',' (comma_mem_intercalate hlength)
    exact absurd hcomma (by decide)
  · intro hlength
    cases raws with
    | nil => rfl
    | cons raw raws =>
      have hzero : raws.length = 0 := Nat.le_zero.1 (Nat.le_of_succ_le_succ hlength)
      obtain rfl := List.length_eq_zero_iff.1 hzero
      rw [String.intercalate_singleton]
      exact h raw List.mem_cons_self

/-- Blanks and commas have nothing between the commas that is not blank. -/
theorem items_of_blank_or_comma {s : String} (h : ∀ c ∈ s.toList, isBlank c = true ∨ c = ',') :
    ((splitAll ',' s).filter fun item => !isBlankText item) = [] := by
  rw [List.filter_eq_nil_iff]
  intro item hitem
  obtain ⟨piece, hpiece, rfl⟩ := List.mem_map.1 hitem
  have hblank : isBlankText (String.ofList piece) = true := by
    rw [isBlankText, String.toList_ofList, List.all_eq_true]
    exact forall_mem_of_mem_pieces h hpiece
  rw [hblank]
  exact Bool.false_ne_true

theorem exists_trim_intercalate (h : ∀ raw ∈ raws, isBlankText raw = true)
    (hlength : 1 < raws.length) :
    ∃ rest, (trim (",".intercalate raws)).toList = ',' :: rest := by
  rw [trim, String.toList_ofList]
  exact exists_trimChars_cons (by decide) (blank_or_comma h) (comma_mem_intercalate hlength)

/-- In lower case, too, a comma is the beginning of no word. -/
theorem lower_ne_of_comma {s word : String} {rest : List Char} (h : s.toList = ',' :: rest)
    (hword : word.toList.head? ≠ some ',') : lower s ≠ word := by
  rintro rfl
  refine hword ?_
  rw [lower, String.toList_ofList, h]
  rfl

end Text

/-! ## A comma is the beginning of no value -/

namespace Decimal

variable {s : String} {rest : List Char}

theorem readInt64_of_comma (h : s.toList = ',' :: rest) : readInt64 s = none := by
  simp [readInt64, readInt, readSigned, readDigits, h]

theorem readMagnitude_of_comma (rest : List Char) : readMagnitude (',' :: rest) = none := by
  have hne {word : String} (hword : word.toList.head? ≠ some ',') :
      Text.lower (String.ofList (',' :: rest)) ≠ word :=
    Text.lower_ne_of_comma String.toList_ofList hword
  rw [readMagnitude]
  simp only [hne (by decide : "inf".toList.head? ≠ some ','),
    hne (by decide : "infinity".toList.head? ≠ some ','),
    hne (by decide : "nan".toList.head? ≠ some ','), or_self, if_false]
  simp [readDecimal]

theorem readFloat_of_comma (h : s.toList = ',' :: rest) : readFloat s = none := by
  rw [readFloat, h]
  exact readMagnitude_of_comma rest

end Decimal

theorem Kind.truthOf_of_comma {s : String} {rest : List Char} (h : s.toList = ',' :: rest) :
    truthOf s = none := by
  have hne {word : String} (hword : word.toList.head? ≠ some ',') : Text.lower s ≠ word :=
    Text.lower_ne_of_comma h hword
  rw [truthOf]
  simp only [hne (by decide : "true".toList.head? ≠ some ','),
    hne (by decide : "1".toList.head? ≠ some ','),
    hne (by decide : "false".toList.head? ≠ some ','),
    hne (by decide : "0".toList.head? ≠ some ','), or_self, if_false]

/-- Only texts and JSON values are read from a text that begins with a comma. -/
theorem Kind.read_of_comma {kind : Kind} {raw : String} {rest : List Char}
    (h : (Text.trim raw).toList = ',' :: rest) :
    kind.read raw =
      if kind = .text ∨ kind = .json then .ok (.text raw) else .error ⟨kind, raw⟩ := by
  cases kind with
  | text | json => rfl
  | integer => rw [Kind.read, integerIn, Decimal.readInt64_of_comma h]; rfl
  | float => rw [Kind.read, floatIn, Decimal.readFloat_of_comma h]; rfl
  | boolean => rw [Kind.read, truthIn, truthOf_of_comma h]; rfl

namespace Request

variable {t : Table} {pairs : List (String × String)} {declared : List (String × String)}
  {name : String} {p : Property}

/-! ## Blank values that are read -/

/-- What blank values of a property are read as when there are commas between them: no items for
the operator for lists, and for any other one the commas, which are a text. -/
def blankOperand (p : Property) (operation commas : String) : Except RequestError Value :=
  if operation = "in" then .ok (.list [])
  else if p.kind = .text ∨ p.kind = .json then .ok (.text commas)
  else .error (.unreadable p.name ⟨p.kind, commas⟩)

theorem readOperand_joined (hblank : ∀ raw ∈ texts name pairs, Text.isBlankText raw = true)
    (hlength : 1 < (texts name pairs).length) (operation : String) :
    readOperand p operation (joined pairs name) = blankOperand p operation (joined pairs name) := by
  rw [readOperand, blankOperand, listOperator]
  by_cases hlist : operation = "in"
  · rw [if_pos hlist, if_pos hlist, readItems, joined,
      Text.items_of_blank_or_comma (Text.blank_or_comma hblank)]
    rfl
  · obtain ⟨rest, hrest⟩ := Text.exists_trim_intercalate hblank hlength
    rw [if_neg hlist, if_neg hlist, readValue, joined, Kind.read_of_comma hrest]
    by_cases htext : p.kind = .text ∨ p.kind = .json
    · rw [if_pos htext, if_pos htext]
    · rw [if_neg htext, if_neg htext]

theorem makesFilter_blank_iff (hp : t.property? name = some p)
    (hblank : ∀ raw ∈ texts name pairs, Text.isBlankText raw = true)
    (hlength : 1 < (texts name pairs).length) {f : PropertyFilter} :
    MakesFilter t declared pairs name f ↔
      ∃ v, blankOperand p (operatorOf declared name) (joined pairs name) = .ok v ∧
        f = ⟨p.name, p.column, operatorOf declared name, v⟩ := by
  simp only [← readOperand_joined hblank hlength, readOperand_eq_ok]
  constructor
  · rintro ⟨hp', hv⟩
    obtain rfl := Option.some.inj (hp.symm.trans hp')
    exact ⟨_, hv, rfl⟩
  · rintro ⟨v, hv, rfl⟩
    exact .mk hp hv

theorem noFilter_blank (hp : t.property? name = some p)
    (hblank : ∀ raw ∈ texts name pairs, Text.isBlankText raw = true)
    (hlength : 1 < (texts name pairs).length) {e : RequestError}
    (he : blankOperand p (operatorOf declared name) (joined pairs name) = .error e) :
    NoFilter t declared pairs name e := by
  rw [← readOperand_joined hblank hlength, readOperand_eq_error] at he
  exact .mk hp he

/-! ## Requests with blank values -/

section

variable (hkey : isReserved name = false) (hp : t.property? name = some p)
  (hblank : ∀ raw ∈ texts name pairs, Text.isBlankText raw = true)

include hkey hp hblank

/-- Blank values of a property should make a filter just if there is more than one. -/
theorem mem_filtered_blank_iff : name ∈ filtered t pairs ↔ 1 < (texts name pairs).length := by
  rw [mem_filtered_iff hkey hp, ← Bool.not_eq_true, joined, Text.isBlankText_intercalate_iff hblank]
  exact Nat.not_le

/-- One blank value is no value. -/
theorem readAll_blank_value (hlength : (texts name pairs).length ≤ 1) :
    (readAll t pairs).outcome = (readAll t (without name pairs)).outcome := by
  have hname : name ∉ filtered t pairs := fun h =>
    absurd ((mem_filtered_blank_iff hkey hp hblank).1 h) (Nat.not_lt_of_le hlength)
  cases hout : (readAll t (without name pairs)).outcome with
  | ok d =>
    exact readAll_eq_ok_iff.2 ((describes_without_iff hkey hname).1 (readAll_eq_ok_iff.1 hout))
  | error e =>
    exact readAll_eq_error_iff.2 ((unread_without_iff hkey hname).1 (readAll_eq_error_iff.1 hout))

/-- **Several blank values** of a property are read after those of the properties before it, as
commas. -/
theorem readAll_blank_values (hlength : 1 < (texts name pairs).length) {d : Descriptor}
    (hd : (readAll t (without name pairs)).outcome = .ok d) :
    ∃ declared, List.Forall₂ (Declares t) (texts "filter" pairs) declared ∧
      (∀ v, blankOperand p (operatorOf declared name) (joined pairs name) = .ok v →
        ∃ front back, d.filters = front ++ back ∧
          filtered t pairs
            = front.map PropertyFilter.property ++ name :: back.map PropertyFilter.property ∧
          (readAll t pairs).outcome = .ok
            { d with filters :=
                front ++ ⟨p.name, p.column, operatorOf declared name, v⟩ :: back }) ∧
      ∀ e, blankOperand p (operatorOf declared name) (joined pairs name) = .error e →
        (readAll t pairs).outcome = .error e := by
  have hname := (mem_filtered_blank_iff hkey hp hblank).2 hlength
  have hdescribes := readAll_eq_ok_iff.1 hd
  obtain ⟨declared, hdeclared, hfilters⟩ := hdescribes.filters
  rw [texts_without (ne_of_isReserved hkey (by decide))] at hdeclared
  refine ⟨declared, hdeclared, fun v hv => ?_, fun e he => ?_⟩
  · have hf := (makesFilter_blank_iff hp hblank hlength).2 ⟨v, hv, rfl⟩
    obtain ⟨front, back, hsplit, hplace, hboth⟩ := hdescribes.insert hkey hname hdeclared hf
    exact ⟨front, back, hsplit, hplace, readAll_eq_ok_iff.2 hboth⟩
  · obtain ⟨before, after, hsplit, hwithout, hbefore, -⟩ := exists_filtered_split hname
    have hread := (malformed_without_iff hkey).1 hdescribes.not_malformed
    rw [hwithout, forall₂_append_left_iff] at hfilters
    obtain ⟨front, _, hfront, -, -⟩ := hfilters
    have hmade := (forall₂_without hbefore).1 hfront
    exact readAll_eq_error_iff.2 (.value hread hdeclared hsplit
      (fun b hb => exists_of_forall₂ hmade hb) (noFilter_blank hp hblank hlength he))

/-- Requests with blank values are read as they would be without them, unless there are several. -/
theorem readAll_blank_iff :
    (∀ d, (readAll t pairs).outcome = .ok d ↔ (readAll t (without name pairs)).outcome = .ok d) ↔
      (texts name pairs).length ≤ 1 ∨ ∃ e, (readAll t (without name pairs)).outcome = .error e := by
  constructor
  · intro hsame
    refine or_iff_not_imp_left.2 fun hlength => ?_
    cases hout : (readAll t (without name pairs)).outcome with
    | error e => exact ⟨e, rfl⟩
    | ok d =>
      have hboth := (hsame d).2 hout
      obtain ⟨declared, -, hread, hunread⟩ :=
        readAll_blank_values hkey hp hblank (Nat.lt_of_not_le hlength) hout
      cases hv : blankOperand p (operatorOf declared name) (joined pairs name) with
      | error e =>
        rw [hunread e hv] at hboth
        cases hboth
      | ok v =>
        obtain ⟨front, back, hsplit, -, hmore⟩ := hread v hv
        rw [hmore] at hboth
        have hfilters := congrArg (fun d => d.filters.length) (Except.ok.inj hboth)
        simp [hsplit] at hfilters
  · rintro (hlength | ⟨e, he⟩) d
    · rw [readAll_blank_value hkey hp hblank hlength]
    · refine ⟨fun hd => ?_, fun hd => ?_⟩
      · by_cases hname : name ∈ filtered t pairs
        · obtain ⟨fs, hfs⟩ := (readAll_eq_ok_iff.1 hd).remove hkey hname
          rw [readAll_eq_ok_iff.2 hfs] at he
          cases he
        · have hrest := (describes_without_iff hkey hname).2 (readAll_eq_ok_iff.1 hd)
          rw [readAll_eq_ok_iff.2 hrest] at he
          cases he
      · rw [hd] at he
        cases he

end

end Request

/-- **Blank values of a property.**  A request reads as it would without them just if there is at
most one, or if it is not read without them either.  One blank value does not even change the error.
When there are more, and the rest of the request is read, the operator for lists filters by an empty
list, any other one filters texts and JSON values by the commas between the values, and a property
of another kind cannot be read. -/
theorem Descriptor.ofRequest_blank_values {c : Catalogue} {type : TargetType} {t : Table}
    {pairs : List (String × String)} {name : String} {p : Property}
    (ht : c.table type = .ok t) (hkey : Request.isReserved name = false)
    (hp : t.property? name = some p)
    (hblank : ∀ raw ∈ Request.texts name pairs, Text.isBlankText raw = true) :
    ((∀ d, (ofRequest c type pairs).outcome = .ok d ↔
        (ofRequest c type (Request.without name pairs)).outcome = .ok d) ↔
      (Request.texts name pairs).length ≤ 1 ∨
        ∃ e, (ofRequest c type (Request.without name pairs)).outcome = .error e) ∧
    ((Request.texts name pairs).length ≤ 1 →
      (ofRequest c type pairs).outcome
        = (ofRequest c type (Request.without name pairs)).outcome) ∧
    (1 < (Request.texts name pairs).length →
      ∀ d, (ofRequest c type (Request.without name pairs)).outcome = .ok d →
        ∃ declared,
          List.Forall₂ (Request.Declares t) (Request.texts "filter" pairs) declared ∧
          (∀ v, Request.blankOperand p (Request.operatorOf declared name)
              (Request.joined pairs name) = .ok v →
            ∃ front back, d.filters = front ++ back ∧
              Request.filtered t pairs
                = front.map PropertyFilter.property ++ name :: back.map PropertyFilter.property ∧
              (ofRequest c type pairs).outcome = .ok
                { d with filters :=
                    front ++ ⟨p.name, p.column, Request.operatorOf declared name, v⟩ :: back }) ∧
          ∀ e, Request.blankOperand p (Request.operatorOf declared name)
              (Request.joined pairs name) = .error e →
            (ofRequest c type pairs).outcome = .error (.request e)) := by
  have herror (ps : List (String × String)) : (∃ e, (ofRequest c type ps).outcome = .error e) ↔
      ∃ e, (Request.readAll t ps).outcome = .error e := by
    rw [outcome_ofRequest ht]
    cases (Request.readAll t ps).outcome <;> simp [Except.mapError]
  refine ⟨?_, fun hlength => ?_, fun hlength d hd => ?_⟩
  · rw [herror]
    simp only [outcome_ofRequest_eq_ok ht]
    exact Request.readAll_blank_iff hkey hp hblank
  · rw [outcome_ofRequest ht, outcome_ofRequest ht,
      Request.readAll_blank_value hkey hp hblank hlength]
  · rw [outcome_ofRequest_eq_ok ht] at hd
    obtain ⟨declared, hdeclared, hread, hunread⟩ :=
      Request.readAll_blank_values hkey hp hblank hlength hd
    refine ⟨declared, hdeclared, fun v hv => ?_, fun e he => ?_⟩
    · simp only [outcome_ofRequest_eq_ok ht]
      exact hread v hv
    · rw [outcome_ofRequest ht, hunread e he]
      rfl

/-- Two blank values of a property filter by the comma between them, at the place of the first. -/
theorem Descriptor.ofRequest_blank_values_comma :
    ∃ (c : Catalogue) (t : Table) (pairs : List (String × String)),
      c.table "Person" = .ok t ∧ Request.isReserved "name" = false ∧
      pairs = [("name", " "), ("age", "7"), ("name", ""), ("size", "5")] ∧
      (∀ raw ∈ Request.texts "name" pairs, Text.isBlankText raw = true) ∧
      (ofRequest c "Person" pairs).outcome = .ok
        { size := some 5
          filters := [⟨"name", "full_name", "equals", .text " ,"⟩,
            ⟨"age", "age", "equals", .integer 7⟩] } := by
  let t : Table := ⟨"Person", none, [⟨"name", "full_name", .text⟩, ⟨"age", "age", .integer⟩]⟩
  let c : Catalogue := Catalogue.empty.insert "Person" t
  let pairs : List (String × String) :=
    [("name", " "), ("age", "7"), ("name", ""), ("size", "5")]
  have ht : c.table "Person" = .ok t := rfl
  have hp : t.property? "name" = some ⟨"name", "full_name", .text⟩ := rfl
  have htexts : Request.texts "name" pairs = [" ", ""] := rfl
  have hfiltered : Request.filtered t pairs = ["name", "age"] := by decide
  have hblank : ∀ raw ∈ Request.texts "name" pairs, Text.isBlankText raw = true := by
    rw [htexts]
    decide
  have hlength : 1 < (Request.texts "name" pairs).length := Nat.lt_succ_self 1
  have hrest : (ofRequest c "Person" (Request.without "name" pairs)).outcome = .ok
      { size := some 5
        filters := [⟨"age", "age", "equals", .integer 7⟩] } := rfl
  obtain ⟨declared, hdeclared, hread, -⟩ :=
    (ofRequest_blank_values ht (by decide) hp hblank).2.2 hlength _ hrest
  obtain rfl := List.forall₂_nil_left_iff.1 hdeclared
  obtain ⟨front, back, hfilters, hplace, hboth⟩ := hread (.text " ,") rfl
  refine ⟨c, t, pairs, ht, by decide, rfl, hblank, ?_⟩
  cases front with
  | nil =>
    rw [List.nil_append] at hfilters
    rw [hboth, ← hfilters]
    rfl
  | cons f front =>
    -- the first filter would be one on `age`, but `name` comes first
    have hage : f.property = "age" :=
      congrArg PropertyFilter.property (List.cons.inj hfilters).1.symm
    rw [hfiltered] at hplace
    have hname : "name" = f.property := (List.cons.inj hplace).1
    rw [hage] at hname
    exact absurd hname (by decide)

/-- Two empty values for the operator for lists filter by an empty list, which nothing is in. -/
theorem Descriptor.ofRequest_blank_values_list :
    ∃ (c : Catalogue) (t : Table) (p : Property) (pairs : List (String × String)),
      c.table "Person" = .ok t ∧ Request.isReserved "age" = false ∧
      t.property? "age" = some p ∧
      pairs = [("filter", "age,in"), ("age", ""), ("age", "")] ∧
      (∀ raw ∈ Request.texts "age" pairs, Text.isBlankText raw = true) ∧
      (ofRequest c "Person" pairs).outcome
        = .ok { filters := [⟨"age", "age", "in", .list []⟩] } ∧
      (ofRequest c "Person" (Request.without "age" pairs)).outcome = .ok {} := by
  let t : Table := ⟨"Person", none, [⟨"name", "full_name", .text⟩, ⟨"age", "age", .integer⟩]⟩
  let c : Catalogue := Catalogue.empty.insert "Person" t
  have htexts : Request.texts "age" [("filter", "age,in"), ("age", ""), ("age", "")] = ["", ""] :=
    rfl
  refine ⟨c, t, _, _, rfl, rfl, rfl, rfl, ?_, rfl, rfl⟩
  rw [htexts]
  decide

end TableQuery
