import TableQuery.Proofs.Kind.Texts
import TableQuery.Proofs.Plan.Lists
import TableQuery.Proofs.Request.Blanks
import TableQuery.Proofs.Statement.Separators

/-!
# Lists in requests

A list of values is sent in pieces.  Its items are written one after the other with commas between
them, in as many pairs as one likes; what is read joins the pairs by commas, so the cuts between the
pairs leave no trace.

* `Text.splitAll_intercalate`, `Text.intercalate_flatten` — texts between commas are found again, and
  commas between groups are commas between their items;
* `Request.Writes` — how one value is written, and `Request.SendsList` — pairs that send a list;
* `Request.items_intercalate`, `Request.operatorOf_of_split` — the items and the operator that are
  read;
* `Request.SendsList.readAll` — the filter that is made;
* `Descriptor.ofRequest_list` — from the pairs to the bound statements.
-/

namespace TableQuery

open Outcome

/-! ## Commas between texts -/

namespace Text

theorem pieces_eq_splitOn (sep : Char) (cs : List Char) : pieces sep cs = cs.splitOn sep := by
  induction cs with
  | nil => rfl
  | cons c cs ih =>
    rw [pieces, ih, List.splitOn_cons_eq_if_modifyHead]
    by_cases hc : c = sep
    · rw [if_pos hc, if_pos (beq_iff_eq.2 hc)]
    · rw [if_neg hc, if_neg (mt beq_iff_eq.1 hc)]
      cases hpieces : cs.splitOn sep with
      | nil => exact absurd hpieces (List.splitOn_ne_nil sep cs)
      | cons piece rest => rfl

/-- **Texts without commas** are found again between the commas that are put between them. -/
theorem splitAll_intercalate {items : List String} (h : ∀ item ∈ items, ',' ∉ item.toList)
    (hne : items ≠ []) : splitAll ',' (",".intercalate items) = items := by
  have hlists : ∀ cs ∈ items.map String.toList, ',' ∉ cs := List.forall_mem_map.2 h
  have hcomma : ",".toList = [','] := rfl
  rw [splitAll, String.toList_intercalate, hcomma, pieces_eq_splitOn,
    List.splitOn_intercalate ',' hlists (mt List.map_eq_nil_iff.1 hne), List.map_map]
  exact List.map_id'' (fun item => String.ofList_toList) items

/-- Commas between groups are commas between their items, if no group is empty. -/
theorem intercalate_flatten {sep : String} {groups : List (List String)}
    (h : ∀ group ∈ groups, group ≠ []) :
    sep.intercalate (groups.map fun group => sep.intercalate group)
      = sep.intercalate groups.flatten := by
  induction groups with
  | nil => rfl
  | cons group groups ih =>
    rw [List.forall_mem_cons] at h
    cases groups with
    | nil => rw [List.map_singleton, String.intercalate_singleton, List.flatten_singleton]
    | cons group' groups =>
      have hrest : (group' :: groups).flatten ≠ [] :=
        List.flatten_ne_nil_iff.2 ⟨group', List.mem_cons_self, h.2 group' List.mem_cons_self⟩
      rw [List.flatten_cons, String.intercalate_append_of_ne_nil h.1 hrest, ← ih h.2, List.map_cons,
        List.map_cons, String.intercalate_cons_cons]

end Text

namespace Request

variable {t : Table} {p : Property} {kind : Kind} {item name : String} {v : Value}
  {vs : List Value} {items : List String} {pairs declared : List (String × String)}

/-! ## Written values -/

/-- How a value is written in a list: an integer in its digits, and a text, which is not blank and
has no comma in it, as it is. -/
inductive Writes : Kind → String → Value → Prop where
  | integer (i : Int64) : Writes .integer (toString i.toInt) (.integer i)
  | text {s : String} (hblank : Text.isBlankText s = false) (hcomma : ',' ∉ s.toList) :
      Writes .text s (.text s)

theorem integerIn_toString (i : Int64) : Kind.integerIn (toString i.toInt) = some i := by
  rw [Kind.integerIn, Text.trim_of_forall_not Kind.isBlank_of_numeral, Decimal.readInt64_toString]

namespace Writes

theorem read (h : Writes kind item v) : kind.read item = .ok v := by
  cases h with
  | integer i => exact Kind.read_integer_of_integerIn (integerIn_toString i)
  | text => rfl

theorem isBlankText (h : Writes kind item v) : Text.isBlankText item = false := by
  cases h with
  | integer i =>
    cases hblank : Text.isBlankText (toString i.toInt) with
    | false => rfl
    | true =>
      have hread := integerIn_toString i
      rw [Kind.integerIn, Text.trim_eq_empty_iff.2 hblank] at hread
      cases hread
  | text hblank => exact hblank

theorem comma_not_mem (h : Writes kind item v) : ',' ∉ item.toList := by
  cases h with
  | integer i =>
    intro hcomma
    rcases Decimal.numeral_chars hcomma with hdigit | heq
    · cases hdigit
    · cases heq
  | text _ hcomma => exact hcomma

end Writes

/-! ## Items -/

section

variable (h : List.Forall₂ (Writes kind) items vs)

include h

theorem writes_of_mem : ∀ item ∈ items, ∃ v, Writes kind item v :=
  fun _ hitem => exists_of_forall₂ h hitem

/-- The items of a list are found again. -/
theorem items_intercalate (hne : items ≠ []) : Request.items (",".intercalate items) = items := by
  have hcommas : ∀ item ∈ items, ',' ∉ item.toList := fun item hitem =>
    (writes_of_mem h item hitem).elim fun _ hv => hv.comma_not_mem
  rw [Request.items, Text.splitAll_intercalate hcommas hne, List.filter_eq_self]
  intro item hitem
  obtain ⟨v, hv⟩ := writes_of_mem h item hitem
  rw [hv.isBlankText]
  rfl

/-- A list with an item is not blank. -/
theorem isBlankText_intercalate (hne : items ≠ []) :
    Text.isBlankText (",".intercalate items) = false := by
  cases hblank : Text.isBlankText (",".intercalate items) with
  | false => rfl
  | true =>
    have hnone : Request.items (",".intercalate items) = [] :=
      Text.items_of_blank_or_comma fun c hc => .inl (List.all_eq_true.1 hblank c hc)
    rw [items_intercalate h hne] at hnone
    exact absurd hnone hne

end

/-! ## Operators -/

/-- A declaration counts from then on. -/
theorem operatorOf_concat (declared : List (String × String)) (o : String × String) :
    operatorOf (declared ++ [o]) name = if name = o.1 then o.2 else operatorOf declared name := by
  rw [operatorOf, List.reverse_append, List.reverse_singleton, List.singleton_append,
    Keyed.lookup_cons_eq_ite]
  split
  · rfl
  · rfl

/-- An operator that has been declared stays, unless another one is declared behind it. -/
theorem operatorOf_of_split {before after : List (String × String)} {operation : String}
    (hafter : ∀ o, (name, o) ∈ after → o = operation) :
    operatorOf (before ++ (name, operation) :: after) name = operation := by
  induction after using List.reverseRecOn with
  | nil => rw [operatorOf_concat, if_pos rfl]
  | append_singleton after o ih =>
    rw [← List.cons_append, ← List.append_assoc, operatorOf_concat]
    split
    next hname => exact hafter o.2 (List.mem_append_right _ (hname ▸ List.mem_singleton_self o))
    next => exact ih fun o ho => hafter o (List.mem_append_left _ ho)

theorem isBlank_of_isPart {c : Char} (h : Identifier.isPart c = true) : Text.isBlank c = false := by
  cases hblank : Text.isBlank c with
  | false => rfl
  | true =>
    rw [Lexical.not_isPart_of_separator (Lexical.isSeparator_of_isBlank hblank)] at h
    cases h

/-- The name of a property and an operator declare the operator for it. -/
theorem declares_list (hp : t.property? p.name = some p) (hname : isIdentifier p.name = true) :
    Declares t (p.name ++ ",in") (p.name, "in") := by
  have hparts := Lexical.isPart_of_identifierText hname
  have htrim : Text.trim p.name = p.name :=
    Text.trim_of_forall_not fun c hc => isBlank_of_isPart (hparts c hc)
  have hcomma : ',' ∉ p.name.toList := fun hc => absurd (hparts _ hc) (by decide)
  have hsplit : Text.split? ',' (p.name ++ ",in") = some (p.name, "in") := by
    rw [Text.split?, String.toList_append, show ",in".toList = ',' :: "in".toList from rfl,
      Text.cutAt_of_not_mem hcomma]
    show some (String.ofList p.name.toList, String.ofList "in".toList) = some (p.name, "in")
    rw [String.ofList_toList, String.ofList_toList]
  have hpair : Declares t (p.name ++ ",in") (p.name, Text.trim "in") :=
    .pair hsplit rfl (htrim.symm ▸ hp)
  exact hpair

/-! ## Pairs that send a list -/

/-- **Pairs that send a list** of values for a property.  The items stand in groups, none of them
empty, and each group is the value of one pair; a pair declares the operator for lists, and no pair
behind it declares another one for the property. -/
structure SendsList (t : Table) (p : Property) (vs : List Value) (pairs : List (String × String)) :
    Prop where
  items : ∃ groups : List (List String), groups ≠ [] ∧ (∀ group ∈ groups, group ≠ []) ∧
    texts p.name pairs = groups.map (fun group => ",".intercalate group) ∧
    List.Forall₂ (Writes p.kind) groups.flatten vs
  operator : ∃ before after, pairs = before ++ ("filter", p.name ++ ",in") :: after ∧
    ∀ raw, ("filter", raw) ∈ after → ∀ operation, Declares t raw (p.name, operation) →
      operation = "in"

theorem texts_append (key : String) (before after : List (String × String)) :
    texts key (before ++ after) = texts key before ++ texts key after := by
  rw [texts, List.filter_append, List.map_append]
  rfl

namespace SendsList

variable (h : SendsList t p vs pairs)

include h

/-- The pairs join to the list, however it is cut. -/
theorem exists_items : ∃ items : List String, items ≠ [] ∧
    joined pairs p.name = ",".intercalate items ∧ List.Forall₂ (Writes p.kind) items vs := by
  obtain ⟨groups, hne, hgroups, htexts, hwrites⟩ := h.items
  refine ⟨groups.flatten, ?_, ?_, hwrites⟩
  · obtain ⟨group, hgroup⟩ := List.exists_mem_of_ne_nil groups hne
    exact List.flatten_ne_nil_iff.2 ⟨group, hgroup, hgroups group hgroup⟩
  · rw [joined, htexts, Text.intercalate_flatten hgroups]

variable (hp : t.property? p.name = some p) (hname : isIdentifier p.name = true)

include hp hname

/-- The operator that is read is the one for lists. -/
theorem operatorOf_eq (hdeclared : List.Forall₂ (Declares t) (texts "filter" pairs) declared) :
    operatorOf declared p.name = "in" := by
  obtain ⟨before, after, rfl, hafter⟩ := h.operator
  have htexts : texts "filter" (("filter", p.name ++ ",in") :: after)
      = (p.name ++ ",in") :: texts "filter" after := rfl
  rw [texts_append, htexts, forall₂_append_left_iff] at hdeclared
  obtain ⟨front, rest, -, hrest, rfl⟩ := hdeclared
  obtain ⟨o, back, ho, hback, rfl⟩ := List.forall₂_cons_left_iff.1 hrest
  obtain rfl := rightUnique_declares (declares_list hp hname) ho
  refine operatorOf_of_split fun operation hoperation => ?_
  obtain ⟨raw, hraw, hdeclares⟩ := exists_mem_of_forall₂ hback.flip hoperation
  obtain ⟨⟨key, raw⟩, hpair, rfl⟩ := List.mem_map.1 hraw
  obtain ⟨hmem, hkey⟩ := List.mem_filter.1 hpair
  obtain rfl : key = "filter" := of_decide_eq_true hkey
  exact hafter raw hmem operation hdeclares

/-- The values of the pairs make the filter on the list. -/
theorem makesFilter (hdeclared : List.Forall₂ (Declares t) (texts "filter" pairs) declared) :
    MakesFilter t declared pairs p.name ⟨p.name, p.column, "in", .list vs⟩ := by
  obtain ⟨items, hne, hjoined, hwrites⟩ := h.exists_items
  have hread : List.Forall₂ (fun item v => p.kind.read item = .ok v)
      (Request.items (joined pairs p.name)) vs := by
    rw [hjoined, items_intercalate hwrites hne]
    exact hwrites.imp fun _ _ hv => hv.read
  have hoperator := h.operatorOf_eq hp hname hdeclared
  have hmakes : MakesFilter t declared pairs p.name
      ⟨p.name, p.column, operatorOf declared p.name, .list vs⟩ := .mk hp (.list hoperator hread)
  rw [hoperator] at hmakes
  exact hmakes

omit hname in
theorem mem_filtered (hkey : isReserved p.name = false) : p.name ∈ filtered t pairs := by
  obtain ⟨items, hne, hjoined, hwrites⟩ := h.exists_items
  rw [mem_filtered_iff hkey hp, hjoined]
  exact isBlankText_intercalate hwrites hne

/-- **A list is read** as one filter on its property, among those of the other pairs. -/
theorem readAll (hkey : isReserved p.name = false) {d : Descriptor}
    (hd : (Request.readAll t (without p.name pairs)).outcome = .ok d) :
    ∃ front back, d.filters = front ++ back ∧
      filtered t pairs
        = front.map PropertyFilter.property ++ p.name :: back.map PropertyFilter.property ∧
      (∀ f ∈ front ++ back, f.property ≠ p.name) ∧
      (Request.readAll t pairs).outcome
        = .ok { d with filters := front ++ ⟨p.name, p.column, "in", .list vs⟩ :: back } := by
  have hdescribes := readAll_eq_ok_iff.1 hd
  obtain ⟨declared, hdeclared, -⟩ := hdescribes.filters
  rw [texts_without (ne_of_isReserved hkey (by decide))] at hdeclared
  obtain ⟨front, back, hfilters, hnames, hboth⟩ := hdescribes.insert hkey (h.mem_filtered hp hkey)
    hdeclared (h.makesFilter hp hname hdeclared)
  refine ⟨front, back, hfilters, hnames, ?_, readAll_eq_ok_iff.2 hboth⟩
  -- the property stands once among those that make filters
  have hnodup : (filtered t pairs).Nodup := (nodup_eraseDups _).filter _
  rw [hnames, List.nodup_middle, List.nodup_cons, ← List.map_append] at hnodup
  intro f hf heq
  exact hnodup.1 (heq ▸ List.mem_map_of_mem hf)

end SendsList

end Request

namespace Descriptor

/-- **A list survives its way through a request.**  A list of integers or of texts that pairs send for
a property, cut into groups as one likes, is read as one filter, the only one on the property, whose
value is the list in its order; the rest of the request is read as it is without the list.  A plan is
made of both just if the operators of the other filters are known and no further value has the name of
a column.  Where the base query is live, both statements have one placeholder for each value of the
list in the brackets of its condition, and the value stands at the position of this number; where the
base query leaves something open, they bind no value of the list. -/
theorem ofRequest_list {folder : Folder} {registrations : List Registration} {c : Catalogue}
    {type : TargetType} {t : Table} {p : Property} {vs : List Value}
    {pairs : List (String × String)} {d : Descriptor}
    (hc : (Catalogue.build folder registrations).outcome = .ok c)
    (ht : c.table type = .ok t) (hp : p ∈ t.properties)
    (hkey : Request.isReserved p.name = false) (hsends : Request.SendsList t p vs pairs)
    (hrest : (ofRequest c type (Request.without p.name pairs)).outcome = .ok d) :
    ∃ front back, d.filters = front ++ back ∧
      Request.filtered t pairs
        = front.map PropertyFilter.property ++ p.name :: back.map PropertyFilter.property ∧
      (∀ f ∈ front ++ back, f.property ≠ p.name) ∧
      ∃ d' : Descriptor,
        d' = { d with filters := front ++ ⟨p.name, p.column, "in", .list vs⟩ :: back } ∧
        (ofRequest c type pairs).outcome = .ok d' ∧
        ∀ (cap : Option UInt64) (base : String) (extra : Parameters),
          ((∃ plan, Plan.build .builtin cap d' base extra = .ok plan) ↔
            (∀ f ∈ front ++ back, Registry.builtin.contains f.operation = true) ∧
              ∀ f ∈ d'.filters, extra.contains f.column = false) ∧
          ∀ plan, Plan.build .builtin cap d' base extra = .ok plan →
            ∃ before behind : List Condition, Conditions .builtin front before ∧
              Conditions .builtin back behind ∧ ∀ dialect : Dialect,
                plan.BindsList dialect base before p.column vs behind (orderText d'.orders)
                  (windowText (d'.windowCapped cap)) := by
  have hconsistent : Table.Consistent t.properties := Catalogue.consistent_of_build hc ht
  have hproperty : t.property? p.name = some p :=
    (Table.property?_eq_some_iff hconsistent).2 ⟨hp, rfl⟩
  have hread := (outcome_ofRequest_eq_ok ht).1 hrest
  obtain ⟨front, back, hfilters, hplace, hothers, hboth⟩ :=
    hsends.readAll hproperty (hconsistent.names p hp) hkey hread
  have hfits : Fits t _ := fits_of_readAll hconsistent hboth
  refine ⟨front, back, hfilters, hplace, hothers, _, rfl, (outcome_ofRequest_eq_ok ht).2 hboth,
    fun cap base extra => ⟨?_, fun plan hplan => Plan.bind_list hplan rfl⟩⟩
  rw [Plan.exists_build_iff, hfits.accepts_iff hconsistent]
  constructor
  · intro hall
    refine ⟨fun f hf => ?_, fun f hf => (hall f hf).2⟩
    exact (hall f (List.perm_middle.mem_iff.2 (List.mem_cons_of_mem _ hf))).1
  · rintro ⟨hknown, hfree⟩ f hf
    refine ⟨?_, hfree f hf⟩
    rcases List.mem_cons.1 (List.perm_middle.mem_iff.1 hf) with rfl | hother
    · rfl
    · exact hknown f hother

/-- Three integers in two pairs, with the operator between them, behind a value of the base query. -/
theorem ofRequest_list_groups :
    ∃ (folder : Folder) (registrations : List Registration) (c : Catalogue) (t : Table)
      (pairs : List (String × String)) (d : Descriptor) (plan : Plan),
      (Catalogue.build folder registrations).outcome = .ok c ∧ c.table "Item" = .ok t ∧
      pairs = [("itemId", "-9223372036854775808,7"), ("size", "5"), ("filter", "itemId,in"),
        ("itemId", "8")] ∧
      Request.SendsList t ⟨"itemId", "item_id", .integer⟩
        [.integer Int64.minValue, .integer 7, .integer 8] pairs ∧
      (ofRequest c "Item" pairs).outcome = .ok d ∧
      Plan.build .builtin none d "SELECT * FROM sales WHERE store = :store"
        (Keyed.empty.insert "store" (.text "A")) = .ok plan ∧
      Dialect.sqlite.bind plan.data plan.parameters
        = .ok ⟨"SELECT * FROM (SELECT * FROM sales WHERE store = ?1) AS scope WHERE 1 = 1" ++
            " AND item_id IN (?2, ?3, ?4)",
          [.text "A", .integer Int64.minValue, .integer 7, .integer 8]⟩ := by
  let folder : Folder := ⟨"queries", ⟨[], []⟩⟩
  let properties : List Property := [⟨"itemId", "item_id", .integer⟩]
  let t : Table := ⟨"Item", none, properties⟩
  let c : Catalogue := Catalogue.empty.insert "Item" t
  let pairs : List (String × String) :=
    [("itemId", "-9223372036854775808,7"), ("size", "5"), ("filter", "itemId,in"), ("itemId", "8")]
  have hc : (Catalogue.build folder [⟨"Item", ⟨none, properties⟩⟩]).outcome = .ok c := rfl
  have ht : c.table "Item" = .ok t := rfl
  have hsends : Request.SendsList t ⟨"itemId", "item_id", .integer⟩
      [.integer Int64.minValue, .integer 7, .integer 8] pairs := by
    refine ⟨⟨[["-9223372036854775808", "7"], ["8"]], by decide, by decide, rfl, ?_⟩,
      [("itemId", "-9223372036854775808,7"), ("size", "5")], [("itemId", "8")], rfl, ?_⟩
    · exact .cons (.integer Int64.minValue) (.cons (.integer 7) (.cons (.integer 8) .nil))
    · intro raw hraw
      have hkey : "filter" = "itemId" := congrArg Prod.fst (List.mem_singleton.1 hraw)
      exact absurd hkey (by decide)
  have hrest : (ofRequest c "Item" (Request.without "itemId" pairs)).outcome
      = .ok { size := some 5 } := rfl
  obtain ⟨front, back, hfilters, -, -, d, rfl, hd, hplans⟩ :=
    ofRequest_list hc ht List.mem_cons_self rfl hsends hrest
  obtain ⟨rfl, rfl⟩ := List.append_eq_nil_iff.1 hfilters.symm
  have hplan : Plan.build .builtin none
      { size := some 5
        filters := [⟨"itemId", "item_id", "in",
          .list [.integer Int64.minValue, .integer 7, .integer 8]⟩] }
      "SELECT * FROM sales WHERE store = :store" (Keyed.empty.insert "store" (.text "A"))
    = .ok _ := rfl
  obtain ⟨-, hbinds⟩ := hplans none "SELECT * FROM sales WHERE store = :store"
    (Keyed.empty.insert "store" (.text "A"))
  obtain ⟨before, behind, hbefore, hbehind, hbound⟩ := hbinds _ hplan
  obtain rfl := List.map_eq_nil_iff.1 hbefore.filters
  obtain rfl := List.map_eq_nil_iff.1 hbehind.filters
  refine ⟨folder, _, c, t, pairs, _, _, hc, ht, rfl, hsends, hd, hplan, ?_⟩
  exact ((hbound .sqlite).live rfl).1

/-- The same list behind a comment at the end of a base query: the line break that ends it is not in
the brackets, the condition is part of the comment, and nothing is bound. -/
theorem ofRequest_list_comment :
    ∃ (folder : Folder) (registrations : List Registration) (c : Catalogue) (t : Table)
      (pairs : List (String × String)) (d : Descriptor) (plan : Plan),
      (Catalogue.build folder registrations).outcome = .ok c ∧ c.table "Item" = .ok t ∧
      t.base = some "SELECT * FROM sales -- all\n;" ∧
      Request.SendsList t ⟨"itemId", "item_id", .integer⟩ [.integer 1, .integer 2] pairs ∧
      (ofRequest c "Item" pairs).outcome = .ok d ∧
      Plan.build .builtin none d "SELECT * FROM sales -- all\n;" .empty = .ok plan ∧
      Dialect.sqlite.bind plan.data plan.parameters
        = .ok ⟨"SELECT * FROM (SELECT * FROM sales -- all) AS scope WHERE 1 = 1" ++
            " AND item_id IN (:item_id)", []⟩ := by
  let folder : Folder := ⟨"queries", ⟨[], []⟩⟩
  let properties : List Property := [⟨"itemId", "item_id", .integer⟩]
  let t : Table := ⟨"Item", some "SELECT * FROM sales -- all\n;", properties⟩
  let c : Catalogue := Catalogue.empty.insert "Item" t
  let pairs : List (String × String) := [("filter", "itemId,in"), ("itemId", "1,2")]
  have hc : (Catalogue.build folder
      [⟨"Item", ⟨some "SELECT * FROM sales -- all\n;", properties⟩⟩]).outcome = .ok c := rfl
  have hsends : Request.SendsList t ⟨"itemId", "item_id", .integer⟩ [.integer 1, .integer 2]
      pairs := by
    refine ⟨⟨[["1", "2"]], by decide, by decide, rfl, ?_⟩, [], [("itemId", "1,2")], rfl, ?_⟩
    · exact .cons (.integer 1) (.cons (.integer 2) .nil)
    · intro raw hraw
      have hkey : "filter" = "itemId" := congrArg Prod.fst (List.mem_singleton.1 hraw)
      exact absurd hkey (by decide)
  have hd : (ofRequest c "Item" pairs).outcome = .ok _ := rfl
  exact ⟨folder, _, c, t, pairs, _, _, hc, rfl, rfl, hsends, hd, rfl, rfl⟩

end Descriptor

end TableQuery
