import TableQuery.Proofs.Request.Collected

/-!
# What a request means

A request is read in one pass over its pairs and a second one over the values that these left.  What
it means is said here without passes: which texts of a key count, what they ask for, and which
property makes which filter.

* `Request.Describes` — the description that pairs mean;
* `Request.Unread` — the error that a request ends with;
* `Request.readAll_eq_ok_iff` — a request that is read is read as what it means;
* `Descriptor.ofRequest_described` — each outcome of a request, and when it has none.
-/

namespace TableQuery

open Outcome

namespace Request

variable {t : Table} {pairs : List (String × String)} {changes : List Change}
  {declared : List (String × String)} {name : String}

/-! ## Meanings -/

/-- The properties whose joined values are not blank; these make filters. -/
def filtered (t : Table) (pairs : List (String × String)) : List String :=
  (valued t pairs).filter fun name => !Text.isBlankText (joined pairs name)

/-- The filter that the joined values of a property make. -/
inductive MakesFilter (t : Table) (declared pairs : List (String × String)) (name : String) :
    PropertyFilter → Prop where
  | mk {p v} (hp : t.property? name = some p)
      (hv : Operand p (operatorOf declared name) (joined pairs name) v) :
      MakesFilter t declared pairs name ⟨p.name, p.column, operatorOf declared name, v⟩

/-- What is wrong with the joined values of a property. -/
inductive NoFilter (t : Table) (declared pairs : List (String × String)) (name : String) :
    RequestError → Prop where
  | mk {p e} (hp : t.property? name = some p)
      (h : Unreadable p (operatorOf declared name) (joined pairs name) e) :
      NoFilter t declared pairs name e

/-- **What pairs mean.**  The last page and the last size count; the orders are put together one
after the other, and a blank one is left out; each property with values that are not blank makes a
filter, with the last operator that is declared for it. -/
structure Describes (t : Table) (pairs : List (String × String)) (d : Descriptor) : Prop where
  page : ∃ ns, List.Forall₂ WritesCount (texts "page" pairs) ns ∧
    d.page = ns.getLast?
  size : ∃ ns, List.Forall₂ WritesCount (texts "size" pairs) ns ∧
    d.size = ns.getLast?
  orders : ∃ asked, List.Forall₂ (AsksOrder t)
      ((texts "sort" pairs).filter fun raw => !Text.isBlankText raw) asked ∧
    d.orders = (asked.foldl (fun d o => d.withOrder o.1 o.2) Descriptor.empty).orders
  filters : ∃ declared, List.Forall₂ (Declares t) (texts "filter" pairs) declared ∧
    List.Forall₂ (MakesFilter t declared pairs) (filtered t pairs) d.filters

/-- **What is wrong with a request** that is not read: the first pair that cannot be read, or, when
there is none, the first property whose values cannot be read. -/
inductive Unread (t : Table) (pairs : List (String × String)) : RequestError → Prop where
  | pair {before pair after e} (hpairs : pairs = before ++ pair :: after)
      (hbefore : ∀ b ∈ before, ∀ e, ¬Malformed t b e) (h : Malformed t pair e) : Unread t pairs e
  | value {declared before name after e} (hpairs : ∀ pair ∈ pairs, ∀ e, ¬Malformed t pair e)
      (hdeclared : List.Forall₂ (Declares t) (texts "filter" pairs) declared)
      (hnames : filtered t pairs = before ++ name :: after)
      (hbefore : ∀ b ∈ before, ∃ f, MakesFilter t declared pairs b f)
      (h : NoFilter t declared pairs name e) : Unread t pairs e

/-! ## Texts mean one thing -/

theorem rightUnique_writesCount : Relator.RightUnique WritesCount := by
  intro raw m n hm hn
  rw [← @readCount_eq_ok "page"] at hm hn
  exact Except.ok.inj (hm.symm.trans hn)

theorem rightUnique_namesDirection : Relator.RightUnique NamesDirection := by
  intro raw d d' h h'
  rw [← direction?_eq_some] at h h'
  exact Option.some.inj (h.symm.trans h')

theorem rightUnique_asksOrder : Relator.RightUnique (AsksOrder t) := by
  intro raw o o' h h'
  cases h with
  | plain hcomma hp =>
    cases h' with
    | plain _ hp' => rw [Option.some.inj (hp.symm.trans hp')]
    | directed hcomma' => rw [hcomma] at hcomma'; cases hcomma'
  | directed hcomma hdirection hp =>
    cases h' with
    | plain hcomma' => rw [hcomma] at hcomma'; cases hcomma'
    | directed hcomma' hdirection' hp' =>
      obtain ⟨rfl, rfl⟩ := Prod.mk.inj (Option.some.inj (hcomma.symm.trans hcomma'))
      rw [Option.some.inj (hp.symm.trans hp'), rightUnique_namesDirection hdirection hdirection']

theorem rightUnique_declares : Relator.RightUnique (Declares t) := by
  intro raw o o' h h'
  cases h with
  | pair hcomma hoperation hp =>
    cases h' with
    | pair hcomma' hoperation' hp' =>
      obtain ⟨rfl, rfl⟩ := Prod.mk.inj (Option.some.inj (hcomma.symm.trans hcomma'))
      rw [Option.some.inj (hp.symm.trans hp')]

/-! ## Pairs that are read -/

theorem exists_reads_iff :
    (∃ changes, pairs.mapM (readChange t) = .ok changes) ↔
      ∀ pair ∈ pairs, ∀ e, ¬Malformed t pair e := by
  rw [exists_mapM_eq_ok]
  refine forall₂_congr fun pair _ => ?_
  simp only [← readChange_eq_error]
  cases readChange t pair <;> simp

theorem forall₂_reads (h : pairs.mapM (readChange t) = .ok changes) :
    List.Forall₂ (Reads t) pairs changes :=
  (mapM_eq_ok.1 h).imp fun _ _ => readChange_eq_ok.1

theorem mem_texts {key raw : String} (h : (key, raw) ∈ pairs) : raw ∈ texts key pairs :=
  List.mem_map.2 ⟨(key, raw), List.mem_filter.2 ⟨h, by simp⟩, rfl⟩

/-- Pairs that mean something are well formed. -/
theorem Describes.not_malformed {d : Descriptor} (h : Describes t pairs d) :
    ∀ pair ∈ pairs, ∀ e, ¬Malformed t pair e := by
  intro pair hpair e hmalformed
  cases hmalformed with
  | page hcount =>
    obtain ⟨ns, hns, -⟩ := h.page
    obtain ⟨n, hn⟩ := exists_of_forall₂ hns (mem_texts hpair)
    exact hcount n hn
  | size hcount =>
    obtain ⟨ns, hns, -⟩ := h.size
    obtain ⟨n, hn⟩ := exists_of_forall₂ hns (mem_texts hpair)
    exact hcount n hn
  | @order raw e hblank hno =>
    obtain ⟨asked, hasked, -⟩ := h.orders
    have hmem : raw ∈ (texts "sort" pairs).filter fun raw => !Text.isBlankText raw :=
      List.mem_filter.2 ⟨mem_texts hpair, by rw [hblank]; rfl⟩
    obtain ⟨o, ho⟩ := exists_of_forall₂ hasked hmem
    obtain ⟨p, hp, -⟩ := readSort_eq_ok_some.2 ⟨hblank, ho⟩
    rw [readSort_eq_error.2 ⟨hblank, hno⟩] at hp
    cases hp
  | operator hno =>
    obtain ⟨declared, hdeclared, -⟩ := h.filters
    obtain ⟨o, ho⟩ := exists_of_forall₂ hdeclared (mem_texts hpair)
    obtain ⟨p, hp, -⟩ := readOperator_eq_ok.2 ho
    rw [readOperator_eq_error.2 hno] at hp
    cases hp

/-! ## Filters that are made -/

/-- The reader of the filter of a property, when the pairs have been read. -/
theorem filterOf_joined_eq_ok (h : Text.isBlankText (joined pairs name) = false)
    {f : PropertyFilter} :
    filterOf t (changes.foldl Draft.apply .blank).operators (name, joined pairs name)
        = .ok (some f) ↔ MakesFilter t (changes.filterMap Change.operator?) pairs name f := by
  rw [filterOf_eq_ok_some]
  simp only [lookup_operators, readOperand_eq_ok]
  constructor
  · rintro ⟨p, v, hp, -, hv, rfl⟩
    exact .mk hp hv
  · rintro ⟨hp, hv⟩
    exact ⟨_, _, hp, h, hv, rfl⟩

theorem filterOf_joined_eq_error (h : Text.isBlankText (joined pairs name) = false)
    {e : RequestError} :
    filterOf t (changes.foldl Draft.apply .blank).operators (name, joined pairs name)
        = .error e ↔ NoFilter t (changes.filterMap Change.operator?) pairs name e := by
  rw [filterOf]
  simp only [lookup_operators, h]
  constructor
  · intro he
    split at he
    next => cases he
    next p hp => exact .mk hp (readOperand_eq_error.1 (map_eq_error.1 he))
  · rintro ⟨hp, he⟩
    simp only [hp]
    exact map_eq_error.2 (readOperand_eq_error.2 he)

theorem property?_of_mem_valued (h : name ∈ valued t pairs) : (t.property? name).isSome = true := by
  have hkey := (List.mem_filter.1 (List.mem_eraseDups.1 h)).2
  exact (Bool.and_eq_true_iff.1 hkey).2

theorem isBlankText_of_mem_filtered (h : name ∈ filtered t pairs) :
    Text.isBlankText (joined pairs name) = false := by
  simpa using (List.mem_filter.1 h).2

/-- The values of a property count just if, joined, they are not blank. -/
theorem mem_filtered_iff {p : Property} (hkey : isReserved name = false)
    (hp : t.property? name = some p) :
    name ∈ filtered t pairs ↔ Text.isBlankText (joined pairs name) = false := by
  refine ⟨isBlankText_of_mem_filtered, fun hblank => ?_⟩
  have hmem : name ∈ pairs.map Prod.fst := by
    by_contra hnone
    rw [joined, texts_eq_nil_iff.2 hnone] at hblank
    cases hblank
  have hvalue : isValueKey t name = true := by rw [isValueKey, hkey, hp]; rfl
  refine List.mem_filter.2 ⟨List.mem_eraseDups.2 (List.mem_filter.2 ⟨hmem, hvalue⟩), ?_⟩
  rw [hblank]
  rfl

/-- A property with values that are not blank makes a filter, unless they cannot be read. -/
theorem filterOf_joined_ne_none (hname : name ∈ valued t pairs)
    (h : Text.isBlankText (joined pairs name) = false) (operators : List (String × String)) :
    filterOf t operators (name, joined pairs name) ≠ .ok none := by
  obtain ⟨p, hp⟩ := Option.isSome_iff_exists.1 (property?_of_mem_valued hname)
  intro hnone
  rw [filterOf] at hnone
  simp only [hp, h] at hnone
  obtain ⟨v, -, hv⟩ := map_eq_ok.1 hnone
  cases hv

/-- Blank values make no filter. -/
theorem filterOf_joined_of_blank (h : Text.isBlankText (joined pairs name) = true)
    (operators : List (String × String)) :
    filterOf t operators (name, joined pairs name) = .ok none := by
  rw [filterOf]
  cases t.property? name with
  | none => rfl
  | some p => simp only [h, if_true]

/-- A draft whose values are read: each property with values that are not blank is read once, and
the others make no filter. -/
theorem values_dropped (operators : List (String × String)) : ∀ name ∈ valued t pairs,
    (!Text.isBlankText (joined pairs name)) = false →
      filterOf t operators (name, joined pairs name) = .ok none :=
  fun name _ h => filterOf_joined_of_blank (by simpa using h) operators

/-- **The filters of the values of a draft** are made by the properties that make one. -/
theorem mapM_filterOf_eq_ok (h : List.Forall₂ (Reads t) pairs changes)
    {filters : List PropertyFilter} :
    (∃ fs, (changes.foldl Draft.apply .blank).values.mapM
        (filterOf t (changes.foldl Draft.apply .blank).operators) = .ok fs ∧
        fs.reduceOption = filters) ↔
      List.Forall₂ (MakesFilter t (changes.filterMap Change.operator?) pairs) (filtered t pairs)
        filters := by
  rw [values_of_forall₂ h]
  simp only [List.mapM_map, Function.comp_def]
  rw [mapM_reduceOption_eq_ok (values_dropped _)
    fun name hname hkept => filterOf_joined_ne_none hname (by simpa using hkept) _]
  exact forall₂_congr_of_mem fun name hname f =>
    filterOf_joined_eq_ok (isBlankText_of_mem_filtered hname)

/-- The values of a draft fail at the first property that should make a filter and does not. -/
theorem mapM_filterOf_eq_error (h : List.Forall₂ (Reads t) pairs changes) {e : RequestError} :
    (changes.foldl Draft.apply .blank).values.mapM
        (filterOf t (changes.foldl Draft.apply .blank).operators) = .error e ↔
      ∃ before name after, filtered t pairs = before ++ name :: after ∧
        (∀ b ∈ before, ∃ f, MakesFilter t (changes.filterMap Change.operator?) pairs b f) ∧
        NoFilter t (changes.filterMap Change.operator?) pairs name e := by
  rw [values_of_forall₂ h, mapM_eq_error, firstError_map,
    ← firstError_filter fun name hname hdropped => ⟨none, values_dropped _ name hname hdropped⟩]
  refine exists_congr fun before => exists_congr fun name => exists_congr fun after =>
    and_congr_right fun hnames => ?_
  have hmem : ∀ b ∈ before ++ name :: after, b ∈ filtered t pairs := by
    rw [filtered, hnames]
    exact fun b hb => hb
  have hname : name ∈ filtered t pairs :=
    hmem name (List.mem_append_right _ List.mem_cons_self)
  refine and_congr (forall₂_congr fun b hb => ?_)
    (filterOf_joined_eq_error (isBlankText_of_mem_filtered hname))
  have hb : b ∈ filtered t pairs := hmem b (List.mem_append_left _ hb)
  have hblank := isBlankText_of_mem_filtered hb
  constructor
  · rintro ⟨f, hf⟩
    cases f with
    | none => exact absurd hf (filterOf_joined_ne_none (List.mem_filter.1 hb).1 hblank _)
    | some f => exact ⟨f, (filterOf_joined_eq_ok hblank).1 hf⟩
  · rintro ⟨f, hf⟩
    exact ⟨some f, (filterOf_joined_eq_ok hblank).2 hf⟩

/-! ## Requests that are read -/

/-- What pairs mean, from the changes that they ask for. -/
theorem describes_iff (h : List.Forall₂ (Reads t) pairs changes) {d : Descriptor} :
    Describes t pairs d ↔ d.page = (changes.filterMap Change.page?).getLast? ∧
      d.size = (changes.filterMap Change.size?).getLast? ∧
      d.orders = ((changes.filterMap Change.order?).foldl (fun d o => d.withOrder o.1 o.2)
        Descriptor.empty).orders ∧
      List.Forall₂ (MakesFilter t (changes.filterMap Change.operator?) pairs) (filtered t pairs)
        d.filters := by
  constructor
  · intro hd
    obtain ⟨pages, hpages, hpage⟩ := hd.page
    obtain ⟨sizes, hsizes, hsize⟩ := hd.size
    obtain ⟨asked, hasked, horders⟩ := hd.orders
    obtain ⟨declared, hdeclared, hfilters⟩ := hd.filters
    rw [rightUnique_writesCount.forall₂ hpages (forall₂_page h)] at hpage
    rw [rightUnique_writesCount.forall₂ hsizes (forall₂_size h)] at hsize
    rw [rightUnique_asksOrder.forall₂ hasked (forall₂_order h)] at horders
    rw [rightUnique_declares.forall₂ hdeclared (forall₂_operator h)] at hfilters
    exact ⟨hpage, hsize, horders, hfilters⟩
  · rintro ⟨hpage, hsize, horders, hfilters⟩
    exact
      { page := ⟨_, forall₂_page h, hpage⟩
        size := ⟨_, forall₂_size h, hsize⟩
        orders := ⟨_, forall₂_order h, horders⟩
        filters := ⟨_, forall₂_operator h, hfilters⟩ }

/-- **A request that is read is read as what it means.** -/
theorem readAll_eq_ok_iff {d : Descriptor} :
    (readAll t pairs).outcome = .ok d ↔ Describes t pairs d := by
  rw [readAll_eq_ok_filters]
  constructor
  · rintro ⟨changes, _, filters, hchanges, rfl, hfilters, rfl⟩
    have hreads := forall₂_reads hchanges
    rw [describes_iff hreads, foldl_apply_blank]
    exact ⟨rfl, rfl, rfl, (mapM_filterOf_eq_ok hreads).1 ⟨filters, hfilters, rfl⟩⟩
  · intro hd
    obtain ⟨changes, hchanges⟩ := exists_reads_iff.2 hd.not_malformed
    have hreads := forall₂_reads hchanges
    obtain ⟨hpage, hsize, horders, hmakes⟩ := (describes_iff hreads).1 hd
    obtain ⟨filters, hfilters, hd⟩ := (mapM_filterOf_eq_ok hreads).2 hmakes
    refine ⟨changes, _, filters, hchanges, rfl, hfilters, ?_⟩
    rw [foldl_apply_blank]
    obtain ⟨page, size, made, orders⟩ := d
    cases hpage
    cases hsize
    cases horders
    cases hd
    rfl

/-- **A request that is not read** fails at the first pair that is not read, or else at the first
property whose values are not. -/
theorem readAll_eq_error_iff {e : RequestError} :
    (readAll t pairs).outcome = .error e ↔ Unread t pairs e := by
  rw [readAll_eq_error, mapM_eq_error]
  constructor
  · rintro (⟨before, pair, after, rfl, hbefore, he⟩ | ⟨changes, hchanges, he⟩)
    · refine .pair rfl (exists_reads_iff.1 ?_) (readChange_eq_error.1 he)
      exact exists_mapM_eq_ok.2 hbefore
    · have hreads := forall₂_reads hchanges
      rw [readFilters_eq, map_eq_error, mapM_filterOf_eq_error hreads] at he
      obtain ⟨before, name, after, hnames, hbefore, hno⟩ := he
      exact .value (exists_reads_iff.1 ⟨changes, hchanges⟩) (forall₂_operator hreads) hnames
        hbefore hno
  · intro h
    cases h with
    | @pair before pair after _ hpairs hbefore hmalformed =>
      refine .inl ⟨before, pair, after, hpairs, ?_, readChange_eq_error.2 hmalformed⟩
      exact exists_mapM_eq_ok.1 (exists_reads_iff.2 hbefore)
    | value hpairs hdeclared hnames hbefore hno =>
      obtain ⟨changes, hchanges⟩ := exists_reads_iff.2 hpairs
      have hreads := forall₂_reads hchanges
      obtain rfl := rightUnique_declares.forall₂ hdeclared (forall₂_operator hreads)
      refine .inr ⟨changes, hchanges, ?_⟩
      rw [readFilters_eq, map_eq_error, mapM_filterOf_eq_error hreads]
      exact ⟨_, _, _, hnames, hbefore, hno⟩

/-- A request is not read just if a pair or a value of it cannot be. -/
theorem exists_unread_iff :
    (∃ e, Unread t pairs e) ↔ (∃ pair ∈ pairs, ∃ e, Malformed t pair e) ∨
      ∃ declared, List.Forall₂ (Declares t) (texts "filter" pairs) declared ∧
        ∃ name ∈ filtered t pairs, ∃ e, NoFilter t declared pairs name e := by
  constructor
  · rintro ⟨e, h⟩
    cases h with
    | pair hpairs _ h => exact .inl ⟨_, hpairs ▸ List.mem_append_right _ List.mem_cons_self, _, h⟩
    | value _ hdeclared hnames _ h =>
      exact .inr ⟨_, hdeclared, _, hnames ▸ List.mem_append_right _ List.mem_cons_self, _, h⟩
  · intro h
    -- a request that were read would mean something
    cases houtcome : (readAll t pairs).outcome with
    | error e => exact ⟨e, readAll_eq_error_iff.1 houtcome⟩
    | ok d =>
      have hd := readAll_eq_ok_iff.1 houtcome
      rcases h with ⟨pair, hpair, e, he⟩ | ⟨declared, hdeclared, name, hname, e, he⟩
      · exact absurd he (hd.not_malformed pair hpair e)
      · obtain ⟨changes, hchanges⟩ := exists_reads_iff.2 hd.not_malformed
        have hreads := forall₂_reads hchanges
        obtain rfl := rightUnique_declares.forall₂ hdeclared (forall₂_operator hreads)
        obtain ⟨f, hf⟩ := exists_of_forall₂ ((describes_iff hreads).1 hd).2.2.2 hname
        have hblank := isBlankText_of_mem_filtered hname
        have hmade := (filterOf_joined_eq_ok hblank).2 hf
        rw [(filterOf_joined_eq_error hblank).2 he] at hmade
        cases hmade

end Request

/-! ## Requests for a type -/

/-- How a request for a type ends that is not read: the type has no table, or something is wrong
with the request. -/
inductive Descriptor.Unread (c : Catalogue) (type : TargetType) (pairs : List (String × String)) :
    Error → Prop where
  | table (h : c.isRegistered type = false) :
      Unread c type pairs (.configuration (.unregisteredType type.name))
  | request {t e} (ht : c.table type = .ok t) (h : Request.Unread t pairs e) :
      Unread c type pairs (.request e)

theorem Descriptor.ofRequest_eq_ok_iff {c : Catalogue} {type : TargetType}
    {pairs : List (String × String)} {d : Descriptor} :
    (ofRequest c type pairs).outcome = .ok d ↔
      ∃ t, c.table type = .ok t ∧ Request.Describes t pairs d := by
  cases ht : c.table type with
  | error e => simp [outcome_ofRequest_of_error ht]
  | ok t => simp [outcome_ofRequest_eq_ok ht, Request.readAll_eq_ok_iff]

theorem Descriptor.ofRequest_eq_error_iff {c : Catalogue} {type : TargetType}
    {pairs : List (String × String)} {e : Error} :
    (ofRequest c type pairs).outcome = .error e ↔ Unread c type pairs e := by
  cases ht : c.table type with
  | error e' =>
    obtain ⟨hregistered, rfl⟩ := Catalogue.table_eq_error.1 ht
    rw [outcome_ofRequest_of_error ht]
    constructor
    · rintro ⟨⟩
      exact .table hregistered
    · intro h
      cases h with
      | table => rfl
      | request ht' => rw [ht] at ht'; cases ht'
  | ok t =>
    rw [outcome_ofRequest ht, mapError_eq_error]
    simp only [Request.readAll_eq_error_iff]
    constructor
    · rintro ⟨e, he, rfl⟩
      exact .request ht he
    · intro h
      cases h with
      | table hregistered =>
        rw [Catalogue.table_eq_error.2 ⟨hregistered, rfl⟩] at ht
        cases ht
      | request ht' he =>
        obtain rfl := Except.ok.inj (ht.symm.trans ht')
        exact ⟨_, he, rfl⟩

/-- **What the parameters of a request mean.**  A request is read just as what its pairs mean; it
ends with an error just if this is the first thing wrong with it; and it ends with one just if the
type has no table, or some pair cannot be read, or the values of some property cannot. -/
theorem Descriptor.ofRequest_described (c : Catalogue) (type : TargetType)
    (pairs : List (String × String)) :
    (∀ d, (ofRequest c type pairs).outcome = .ok d ↔
      ∃ t, c.table type = .ok t ∧ Request.Describes t pairs d) ∧
    (∀ e, (ofRequest c type pairs).outcome = .error e ↔ Unread c type pairs e) ∧
    ((∃ e, (ofRequest c type pairs).outcome = .error e) ↔
      c.isRegistered type = false ∨ ∃ t, c.table type = .ok t ∧
        ((∃ pair ∈ pairs, ∃ e, Request.Malformed t pair e) ∨
          ∃ declared,
            List.Forall₂ (Request.Declares t) (Request.texts "filter" pairs) declared ∧
            ∃ name ∈ Request.filtered t pairs, ∃ e,
              Request.NoFilter t declared pairs name e)) := by
  refine ⟨fun d => ofRequest_eq_ok_iff, fun e => ofRequest_eq_error_iff, ?_⟩
  simp only [ofRequest_eq_error_iff, ← Request.exists_unread_iff]
  constructor
  · rintro ⟨e, h⟩
    cases h with
    | table hregistered => exact .inl hregistered
    | request ht h => exact .inr ⟨_, ht, _, h⟩
  · rintro (hregistered | ⟨t, ht, e, h⟩)
    · exact ⟨_, .table hregistered⟩
    · exact ⟨_, .request ht h⟩

set_option maxRecDepth 4000 in
/-- A request with blanks, plus signs, letter cases and empty items in its texts, and three that are
refused: a word that is no direction comes before a value in front of it, and a type without a table
before everything. -/
theorem Descriptor.ofRequest_described_mixed :
    ∃ (c : Catalogue) (t : Table) (pairs refused unread : List (String × String)) (d : Descriptor),
      t = ⟨"Sale", none, [⟨"name", "full_name", .text⟩, ⟨"qty", "quantity", .integer⟩]⟩ ∧
      c.table "Sale" = .ok t ∧
      pairs = [("page", "1"), ("qty", " 7"), ("sort", "qty"), ("filter", "qty,lt"), ("page", " +3 "),
        ("qty", ",-8, "), ("sort", " name , DESC "), ("name", "b"), ("filter", " qty , in "),
        ("size", "20"), ("sort", " "), ("sort", "qty,desc"), ("other", "x"), ("name", "c")] ∧
      d = { page := some 3, size := some 20
            orders := [("quantity", .descending), ("full_name", .descending)]
            filters := [⟨"qty", "quantity", "in", .list [.integer 7, .integer (-8)]⟩,
              ⟨"name", "full_name", "equals", .text "b,c"⟩] } ∧
      (ofRequest c "Sale" pairs).outcome = .ok d ∧ Request.Describes t pairs d ∧
      refused = [("qty", "x"), ("sort", "name, down "), ("page", "-1")] ∧
      (ofRequest c "Sale" refused).outcome = .error (.request (.unknownDirection "down")) ∧
      Request.Unread t refused (.unknownDirection "down") ∧
      unread = [("qty", "x"), ("filter", "qty,in"), ("qty", "y")] ∧
      (ofRequest c "Sale" unread).outcome = .error (.request (.unreadable "qty" ⟨.integer, "x"⟩)) ∧
      Request.Unread t unread (.unreadable "qty" ⟨.integer, "x"⟩) ∧
      (ofRequest c "Other" refused).outcome
        = .error (.configuration (.unregisteredType "Other")) := by
  let t : Table := ⟨"Sale", none, [⟨"name", "full_name", .text⟩, ⟨"qty", "quantity", .integer⟩]⟩
  let c : Catalogue := Catalogue.empty.insert "Sale" t
  have ht : c.table "Sale" = .ok t := rfl
  have hdescribes {pairs : List (String × String)} {d : Descriptor}
      (h : (ofRequest c "Sale" pairs).outcome = .ok d) : Request.Describes t pairs d := by
    obtain ⟨t', ht', hd⟩ := ((ofRequest_described c "Sale" pairs).1 d).1 h
    obtain rfl := Except.ok.inj (ht.symm.trans ht')
    exact hd
  have hunread {pairs : List (String × String)} {e : RequestError}
      (h : (ofRequest c "Sale" pairs).outcome = .error (.request e)) :
      Request.Unread t pairs e := by
    cases ((ofRequest_described c "Sale" pairs).2.1 _).1 h with
    | request ht' he =>
      obtain rfl := Except.ok.inj (ht.symm.trans ht')
      exact he
  refine ⟨c, t, _, _, _, _, rfl, ht, rfl, rfl, ?read, hdescribes ?read, rfl, ?refused,
    hunread ?refused, rfl, ?unread, hunread ?unread, ?other⟩
  all_goals rfl

end TableQuery
