import TableQuery.Proofs.Catalogue
import TableQuery.Proofs.Plan.Refusal
import TableQuery.Proofs.Request.Filters

/-!
# Requests that can be planned

A request that has been read asks for columns of its table and for nothing else.  These are
identifiers, and each of them has one filter at most: the values of a property stand under its name
until all pairs are read.  So a plan of such a request fails only at an operator that is not known,
or at a further value that has the name of a column.

* `Request.addKey` — keys with one more, none of which stands twice;
* `Request.Draft.Declared` — what the changes keep of a draft;
* `Descriptor.Fits`, `Descriptor.fits_of_readAll` — descriptions that ask for columns of a table;
* `Request.Unplanned` — what can still be wrong with the plan;
* `Descriptor.ofRequest_planned` — nothing else can.
-/

namespace TableQuery

open Outcome

namespace Request

/-! ## Keys that stand once -/

/-- Keys with one more, which stands last unless it stands among them already. -/
def addKey (key : String) (keys : List String) : List String :=
  if key ∈ keys then keys else keys ++ [key]

theorem mem_addKey {key name : String} {keys : List String} :
    name ∈ addKey key keys ↔ name = key ∨ name ∈ keys := by
  rw [addKey]
  split
  next hold =>
    constructor
    · exact .inr
    · rintro (rfl | hname)
      · exact hold
      · exact hname
  next => rw [List.mem_append, List.mem_singleton, or_comm]

theorem nodup_addKey {key : String} {keys : List String} (h : keys.Nodup) :
    (addKey key keys).Nodup := by
  rw [addKey]
  split
  next => exact h
  next hnew =>
    rw [← List.concat_eq_append]
    exact h.concat hnew

theorem addKey_cons {key k : String} (keys : List String) :
    addKey key (k :: keys) = if k = key then k :: keys else k :: addKey key keys := by
  by_cases hkey : k = key
  · simp [addKey, hkey]
  · have hne : ¬key = k := fun h => hkey h.symm
    simp only [addKey, List.mem_cons, hne, false_or, hkey, if_false]
    split <;> rfl

theorem map_fst_append (key raw : String) (entries : List (String × String)) :
    (append key raw entries).map Prod.fst = addKey key (entries.map Prod.fst) := by
  induction entries with
  | nil => rfl
  | cons e entries ih =>
    rw [append, List.map_cons, addKey_cons, ← ih]
    split <;> rfl

theorem map_fst_placeOrder (key : String) (direction : Direction)
    (orders : List (String × Direction)) :
    (Descriptor.placeOrder key direction orders).map Prod.fst
      = addKey key (orders.map Prod.fst) := by
  induction orders with
  | nil => rfl
  | cons o orders ih =>
    rw [Descriptor.placeOrder, List.map_cons, addKey_cons, ← ih]
    split <;> rfl

/-! ## Drafts of a table -/

variable {t : Table}

/-- An order is by a property of the table. -/
theorem property?_of_readSort {raw : String} {p : Property} {direction : Direction}
    (h : readSort t raw = .ok (some (p, direction))) : ∃ name, t.property? name = some p := by
  rw [readSort] at h
  by_cases hblank : Text.trim raw = ""
  · simp [hblank] at h
  · simp only [hblank, if_false] at h
    cases hsplit : Text.split? ',' (Text.trim raw) with
    | none =>
      simp only [hsplit, bind, Except.bind] at h
      split at h
      next q hq =>
        cases h
        exact ⟨_, hq⟩
      next => cases h
    | some parts =>
      cases hdirection : Direction.read? parts.2 with
      | none => simp [hsplit, hdirection, bind, Except.bind] at h
      | some direction' =>
        simp only [hsplit, hdirection, bind, Except.bind] at h
        split at h
        next q hq =>
          cases h
          exact ⟨_, hq⟩
        next => cases h

/-- What the changes keep of a draft: it is ordered by columns of the table, and no property stands
twice among the values. -/
structure Draft.Declared (t : Table) (a : Draft) : Prop where
  orders : ∀ key ∈ a.descriptor.orders.map Prod.fst, key ∈ t.properties.map Property.column
  distinct : (a.values.map Prod.fst).Nodup

namespace Draft.Declared

/-- **One change** that a pair asks for. -/
theorem apply {a : Draft} (h : a.Declared t) {pair : String × String} {change : Change}
    (hchange : Reads t pair change) : (a.apply change).Declared t := by
  cases hchange with
  | page | size | operator | nothing => exact ⟨h.orders, h.distinct⟩
  | @order raw asked hasked =>
    cases asked with
    | none => exact h
    | some asked =>
      obtain ⟨p, direction⟩ := asked
      refine ⟨fun key hkey => ?_, h.distinct⟩
      have hkey : key ∈ (Descriptor.placeOrder p.column direction a.descriptor.orders).map
          Prod.fst := hkey
      rw [map_fst_placeOrder, mem_addKey] at hkey
      rcases hkey with rfl | hold
      · obtain ⟨name, hp⟩ := property?_of_readSort hasked
        exact List.mem_map_of_mem (Table.mem_of_property? hp).1
      · exact h.orders key hold
  | @value key raw p hkey hp =>
    refine ⟨h.orders, ?_⟩
    have hkeys : (append p.name raw a.values).map Prod.fst
        = addKey p.name (a.values.map Prod.fst) := map_fst_append p.name raw a.values
    exact hkeys ▸ nodup_addKey h.distinct

/-- All changes that pairs ask for. -/
theorem foldl {pairs : List (String × String)} {changes : List Change}
    (hchanges : pairs.mapM (readChange t) = .ok changes) {a : Draft} (h : a.Declared t) :
    (changes.foldl Draft.apply a).Declared t := by
  induction mapM_eq_ok.1 hchanges generalizing a with
  | nil => exact h
  | cons hchange hrest ih =>
    exact ih (mapM_eq_ok.2 hrest) (h.apply (readChange_eq_ok.1 hchange))

end Draft.Declared

/-! ## Filters of a table -/

/-- The filters are of properties that have values, in their order. -/
theorem properties_sublist {operators entries : List (String × String)}
    {filters : List (Option PropertyFilter)}
    (h : entries.mapM (filterOf t operators) = .ok filters) :
    (filters.reduceOption.map PropertyFilter.property).Sublist (entries.map Prod.fst) := by
  induction mapM_eq_ok.1 h with
  | nil => exact .slnil
  | @cons entry f entries filters hf hrest ih =>
    have hsub := ih (mapM_eq_ok.2 hrest)
    cases f with
    | none =>
      rw [List.reduceOption_cons_of_none]
      exact hsub.cons _
    | some f =>
      obtain ⟨p, v, hp, -, -, rfl⟩ := filterOf_eq_ok_some.1 hf
      rw [List.reduceOption_cons_of_some, List.map_cons, List.map_cons,
        ← (Table.mem_of_property? hp).2]
      exact hsub.cons_cons _

theorem mem_properties {operators entries : List (String × String)}
    {filters : List (Option PropertyFilter)}
    (h : entries.mapM (filterOf t operators) = .ok filters) {f : PropertyFilter}
    (hf : f ∈ filters.reduceOption) :
    ∃ p ∈ t.properties, p.name = f.property ∧ p.column = f.column := by
  obtain ⟨entry, -, hentry⟩ := exists_of_mem_mapM h (List.reduceOption_mem_iff.1 hf)
  obtain ⟨p, v, hp, -, -, rfl⟩ := filterOf_eq_ok_some.1 hentry
  exact ⟨p, (Table.mem_of_property? hp).1, rfl, rfl⟩

end Request

/-! ## Descriptions that fit a table -/

namespace Descriptor

/-- A description whose filters are of properties of the table, each of which has one at most, and
which is ordered by columns of the table. -/
structure Fits (t : Table) (d : Descriptor) : Prop where
  filters : ∀ f ∈ d.filters, ∃ p ∈ t.properties, p.name = f.property ∧ p.column = f.column
  distinct : (d.filters.map PropertyFilter.column).Nodup
  orders : ∀ o ∈ d.orders, ∃ p ∈ t.properties, p.column = o.1

variable {t : Table} {d : Descriptor}

/-- **What is read from a request fits its table.** -/
theorem fits_of_readAll (ht : Table.Consistent t.properties) {pairs : List (String × String)}
    (hd : (Request.readAll t pairs).outcome = .ok d) : d.Fits t := by
  obtain ⟨changes, draft, filters, hchanges, rfl, hfilters, rfl⟩ :=
    Request.readAll_eq_ok_filters.1 hd
  have hblank : Request.Draft.Declared t .blank := ⟨by simp [Request.Draft.blank, empty], .nil⟩
  have hdraft := hblank.foldl hchanges
  have hmem : ∀ f ∈ filters.reduceOption, ∃ p ∈ t.properties,
      p.name = f.property ∧ p.column = f.column := fun f hf => Request.mem_properties hfilters hf
  refine ⟨hmem, ?_, fun o ho => ?_⟩
  · -- Different properties have different columns, so the names carry over to the columns.
    have hnames := (Request.properties_sublist hfilters).nodup hdraft.distinct
    refine List.pairwise_map.2 ((List.pairwise_map.1 hnames).imp_of_mem ?_)
    intro f g hf hg hname hcolumn
    obtain ⟨p, hp, hpname, hpcolumn⟩ := hmem f hf
    obtain ⟨q, hq, hqname, hqcolumn⟩ := hmem g hg
    have hpq : p = q :=
      ht.eq_of_column hp hq ((hpcolumn.trans hcolumn).trans hqcolumn.symm)
    exact hname (by rw [← hpname, ← hqname, hpq])
  · exact List.mem_map.1 (hdraft.orders o.1 (List.mem_map_of_mem ho))

theorem outcome_ofRequest_eq_ok {c : Catalogue} {type : TargetType} (ht : c.table type = .ok t)
    {pairs : List (String × String)} :
    (ofRequest c type pairs).outcome = .ok d ↔ (Request.readAll t pairs).outcome = .ok d := by
  rw [outcome_ofRequest ht, mapError_eq_ok]

namespace Fits

variable {r : Registry}

theorem identifier_of_mem_filters (h : d.Fits t) (ht : Table.Consistent t.properties)
    {f : PropertyFilter} (hf : f ∈ d.filters) : isIdentifier f.column = true := by
  obtain ⟨p, hp, -, hcolumn⟩ := h.filters f hf
  rw [← hcolumn]
  exact ht.columns p hp

theorem identifier_of_mem_orders (h : d.Fits t) (ht : Table.Consistent t.properties)
    {o : String × Direction} (ho : o ∈ d.orders) : isIdentifier o.1 = true := by
  obtain ⟨p, hp, hcolumn⟩ := h.orders o ho
  rw [← hcolumn]
  exact ht.columns p hp

/-- A plan takes filters of a description that fits, if their operators are known. -/
theorem takes (h : d.Fits t) (ht : Table.Consistent t.properties) {fs : List PropertyFilter}
    (hsub : fs.Sublist d.filters) (hknown : ∀ f ∈ fs, r.contains f.operation = true) :
    Plan.Takes r fs where
  operators := hknown
  columns := fun _ hf => h.identifier_of_mem_filters ht (hsub.subset hf)
  distinct := h.distinct.sublist (hsub.map _)

end Fits

end Descriptor

/-! ## Plans of requests -/

/-- What can be wrong with the plan of a request that has been read: the first operator that is not
known, or the first of the further values by the bytes of its name that has the name of a column. -/
inductive Request.Unplanned (r : Registry) (d : Descriptor) (extra : Parameters) :
    ConfigurationError → Prop where
  | operator {before f after} (hfilters : d.filters = before ++ f :: after)
      (hbefore : ∀ g ∈ before, r.contains g.operation = true)
      (h : r.contains f.operation = false) : Unplanned r d extra (.unknownOperator f.operation)
  | value {key} (hknown : ∀ f ∈ d.filters, r.contains f.operation = true)
      (hkey : extra.contains key = true) (h : key ∈ d.filters.map PropertyFilter.column)
      (hleast : ∀ key', extra.contains key' = true →
        key' ∈ d.filters.map PropertyFilter.column → Text.bytes key ≤ Text.bytes key') :
      Unplanned r d extra (.parameterCollision key)

namespace Descriptor

variable {t : Table} {d : Descriptor} {r : Registry} {extra : Parameters}

/-- **Nothing else is refused** in a description that fits its table. -/
theorem Fits.refused_iff (h : d.Fits t) (ht : Table.Consistent t.properties)
    {e : ConfigurationError} : Plan.Refused r d extra e ↔ Request.Unplanned r d extra e := by
  constructor
  · intro he
    cases he with
    | @filter before f after e hfilters hbefore hf =>
      have hmem : f ∈ d.filters := hfilters ▸ List.mem_append_right _ List.mem_cons_self
      cases hf with
      | operator hf => exact .operator hfilters hbefore.operators hf
      | column _ hcolumn =>
        rw [h.identifier_of_mem_filters ht hmem] at hcolumn
        cases hcolumn
      | repeated _ _ hrepeated =>
        have hdistinct := h.distinct
        rw [hfilters, List.map_append, List.map_cons, List.nodup_append] at hdistinct
        exact absurd rfl (hdistinct.2.2 _ hrepeated _ List.mem_cons_self)
    | value hfilters hkey hcolumn hleast => exact .value hfilters.operators hkey hcolumn hleast
    | @order before o after _ _ horders _ ho =>
      have hmem : o ∈ d.orders := horders ▸ List.mem_append_right _ List.mem_cons_self
      rw [h.identifier_of_mem_orders ht hmem] at ho
      cases ho
  · intro he
    cases he with
    | @operator before f after hfilters hbefore hf =>
      have hsub : before.Sublist d.filters := hfilters ▸ List.sublist_append_left _ _
      exact .filter hfilters (h.takes ht hsub hbefore) (.operator hf)
    | value hknown hkey hcolumn hleast =>
      exact .value (h.takes ht (.refl _) hknown) hkey hcolumn hleast

theorem Fits.accepts_iff (h : d.Fits t) (ht : Table.Consistent t.properties) :
    Plan.Accepts r d extra ↔
      ∀ f ∈ d.filters, r.contains f.operation = true ∧ extra.contains f.column = false := by
  constructor
  · intro haccepts f hf
    exact ⟨haccepts.operators f hf, haccepts.values f hf⟩
  · intro hall
    have htakes : Plan.Takes r d.filters := h.takes ht (.refl _) fun f hf => (hall f hf).1
    exact
      { htakes with
        values := fun f hf => (hall f hf).2
        orders := fun o ho => h.identifier_of_mem_orders ht ho }

/-- **A request that has been read can be planned.**  Its filters are on different columns of its
table, so a plan is made just if all of their operators are known and no further value has the name
of one of these columns; the error is then the first such operator, or the least such name if there
is none.  What a plan binds is named by these columns and by the further values. -/
theorem ofRequest_planned {folder : Folder} {registrations : List Registration} {c : Catalogue}
    {type : TargetType} {pairs : List (String × String)}
    (hc : (Catalogue.build folder registrations).outcome = .ok c)
    (ht : c.table type = .ok t) (hd : (ofRequest c type pairs).outcome = .ok d) :
    d.Fits t ∧ ∀ (r : Registry) (cap : Option UInt64) (base : String) (extra : Parameters),
      ((∃ plan, Plan.build r cap d base extra = .ok plan) ↔
        ∀ f ∈ d.filters, r.contains f.operation = true ∧ extra.contains f.column = false) ∧
      (∀ e, Plan.build r cap d base extra = .error e ↔ Request.Unplanned r d extra e) ∧
      ∀ plan, Plan.build r cap d base extra = .ok plan →
        ∀ key, plan.parameters.contains key = true ↔
          key ∈ d.filters.map PropertyFilter.column ∨ extra.contains key = true := by
  have hconsistent : Table.Consistent t.properties := Catalogue.consistent_of_build hc ht
  have hfits : d.Fits t := fits_of_readAll hconsistent ((outcome_ofRequest_eq_ok ht).1 hd)
  refine ⟨hfits, fun r cap base extra => ⟨?_, fun e => ?_, fun plan hplan key => ?_⟩⟩
  · rw [Plan.exists_build_iff, hfits.accepts_iff hconsistent]
  · rw [Plan.build_eq_error, hfits.refused_iff hconsistent]
  · obtain ⟨-, cs, hcs⟩ := Plan.exists_madeOf hplan
    rw [contains_iff_of_perm hcs.parameters, List.map_append, map_fst_entry hcs.filters,
      List.mem_append, Keyed.contains_iff_mem_keys, Keyed.keys]

/-- Values that stand apart make one filter, and columns keep their letter case: such a request fails
for an operator that a registry lacks, and for a further value with the name of a column. -/
theorem ofRequest_planned_values_apart :
    ∃ (folder : Folder) (registrations : List Registration) (c : Catalogue) (t : Table)
      (pairs : List (String × String)) (d : Descriptor),
      (Catalogue.build folder registrations).outcome = .ok c ∧ c.table "Person" = .ok t ∧
      pairs = [("age", "7"), ("sort", "name"), ("filter", "age,in"), ("name", "Ann"), ("age", "8"),
        ("sort", "age,desc")] ∧
      (ofRequest c "Person" pairs).outcome = .ok d ∧
      d.filters.map PropertyFilter.column = ["Age", "full_name"] ∧
      Plan.build .empty none d "SELECT 1" .empty = .error (.unknownOperator "in") ∧
      Plan.build .builtin none d "SELECT 1" (Keyed.empty.insert "full_name" .null)
        = .error (.parameterCollision "full_name") ∧
      ∃ plan, Plan.build .builtin none d "SELECT 1" (Keyed.empty.insert "age" .null) = .ok plan ∧
        plan.parameters.contains "age" = true ∧ plan.parameters.contains "Age" = true ∧
        plan.parameters.contains "name" = false := by
  let folder : Folder := ⟨"queries", ⟨[], []⟩⟩
  let properties : List Property := [⟨"name", "full_name", .text⟩, ⟨"age", "Age", .integer⟩]
  let t : Table := ⟨"Person", none, properties⟩
  let c : Catalogue := Catalogue.empty.insert "Person" t
  let pairs : List (String × String) :=
    [("age", "7"), ("sort", "name"), ("filter", "age,in"), ("name", "Ann"), ("age", "8"),
      ("sort", "age,desc")]
  let f : PropertyFilter := ⟨"age", "Age", "in", .list [.integer 7, .integer 8]⟩
  let g : PropertyFilter := ⟨"name", "full_name", "equals", .text "Ann"⟩
  let d : Descriptor :=
    { filters := [f, g], orders := [("full_name", .ascending), ("Age", .descending)] }
  have hc : (Catalogue.build folder [⟨"Person", ⟨none, properties⟩⟩]).outcome = .ok c := rfl
  have ht : c.table "Person" = .ok t := rfl
  have hd : (ofRequest c "Person" pairs).outcome = .ok d := rfl
  obtain ⟨-, hplans⟩ := ofRequest_planned hc ht hd
  have hknown : ∀ f ∈ d.filters, Registry.builtin.contains f.operation = true :=
    List.forall_mem_cons.2 ⟨rfl, List.forall_mem_singleton.2 rfl⟩
  have hempty : Plan.build .empty none d "SELECT 1" .empty = .error (.unknownOperator "in") := by
    refine ((hplans .empty none "SELECT 1" .empty).2.1 _).2 ?_
    exact @Request.Unplanned.operator _ _ _ [] f [g] rfl (by simp) rfl
  have hcollides : Plan.build .builtin none d "SELECT 1" (Keyed.empty.insert "full_name" .null)
      = .error (.parameterCollision "full_name") := by
    refine ((hplans _ _ _ _).2.1 _).2 (.value hknown rfl ?_ fun key hkey _ => ?_)
    · exact List.mem_cons_of_mem _ List.mem_cons_self
    · have honly : key = "full_name" := by simpa [Keyed.contains] using hkey
      rw [honly]
      exact Text.bytes_le_iff.2 (String.le_refl _)
  obtain ⟨hmade, -, hnames⟩ := hplans .builtin none "SELECT 1" (Keyed.empty.insert "age" .null)
  have hfree : ∀ f ∈ d.filters,
      (Keyed.empty.insert "age" Value.null).contains f.column = false :=
    List.forall_mem_cons.2 ⟨rfl, List.forall_mem_singleton.2 rfl⟩
  obtain ⟨plan, hplan⟩ := hmade.2 fun f hf => ⟨hknown f hf, hfree f hf⟩
  refine ⟨folder, _, c, t, pairs, d, hc, ht, rfl, hd, rfl, hempty, hcollides, plan, hplan, ?_⟩
  refine ⟨(hnames plan hplan _).2 (.inr rfl), (hnames plan hplan _).2 (.inl List.mem_cons_self), ?_⟩
  rw [← Bool.not_eq_true, hnames plan hplan, not_or]
  exact ⟨by decide, by decide⟩

end Descriptor

end TableQuery
