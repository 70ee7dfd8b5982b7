import Mathlib.Data.List.Perm.Basic
import TableQuery.Proofs.Operators
import TableQuery.Proofs.Plan.Clauses
import TableQuery.Proofs.Plan.Conditions
import TableQuery.Proofs.Text.Bytes

/-!
# When a plan is made

A plan is made of filters with known operators on different columns that are identifiers, of further
values under other names, and of order keys that are identifiers.  If one of these is wrong, the
first thing that is wrong is the error.  Filters are looked at one by one, then the further values
in the order of their names, then the orders.

* `Plan.Takes`, `Plan.Accepts` — what a plan can be made of;
* `PropertyFilter.Refused`, `Plan.Refused` — the first thing that is wrong;
* `Plan.core_eq_error` — a plan fails with that error and with no other;
* `Plan.exists_build_iff` — and it is made if nothing is wrong;
* `Plan.build_decided` — both, and what the plan is then, in whatever order the filters come.
-/

namespace TableQuery

open Outcome

/-! ## What can be wrong -/

namespace Plan

/-- Filters that a plan takes: the operators are known, and the columns are identifiers, each of
which stands once. -/
structure Takes (r : Registry) (fs : List PropertyFilter) : Prop where
  operators : ∀ f ∈ fs, r.contains f.operation = true
  columns : ∀ f ∈ fs, isIdentifier f.column = true
  distinct : (fs.map PropertyFilter.column).Nodup

/-- Nothing is wrong with the filters, the further values and the orders. -/
structure Accepts (r : Registry) (d : Descriptor) (extra : Parameters) : Prop
    extends Takes r d.filters where
  values : ∀ f ∈ d.filters, extra.contains f.column = false
  orders : ∀ o ∈ d.orders, isIdentifier o.1 = true

end Plan

/-- What is wrong with a filter that stands behind others. -/
inductive PropertyFilter.Refused (r : Registry) (earlier : List PropertyFilter)
    (f : PropertyFilter) : ConfigurationError → Prop where
  | operator (h : r.contains f.operation = false) :
      Refused r earlier f (.unknownOperator f.operation)
  | column (hknown : r.contains f.operation = true) (h : isIdentifier f.column = false) :
      Refused r earlier f (.invalidIdentifier f.column)
  | repeated (hknown : r.contains f.operation = true) (hcolumn : isIdentifier f.column = true)
      (h : f.column ∈ earlier.map PropertyFilter.column) :
      Refused r earlier f (.parameterCollision f.column)

/-- The first thing that is wrong: the first filter that is refused behind those before it, or the
first of the further values by the bytes of its name that has the name of a column, or the first
order key that is no identifier. -/
inductive Plan.Refused (r : Registry) (d : Descriptor) (extra : Parameters) :
    ConfigurationError → Prop where
  | filter {before f after e} (hfilters : d.filters = before ++ f :: after)
      (hbefore : Takes r before) (h : f.Refused r before e) : Refused r d extra e
  | value {key} (hfilters : Takes r d.filters) (hkey : extra.contains key = true)
      (h : key ∈ d.filters.map PropertyFilter.column)
      (hleast : ∀ key', extra.contains key' = true →
        key' ∈ d.filters.map PropertyFilter.column → Text.bytes key ≤ Text.bytes key') :
      Refused r d extra (.parameterCollision key)
  | order {before o after} (hfilters : Takes r d.filters)
      (hvalues : ∀ f ∈ d.filters, extra.contains f.column = false)
      (horders : d.orders = before ++ o :: after)
      (hbefore : ∀ o ∈ before, isIdentifier o.1 = true) (h : isIdentifier o.1 = false) :
      Refused r d extra (.invalidIdentifier o.1)

/-! ## Steps that fail -/

theorem checkIdentifiers_eq_error {keys : List (String × Direction)} {e : ConfigurationError} :
    (keys.forM fun o => checkIdentifier o.1) = .error e ↔
      ∃ before o after, keys = before ++ o :: after ∧
        (∀ o ∈ before, isIdentifier o.1 = true) ∧ isIdentifier o.1 = false ∧
        e = .invalidIdentifier o.1 := by
  rw [forM_eq_error]
  simp only [checkIdentifier_eq_ok, checkIdentifier_eq_error]

namespace Draft

theorem withParameter_eq_error {a : Draft} {key : String} {v : Value} {e : ConfigurationError} :
    a.withParameter key v = .error e ↔
      a.parameters.contains key = true ∧ e = .parameterCollision key := by
  rw [withParameter]
  cases a.parameters.contains key <;> simp [eq_comm]

/-- **One filter that fails**, in a draft that has the columns of the filters before it as names. -/
theorem withFilter_eq_error {r : Registry} {a : Draft} {earlier : List PropertyFilter}
    (ha : ∀ key, a.parameters.contains key = true ↔ key ∈ earlier.map PropertyFilter.column)
    {f : PropertyFilter} {e : ConfigurationError} :
    a.withFilter r f = .error e ↔ f.Refused r earlier e := by
  rw [withFilter, bind_eq_error]
  constructor
  · rintro (h | ⟨op, hop, h⟩)
    · obtain ⟨hknown, rfl⟩ := Registry.lookup_eq_error.1 h
      exact .operator hknown
    have hknown : r.contains f.operation = true := Registry.exists_lookup.1 ⟨op, hop⟩
    rcases bind_eq_error.1 h with h | ⟨_, hcolumn, h⟩
    · obtain ⟨hcolumn, rfl⟩ := checkIdentifier_eq_error.1 h
      exact .column hknown hcolumn
    · obtain ⟨hname, rfl⟩ := withParameter_eq_error.1 h
      exact .repeated hknown (checkIdentifier_eq_ok.1 hcolumn) ((ha _).1 hname)
  · intro h
    cases h with
    | operator h => exact .inl (Registry.lookup_eq_error.2 ⟨h, rfl⟩)
    | column hknown h =>
      obtain ⟨op, hop⟩ := Registry.exists_lookup.2 hknown
      exact .inr ⟨op, hop, bind_eq_error.2 (.inl (checkIdentifier_eq_error.2 ⟨h, rfl⟩))⟩
    | repeated hknown hcolumn h =>
      obtain ⟨op, hop⟩ := Registry.exists_lookup.2 hknown
      refine .inr ⟨op, hop, bind_eq_error.2 (.inr ⟨(), checkIdentifier_eq_ok.2 hcolumn, ?_⟩)⟩
      exact withParameter_eq_error.2 ⟨(ha _).2 h, rfl⟩

end Draft

/-! ## Loops that fail -/

/-- The names in a draft are those of the entries that its values are made of. -/
theorem contains_iff_of_perm {p : Parameters} {entries : List (String × Value)}
    (h : p.entries.Perm entries) (key : String) :
    p.contains key = true ↔ key ∈ entries.map Prod.fst := by
  rw [Keyed.contains_iff_mem_keys, Keyed.keys, (h.map Prod.fst).mem_iff]

theorem nodup_of_perm {p : Parameters} {entries : List (String × Value)}
    (h : p.entries.Perm entries) : (entries.map Prod.fst).Nodup :=
  (h.map Prod.fst).nodup_iff.1 p.keys_nodup

section

variable {r : Registry} {text : String}

/-- Filters that have conditions of different names are taken. -/
theorem Conditions.takes {fs : List PropertyFilter} {cs : List Condition}
    (h : Conditions r fs cs) (hdistinct : ((cs.map Condition.entry).map Prod.fst).Nodup) :
    Plan.Takes r fs := by
  refine ⟨?_, ?_, ?_⟩
  · rw [← h.filters, List.forall_mem_map]
    exact fun c hc => Registry.exists_lookup.1 ⟨_, h.lookup c hc⟩
  · rw [← h.filters, List.forall_mem_map]
    exact h.column
  · rw [← map_fst_entry h.filters]
    exact hdistinct

/-- A loop over filters that comes to its end takes them, and has their columns as names. -/
theorem takes_of_foldlM {fs : List PropertyFilter} {b : Draft}
    (h : fs.foldlM (Draft.withFilter r) ⟨text, .empty⟩ = .ok b) :
    Plan.Takes r fs ∧
      ∀ key, b.parameters.contains key = true ↔ key ∈ fs.map PropertyFilter.column := by
  obtain ⟨cs, hcs, -, hentries⟩ := foldlM_withFilter h
  have hnone : (Keyed.empty : Parameters).entries = [] := rfl
  rw [hnone, List.append_nil] at hentries
  refine ⟨hcs.takes (nodup_of_perm hentries), ?_⟩
  rw [← map_fst_entry hcs.filters]
  exact contains_iff_of_perm hentries

/-- **A loop over filters fails at the first one that is refused** behind those before it. -/
theorem foldlM_withFilter_eq_error {fs : List PropertyFilter} {e : ConfigurationError} :
    fs.foldlM (Draft.withFilter r) ⟨text, .empty⟩ = .error e →
      ∃ before f after, fs = before ++ f :: after ∧ Plan.Takes r before ∧
        f.Refused r before e := by
  intro h
  obtain ⟨before, f, after, b, hfs, hbefore, hf⟩ := foldlM_eq_error.1 h
  obtain ⟨htakes, hnames⟩ := takes_of_foldlM hbefore
  exact ⟨before, f, after, hfs, htakes, (Draft.withFilter_eq_error hnames).1 hf⟩

/-- A filter among some that are taken is not refused. -/
theorem Plan.Takes.not_refused {before after : List PropertyFilter} {f : PropertyFilter}
    (h : Takes r (before ++ f :: after)) (e : ConfigurationError) : ¬f.Refused r before e := by
  have hmem : f ∈ before ++ f :: after := List.mem_append_right _ List.mem_cons_self
  intro hf
  cases hf with
  | operator hknown =>
    rw [h.operators f hmem] at hknown
    cases hknown
  | column _ hcolumn =>
    rw [h.columns f hmem] at hcolumn
    cases hcolumn
  | repeated _ _ hrepeated =>
    have hdistinct := h.distinct
    rw [List.map_append, List.map_cons, List.nodup_append] at hdistinct
    exact hdistinct.2.2 _ hrepeated _ List.mem_cons_self rfl

/-- A loop over filters that can be taken comes to its end. -/
theorem Plan.Takes.exists_foldlM {fs : List PropertyFilter} (h : Takes r fs) (text : String) :
    ∃ b, fs.foldlM (Draft.withFilter r) ⟨text, .empty⟩ = .ok b := by
  cases hb : fs.foldlM (Draft.withFilter r) ⟨text, .empty⟩ with
  | ok b => exact ⟨b, rfl⟩
  | error e =>
    obtain ⟨before, f, after, rfl, -, hf⟩ := foldlM_withFilter_eq_error hb
    exact absurd hf (h.not_refused e)

end

/-- The least name by its bytes that both collections have. -/
structure IsLeastShared (p q : Parameters) (key : String) : Prop where
  left : p.contains key = true
  right : q.contains key = true
  least : ∀ key', p.contains key' = true → q.contains key' = true →
    Text.bytes key ≤ Text.bytes key'

theorem IsLeastShared.unique {p q : Parameters} {key key' : String} (h : IsLeastShared p q key)
    (h' : IsLeastShared p q key') : key = key' :=
  String.le_antisymm (Text.bytes_le_iff.1 (h.least key' h'.left h'.right))
    (Text.bytes_le_iff.1 (h'.least key h.left h.right))

/-- **A loop over further values fails at the least name** that is there already. -/
theorem foldlM_withParameter_eq_error {extra : Parameters} {a : Draft} {e : ConfigurationError}
    (h : extra.entries.foldlM (fun draft e => draft.withParameter e.1 e.2) a = .error e) :
    ∃ key, IsLeastShared extra a.parameters key ∧ e = .parameterCollision key := by
  obtain ⟨before, ⟨key, v⟩, after, m, hextra, hbefore, hkey⟩ := foldlM_eq_error.1 h
  obtain ⟨hcollides, rfl⟩ := Draft.withParameter_eq_error.1 hkey
  obtain ⟨-, hentries⟩ := foldlM_withParameter hbefore
  have hordered := extra.ordered
  rw [hextra, List.pairwise_append, List.pairwise_cons] at hordered
  obtain ⟨-, ⟨hafter, -⟩, hacross⟩ := hordered
  have hdistinct := nodup_of_perm hentries
  rw [List.map_append, List.nodup_append] at hdistinct
  refine ⟨key, ⟨?_, ?_, ?_⟩, rfl⟩
  · rw [Keyed.contains_iff_mem_keys, Keyed.keys, hextra]
    simp
  · rw [contains_iff_of_perm hentries, List.map_append, List.mem_append] at hcollides
    refine Keyed.contains_iff_mem_keys.2 (hcollides.resolve_left fun hmem => ?_)
    obtain ⟨e, he, heq⟩ := List.mem_map.1 hmem
    have hlt := hacross e he _ List.mem_cons_self
    rw [heq] at hlt
    exact String.lt_irrefl _ hlt
  · intro key' hleft hright
    rw [Keyed.contains_iff_mem_keys] at hleft hright
    rw [Keyed.keys, hextra, List.map_append, List.map_cons, List.mem_append, List.mem_cons] at hleft
    rcases hleft with hmem | rfl | hmem
    · exact absurd rfl (hdistinct.2.2 _ hmem _ hright)
    · exact Text.bytes_le_iff.2 (String.le_refl _)
    · obtain ⟨e, he, rfl⟩ := List.mem_map.1 hmem
      exact Text.bytes_le_iff.2 (String.not_lt.1 fun hlt =>
        String.lt_irrefl _ (String.lt_trans hlt (hafter e he)))

/-- A loop over further values that comes to its end shares no name with what was there. -/
theorem not_shared_of_foldlM {extra : Parameters} {a b : Draft}
    (h : extra.entries.foldlM (fun draft e => draft.withParameter e.1 e.2) a = .ok b)
    {key : String} (hkey : a.parameters.contains key = true) : extra.contains key = false := by
  obtain ⟨-, hentries⟩ := foldlM_withParameter h
  have hdistinct := nodup_of_perm hentries
  rw [List.map_append, List.nodup_append] at hdistinct
  rw [Keyed.contains_iff_mem_keys] at hkey
  exact Keyed.contains_eq_false_iff.2 fun hmem => hdistinct.2.2 _ hmem _ hkey rfl

/-! ## The whole plan -/

namespace Plan

variable {r : Registry} {cap : Option UInt64} {d : Descriptor} {base : String}
  {extra : Parameters} {e : ConfigurationError}

/-- **A plan fails with the first thing that is wrong.** -/
theorem core_eq_error : core r d base extra = .error e ↔ Refused r d extra e := by
  constructor
  · intro h
    rcases bind_eq_error.1 h with h | ⟨filtered, hfiltered, h⟩
    · obtain ⟨before, f, after, hd, hbefore, hf⟩ := foldlM_withFilter_eq_error h
      exact .filter hd hbefore hf
    obtain ⟨htakes, hnames⟩ := takes_of_foldlM hfiltered
    rcases bind_eq_error.1 h with h | ⟨full, hfull, h⟩
    · obtain ⟨key, hkey, rfl⟩ := foldlM_withParameter_eq_error h
      exact .value htakes hkey.left ((hnames _).1 hkey.right)
        fun key' hleft hright => hkey.least key' hleft ((hnames _).2 hright)
    have hvalues : ∀ f ∈ d.filters, extra.contains f.column = false := fun f hf =>
      not_shared_of_foldlM hfull ((hnames _).2 (List.mem_map_of_mem hf))
    rcases bind_eq_error.1 h with h | ⟨_, _, h⟩
    · obtain ⟨before, o, after, hd, hbefore, ho, rfl⟩ := checkIdentifiers_eq_error.1 h
      exact .order htakes hvalues hd hbefore ho
    · cases h
  · intro h
    cases h with
    | @filter before f after e hd hbefore hf =>
      obtain ⟨b, hb⟩ := hbefore.exists_foldlM (wrapBase base)
      obtain ⟨-, hnames⟩ := takes_of_foldlM hb
      refine bind_eq_error.2 (.inl (foldlM_eq_error.2 ⟨before, f, after, b, hd, hb, ?_⟩))
      exact (Draft.withFilter_eq_error hnames).2 hf
    | @value key hfilters hkey hcolumn hleast =>
      obtain ⟨b, hb⟩ := hfilters.exists_foldlM (wrapBase base)
      obtain ⟨-, hnames⟩ := takes_of_foldlM hb
      have hshared : IsLeastShared extra b.parameters key :=
        ⟨hkey, (hnames _).2 hcolumn, fun key' h h' => hleast key' h ((hnames _).1 h')⟩
      refine bind_eq_error.2 (.inr ⟨b, hb, bind_eq_error.2 (.inl ?_)⟩)
      cases hfull : extra.entries.foldlM (fun draft e => draft.withParameter e.1 e.2) b with
      | ok full =>
        rw [not_shared_of_foldlM hfull hshared.right] at hkey
        cases hkey
      | error e =>
        obtain ⟨key', hkey', rfl⟩ := foldlM_withParameter_eq_error hfull
        rw [hshared.unique hkey']
    | @order before o after hfilters hvalues hd hbefore ho =>
      obtain ⟨b, hb⟩ := hfilters.exists_foldlM (wrapBase base)
      obtain ⟨-, hnames⟩ := takes_of_foldlM hb
      refine bind_eq_error.2 (.inr ⟨b, hb, ?_⟩)
      cases hfull : extra.entries.foldlM (fun draft e => draft.withParameter e.1 e.2) b with
      | ok full =>
        refine bind_eq_error.2 (.inr ⟨full, rfl, bind_eq_error.2 (.inl ?_)⟩)
        exact checkIdentifiers_eq_error.2 ⟨before, o, after, hd, hbefore, ho, rfl⟩
      | error e =>
        obtain ⟨key, hkey, -⟩ := foldlM_withParameter_eq_error hfull
        obtain ⟨f, hf, rfl⟩ := List.mem_map.1 ((hnames _).1 hkey.right)
        have hleft := hkey.left
        rw [hvalues f hf] at hleft
        cases hleft

theorem build_eq_error : build r cap d base extra = .error e ↔ Refused r d extra e := by
  rw [build_eq_map, map_eq_error, core_eq_error]

theorem Accepts.not_refused (h : Accepts r d extra) (e : ConfigurationError) :
    ¬Refused r d extra e := by
  intro he
  cases he with
  | filter hd _ hf =>
    have htakes := h.toTakes
    rw [hd] at htakes
    exact htakes.not_refused e hf
  | value _ hkey hcolumn _ =>
    obtain ⟨f, hf, rfl⟩ := List.mem_map.1 hcolumn
    rw [h.values f hf] at hkey
    cases hkey
  | @order before o after _ _ hd _ ho =>
    have hmem : o ∈ d.orders := hd ▸ List.mem_append_right _ List.mem_cons_self
    rw [h.orders o hmem] at ho
    cases ho

/-- What is accepted depends on the filters and not on their order. -/
theorem Accepts.perm (h : Accepts r d extra) {fs : List PropertyFilter}
    (hfs : fs.Perm d.filters) : Accepts r { d with filters := fs } extra where
  operators := fun f hf => h.operators f (hfs.mem_iff.1 hf)
  columns := fun f hf => h.columns f (hfs.mem_iff.1 hf)
  distinct := (hfs.map PropertyFilter.column).nodup_iff.2 h.distinct
  values := fun f hf => h.values f (hfs.mem_iff.1 hf)
  orders := h.orders

/-- A plan and its conditions: the statements have them behind the base query, in the order of the
filters, and bound are their values and the further ones. -/
structure MadeOf (r : Registry) (cap : Option UInt64) (d : Descriptor) (base : String)
    (extra : Parameters) (plan : Plan) (cs : List Condition) : Prop
    extends Conditions r d.filters cs where
  data : plan.data
    = wrapBase base ++ conditionsText cs ++ orderText d.orders ++ windowText (d.windowCapped cap)
  count : plan.count = countText (wrapBase base ++ conditionsText cs ++ orderText d.orders)
  parameters : plan.parameters.entries.Perm (cs.map Condition.entry ++ extra.entries)

theorem exists_madeOf {plan : Plan} (h : build r cap d base extra = .ok plan) :
    Accepts r d extra ∧ ∃ cs, MadeOf r cap d base extra plan cs := by
  obtain ⟨draft, hdraft, rfl⟩ := build_eq_ok h
  obtain ⟨cs, hcs⟩ := exists_composed hdraft
  have hdistinct := nodup_of_perm hcs.entries
  rw [List.map_append, List.nodup_append] at hdistinct
  have htakes := hcs.toConditions.takes hdistinct.1
  refine ⟨{ htakes with values := ?_, orders := hcs.orders }, cs, hcs.toConditions, ?_, ?_, ?_⟩
  · intro f hf
    have hcolumn : f.column ∈ (cs.map Condition.entry).map Prod.fst := by
      rw [map_fst_entry hcs.filters]
      exact List.mem_map_of_mem hf
    exact Keyed.contains_eq_false_iff.2 fun hmem => hdistinct.2.2 _ hcolumn _ hmem rfl
  · rw [← hcs.text]
    rfl
  · rw [← hcs.text]
    rfl
  · exact hcs.entries

/-- **A plan is made if nothing is wrong.** -/
theorem exists_build_iff :
    (∃ plan, build r cap d base extra = .ok plan) ↔ Accepts r d extra := by
  constructor
  · rintro ⟨plan, h⟩
    exact (exists_madeOf h).1
  · intro h
    cases hplan : build r cap d base extra with
    | ok plan => exact ⟨plan, rfl⟩
    | error e => exact absurd (build_eq_error.1 hplan) (h.not_refused e)

/-- **Which plans are made, and what they are.**  A plan is made just if nothing is wrong with the
filters, the further values and the orders; otherwise the error is the first thing that is wrong.
The values of a plan are those of its conditions and the further ones, and no name stands twice
among them.  In another order the same filters make a plan too: with the same values, and with the
same conditions in that order. -/
theorem build_decided (r : Registry) (cap : Option UInt64) (d : Descriptor) (base : String)
    (extra : Parameters) :
    ((∃ plan, build r cap d base extra = .ok plan) ↔ Accepts r d extra) ∧
    (∀ plan, build r cap d base extra = .ok plan →
      ∃ cs, MadeOf r cap d base extra plan cs ∧
        ∀ fs, fs.Perm d.filters → ∃ plan' cs',
          build r cap { d with filters := fs } base extra = .ok plan' ∧
          MadeOf r cap { d with filters := fs } base extra plan' cs' ∧
          cs'.Perm cs ∧ plan'.parameters = plan.parameters) ∧
    ∀ e, build r cap d base extra = .error e ↔ Refused r d extra e := by
  refine ⟨exists_build_iff, ?_, fun e => build_eq_error⟩
  intro plan hplan
  obtain ⟨haccepts, cs, hcs⟩ := exists_madeOf hplan
  refine ⟨cs, hcs, fun fs hfs => ?_⟩
  obtain ⟨plan', hplan'⟩ : ∃ plan', build r cap { d with filters := fs } base extra = .ok plan' :=
    exists_build_iff.2 (haccepts.perm hfs)
  obtain ⟨-, cs', hcs'⟩ := exists_madeOf hplan'
  have hperm : cs'.Perm cs := hcs'.toConditions.perm hcs.toConditions hfs
  refine ⟨plan', cs', hplan', hcs', hperm, Keyed.eq_of_perm ?_⟩
  have hentries := (hperm.map Condition.entry).append_right extra.entries
  exact (hcs'.parameters.trans hentries).trans hcs.parameters.symm

-- Two further values have the name of a column, and the lesser name is the error, although it was
-- put in last and its filter stands last.
example :
    build .builtin none
      { filters := [⟨"b", "b", "equals", .integer 1⟩, ⟨"a", "a", "equals", .integer 2⟩] }
      "SELECT 1" ((Keyed.empty.insert "b" .null).insert "a" .null)
      = .error (.parameterCollision "a") := rfl

end Plan

end TableQuery
