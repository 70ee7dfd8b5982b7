import Mathlib.Data.List.Induction
import Mathlib.Data.List.Nodup
import TableQuery.Catalogue
import TableQuery.Proofs.Outcome

/-!
# What is in a catalogue

A table comes into a catalogue only after all of its properties have been checked, each against those
before it.  So names and columns in a catalogue are identifiers, and they tell the properties of a
table apart.

* `Table.Consistent` — properties that a table can have;
* `Table.checkProperties_eq_ok` — the checks accept these and no others;
* `Table.property?_eq_some_iff` — a name finds the property that has it;
* `Table.propertyOf?_eq_some_iff` — a label finds the property whose column it is, in any letter case;
* `Catalogue.holds_of_build` — the tables of a catalogue are those of its registrations.
-/

namespace TableQuery

open Outcome

namespace Table

/-! ## Properties of a table -/

/-- Names and columns are identifiers, no name stands twice, and no column does in any letter
case. -/
structure Consistent (properties : List Property) : Prop where
  names : ∀ p ∈ properties, isIdentifier p.name = true
  columns : ∀ p ∈ properties, isIdentifier p.column = true
  distinctNames : (properties.map Property.name).Nodup
  distinctColumns : (properties.map fun p => Text.lower p.column).Nodup

theorem hasName_eq_false_iff {properties : List Property} {name : String} :
    hasName properties name = false ↔ name ∉ properties.map Property.name := by
  simp [hasName]

theorem hasColumn_eq_false_iff {properties : List Property} {column : String} :
    hasColumn properties column = false ↔
      Text.lower column ∉ properties.map fun p => Text.lower p.column := by
  simp [hasColumn, Text.sameLetters]

namespace Consistent

variable {properties earlier : List Property} {p q : Property}

theorem nil : Consistent [] := ⟨by simp, by simp, .nil, .nil⟩

theorem sublist (h : Consistent properties) (hsub : earlier.Sublist properties) :
    Consistent earlier where
  names := fun p hp => h.names p (hsub.subset hp)
  columns := fun p hp => h.columns p (hsub.subset hp)
  distinctNames := h.distinctNames.sublist (hsub.map _)
  distinctColumns := h.distinctColumns.sublist (hsub.map _)

/-- **One more property**: what is checked about it is what keeps the others consistent with it. -/
theorem concat_iff : Consistent (earlier ++ [p]) ↔
    Consistent earlier ∧ isIdentifier p.name = true ∧ isIdentifier p.column = true ∧
      hasName earlier p.name = false ∧ hasColumn earlier p.column = false := by
  rw [hasName_eq_false_iff, hasColumn_eq_false_iff]
  constructor
  · intro h
    have hmem : p ∈ earlier ++ [p] := List.mem_append_right _ List.mem_cons_self
    have hnames := h.distinctNames
    have hcolumns := h.distinctColumns
    rw [List.map_append, List.nodup_append] at hnames hcolumns
    refine ⟨h.sublist (List.sublist_append_left _ _), h.names p hmem, h.columns p hmem, ?_, ?_⟩
    · exact fun hold => hnames.2.2 _ hold _ List.mem_cons_self rfl
    · exact fun hold => hcolumns.2.2 _ hold _ List.mem_cons_self rfl
  · rintro ⟨h, hname, hcolumn, hnew, hfresh⟩
    refine ⟨?_, ?_, ?_, ?_⟩
    · exact List.forall_mem_append.2 ⟨h.names, List.forall_mem_singleton.2 hname⟩
    · exact List.forall_mem_append.2 ⟨h.columns, List.forall_mem_singleton.2 hcolumn⟩
    · rw [List.map_append, List.map_singleton, ← List.concat_eq_append]
      exact h.distinctNames.concat hnew
    · rw [List.map_append, List.map_singleton, ← List.concat_eq_append]
      exact h.distinctColumns.concat hfresh

/-- A name tells the property. -/
theorem eq_of_name (h : Consistent properties) (hp : p ∈ properties) (hq : q ∈ properties)
    (hname : p.name = q.name) : p = q :=
  List.inj_on_of_nodup_map h.distinctNames hp hq hname

/-- A column tells the property. -/
theorem eq_of_column (h : Consistent properties) (hp : p ∈ properties) (hq : q ∈ properties)
    (hcolumn : p.column = q.column) : p = q :=
  List.inj_on_of_nodup_map h.distinctColumns hp hq (congrArg Text.lower hcolumn)

end Consistent

/-! ## Making a table -/

/-- **The checks accept consistent properties** behind consistent ones, and no others. -/
theorem checkProperties_eq_ok {typeName : String} {earlier rest : List Property}
    (h : Consistent earlier) :
    checkProperties typeName earlier rest = .ok () ↔ Consistent (earlier ++ rest) := by
  induction rest generalizing earlier with
  | nil => simpa [checkProperties] using h
  | cons p rest ih =>
    have hcons : earlier ++ p :: rest = (earlier ++ [p]) ++ rest := by simp
    have hstep : checkProperties typeName earlier (p :: rest) = .ok () ↔
        Consistent (earlier ++ [p]) ∧ checkProperties typeName (earlier ++ [p]) rest = .ok () := by
      rw [Consistent.concat_iff, checkProperties, check_bind_eq_ok, check_bind_eq_ok,
        checkIdentifier_eq_ok, checkIdentifier_eq_ok]
      cases hasName earlier p.name <;> cases hasColumn earlier p.column <;> simp [h, and_assoc]
    rw [hstep, hcons]
    constructor
    · rintro ⟨hp, hrest⟩
      exact (ih hp).1 hrest
    · intro hall
      have hp : Consistent (earlier ++ [p]) := hall.sublist (List.sublist_append_left _ _)
      exact ⟨hp, (ih hp).2 hall⟩

theorem ofDeclaration_eq_ok {folder : Folder} {typeName : String} {d : Declaration} {t : Table} :
    ofDeclaration folder typeName d = .ok t ↔
      ∃ base, d.dataTable.mapM (baseQuery folder) = .ok base ∧ Consistent d.properties ∧
        t = ⟨typeName, base, d.properties⟩ := by
  have hchecks : checkProperties typeName [] d.properties = .ok () ↔ Consistent d.properties :=
    checkProperties_eq_ok .nil
  rw [ofDeclaration, bind_eq_ok]
  simp only [check_bind_eq_ok, hchecks, Except.ok.injEq, @eq_comm _ t]

theorem mem_of_property? {t : Table} {name : String} {p : Property}
    (h : t.property? name = some p) : p ∈ t.properties ∧ p.name = name := by
  have hname := List.find?_some h
  exact ⟨List.mem_of_find?_eq_some h, eq_of_beq hname⟩

/-- A name finds the property that has it. -/
theorem property?_eq_some_iff {t : Table} (h : Consistent t.properties) {name : String}
    {p : Property} : t.property? name = some p ↔ p ∈ t.properties ∧ p.name = name := by
  refine ⟨mem_of_property?, ?_⟩
  rintro ⟨hmem, rfl⟩
  cases hfound : t.property? p.name with
  | none => exact absurd (List.find?_eq_none.1 hfound p hmem) (by simp)
  | some q =>
    obtain ⟨hq, hname⟩ := mem_of_property? hfound
    rw [h.eq_of_name hq hmem hname]

/-- The label stands for the property: it is the property's column, in any letter case. -/
def Labels (t : Table) (label : String) (p : Property) : Prop :=
  p ∈ t.properties ∧ Text.lower p.column = Text.lower label

/-- A label stands for one property at most. -/
theorem Labels.unique {t : Table} (h : Consistent t.properties) {label : String} {p q : Property}
    (hp : t.Labels label p) (hq : t.Labels label q) : p = q :=
  List.inj_on_of_nodup_map h.distinctColumns hp.1 hq.1 (hp.2.trans hq.2.symm)

theorem labels_of_propertyOf? {t : Table} {label : String} {p : Property}
    (h : t.propertyOf? label = some p) : t.Labels label p := by
  have hcolumn := List.find?_some h
  exact ⟨List.mem_of_find?_eq_some h, eq_of_beq hcolumn⟩

/-- A label finds nothing just if it stands for no property. -/
theorem propertyOf?_eq_none_iff {t : Table} {label : String} :
    t.propertyOf? label = none ↔ ∀ p, ¬t.Labels label p := by
  simp [propertyOf?, Labels, Text.sameLetters]

/-- A label finds the property that it stands for. -/
theorem propertyOf?_eq_some_iff {t : Table} (h : Consistent t.properties) {label : String}
    {p : Property} : t.propertyOf? label = some p ↔ t.Labels label p := by
  refine ⟨labels_of_propertyOf?, fun hp => ?_⟩
  cases hfound : t.propertyOf? label with
  | none => exact absurd hp (propertyOf?_eq_none_iff.1 hfound p)
  | some q => rw [(labels_of_propertyOf? hfound).unique h hp]

end Table

/-! ## Tables that are looked up -/

theorem Catalogue.table_eq_ok {c : Catalogue} {type : TargetType} {t : Table} :
    c.table type = .ok t ↔ c.find? type = some t := by
  rw [table]
  cases c.find? type <;> simp

theorem Catalogue.table_eq_error {c : Catalogue} {type : TargetType} {e : ConfigurationError} :
    c.table type = .error e ↔ c.isRegistered type = false ∧ e = .unregisteredType type.name := by
  rw [table, isRegistered]
  cases c.find? type <;> simp [eq_comm]

theorem Table.baseText_eq_ok {t : Table} {base : String} :
    t.baseText = .ok base ↔ t.base = some base := by
  rw [baseText]
  cases t.base <;> simp

theorem Table.baseText_eq_error {t : Table} {e : ConfigurationError} :
    t.baseText = .error e ↔ t.base = none ∧ e = .missingDataTable t.typeName := by
  rw [baseText]
  cases t.base <;> simp [eq_comm]

/-! ## Making a catalogue -/

namespace Catalogue

variable {folder : Folder} {registrations : List Registration} {c c' : Catalogue}
  {type : TargetType} {t : Table}

/-- **One registration**: its type has no table yet, and its declaration has one, which is added. -/
theorem outcome_add_eq_ok {r : Registration} :
    (add folder c r).outcome = .ok c' ↔ c.isRegistered r.type = false ∧
      ∃ t, Table.ofDeclaration folder r.type.name r.declaration = .ok t ∧
        c' = c.insert r.type t := by
  rw [add]
  cases c.isRegistered r.type with
  | true => simp [Traced.fail]
  | false =>
    simp only [Bool.false_eq_true, if_false, true_and, Traced.outcome_bind,
      Traced.outcome_ofExcept, Traced.outcome_emit, Traced.outcome_pure]
    cases Table.ofDeclaration folder r.type.name r.declaration with
    | error e => simp [Except.bind]
    | ok t => simp [Except.bind, eq_comm]

/-- One more registration comes behind the catalogue of the others. -/
theorem outcome_build_concat {r : Registration} : (build folder (registrations ++ [r])).outcome =
    (build folder registrations).outcome >>= fun c => (add folder c r).outcome := by
  rw [build, build, Traced.outcome_foldlM, Traced.outcome_foldlM, List.foldlM_append]
  simp only [List.foldlM_cons, List.foldlM_nil, bind_pure]

/-- The tables of the catalogue are those of the registrations, each under its type. -/
def Holds (folder : Folder) (c : Catalogue) (registrations : List Registration) : Prop :=
  ∀ type t, c.table type = .ok t ↔ ∃ r ∈ registrations, r.type = type ∧
    Table.ofDeclaration folder r.type.name r.declaration = .ok t

/-- **One registration more**: its table comes to those that the catalogue holds. -/
theorem Holds.concat {r : Registration} (h : Holds folder c registrations)
    (hadd : (add folder c r).outcome = .ok c') : Holds folder c' (registrations ++ [r]) := by
  obtain ⟨hnew, t', ht', rfl⟩ := outcome_add_eq_ok.1 hadd
  intro type t
  simp only [List.mem_append, List.mem_singleton, or_and_right, exists_or, exists_eq_left]
  rw [← h type t, table_eq_ok, table_eq_ok, find?_insert]
  split
  next htype =>
    subst htype
    have hnone : c.find? r.type ≠ some t := fun ht => by simp [isRegistered, ht] at hnew
    simp [hnone, ht']
  next htype => simp [Ne.symm htype]

/-- **A catalogue holds the tables of its registrations.** -/
theorem holds_of_build (hc : (build folder registrations).outcome = .ok c) :
    Holds folder c registrations := by
  induction registrations using List.reverseRecOn generalizing c with
  | nil =>
    obtain rfl : empty = c := Except.ok.inj hc
    intro type t
    rw [table_eq_ok]
    simp
  | append_singleton registrations r ih =>
    rw [outcome_build_concat] at hc
    obtain ⟨c₀, hc₀, hadd⟩ := bind_eq_ok.1 hc
    exact (ih hc₀).concat hadd

/-- The properties of a table in a catalogue are consistent. -/
theorem consistent_of_build (hc : (build folder registrations).outcome = .ok c)
    (ht : c.table type = .ok t) : Table.Consistent t.properties := by
  obtain ⟨r, -, -, hr⟩ := (holds_of_build hc type t).1 ht
  obtain ⟨base, -, hproperties, rfl⟩ := Table.ofDeclaration_eq_ok.1 hr
  exact hproperties

end Catalogue

end TableQuery
