import Mathlib.Data.List.Induction
import TableQuery.Mapping
import TableQuery.Proofs.Catalogue
import TableQuery.Proofs.Keyed

/-!
# The object of a row

The object that a value is read from is decided column by column.  A column that stands for no
property leaves no trace.  The first column that its property cannot hold ends the conversion.  If
there is none, every property has the value of its last column that is there, and nothing else is in
the object.

* `Table.Refuses`, `Table.Gives` — what one column does: it is an error, or it gives a property a
  value;
* `Table.FirstRefuses`, `Table.LastGives` — what a row does;
* `exists_foldlM_addColumn`, `get?_foldlM_addColumn` — when the loop over the columns goes through, and
  what it has collected;
* `mapRow_decided` — the object that the reader of the target type is given, or the error.
-/

namespace TableQuery

open Outcome

/-! ## One column -/

namespace Table

variable {t : Table} {p : Property} {column : String × Json} {name : String} {v : Json}
  {e : MappingError}

/-- The property of the column cannot hold its value; this is the error that says so. -/
def Refuses (t : Table) (column : String × Json) (e : MappingError) : Prop :=
  ∃ p mismatch, t.Labels column.1 p ∧ p.kind.coerce column.2 = .error mismatch ∧
    e = ⟨t.typeName, some p.name, mismatch.message⟩

/-- The column gives the property of this name a value, and the value is not `null`. -/
def Gives (t : Table) (column : String × Json) (name : String) (v : Json) : Prop :=
  ∃ p, t.Labels column.1 p ∧ p.name = name ∧ p.kind.coerce column.2 = .ok v ∧ v.isNull = false

theorem refuses_iff_of_labels (h : Consistent t.properties) (hp : t.Labels column.1 p) :
    t.Refuses column e ↔ ∃ mismatch, p.kind.coerce column.2 = .error mismatch ∧
      e = ⟨t.typeName, some p.name, mismatch.message⟩ := by
  constructor
  · rintro ⟨q, mismatch, hq, hmismatch, he⟩
    obtain rfl := hp.unique h hq
    exact ⟨mismatch, hmismatch, he⟩
  · rintro ⟨mismatch, hmismatch, he⟩
    exact ⟨p, mismatch, hp, hmismatch, he⟩

theorem gives_iff_of_labels (h : Consistent t.properties) (hp : t.Labels column.1 p) :
    t.Gives column name v ↔
      p.name = name ∧ p.kind.coerce column.2 = .ok v ∧ v.isNull = false := by
  constructor
  · rintro ⟨q, hq, hv⟩
    obtain rfl := hp.unique h hq
    exact hv
  · exact fun hv => ⟨p, hp, hv⟩

end Table

variable {t : Table} {fields fields' : Keyed Json} {column : String × Json}
  {columns : List (String × Json)} {name : String} {v : Json} {e : MappingError}

theorem addColumn_of_unlabelled (h : t.propertyOf? column.1 = none) :
    addColumn t fields column = .ok fields := by
  rw [addColumn, h]

/-- **One column fails** just if its property refuses it. -/
theorem addColumn_eq_error (h : Table.Consistent t.properties) :
    addColumn t fields column = .error e ↔ t.Refuses column e := by
  rw [addColumn]
  split
  next hnone =>
    refine iff_of_false (by simp) ?_
    rintro ⟨p, -, hp, -⟩
    exact Table.propertyOf?_eq_none_iff.1 hnone p hp
  next p hsome =>
    rw [Table.refuses_iff_of_labels h (Table.labels_of_propertyOf? hsome)]
    split
    next mismatch hmismatch => simp [hmismatch, eq_comm]
    next v hv => simp [hv]

/-- **One column that does not fail** sets the property that it gives a value, and no other. -/
theorem get?_addColumn (h : Table.Consistent t.properties)
    (hadd : addColumn t fields column = .ok fields') :
    fields'.get? name = some v ↔
      t.Gives column name v ∨ (∀ w, ¬t.Gives column name w) ∧ fields.get? name = some v := by
  rw [addColumn] at hadd
  split at hadd
  next hnone =>
    obtain rfl := Except.ok.inj hadd
    have hgives : ∀ w, ¬t.Gives column name w := by
      rintro w ⟨p, hp, -⟩
      exact Table.propertyOf?_eq_none_iff.1 hnone p hp
    simp [hgives]
  next p hsome =>
    simp only [Table.gives_iff_of_labels h (Table.labels_of_propertyOf? hsome)]
    split at hadd
    next mismatch _ => cases hadd
    next w hw =>
      obtain rfl := Except.ok.inj hadd
      simp only [hw, Except.ok.injEq]
      cases hnull : w.isNull with
      | true =>
        have hnot : ∀ u, ¬(p.name = name ∧ w = u ∧ u.isNull = false) := by
          rintro u ⟨-, rfl, hu⟩
          rw [hnull] at hu
          cases hu
        simp [hnot]
      | false =>
        rw [if_neg Bool.false_ne_true, Keyed.get?_insert]
        by_cases hname : name = p.name
        · subst hname
          simp only [if_true, Option.some.injEq, true_and]
          constructor
          · rintro rfl
            exact .inl ⟨rfl, hnull⟩
          · rintro (⟨rfl, -⟩ | ⟨hnone, -⟩)
            · rfl
            · exact absurd ⟨rfl, hnull⟩ (hnone w)
        · simp [hname, Ne.symm hname]

/-! ## All columns -/

namespace Table

/-- The first column that is refused, is refused with this error. -/
def FirstRefuses (t : Table) (columns : List (String × Json)) (e : MappingError) : Prop :=
  ∃ before column after, columns = before ++ column :: after ∧
    (∀ c ∈ before, ∀ e', ¬t.Refuses c e') ∧ t.Refuses column e

/-- The last column that gives the property of this name a value, gives it this one. -/
def LastGives (t : Table) (columns : List (String × Json)) (name : String) (v : Json) : Prop :=
  ∃ before column after, columns = before ++ column :: after ∧ t.Gives column name v ∧
    ∀ later ∈ after, ∀ w, ¬t.Gives later name w

theorem not_lastGives_nil : ¬t.LastGives [] name v := by
  rintro ⟨before, column, after, h, -⟩
  simp at h

/-- **One more column** at the end counts if it gives the property a value. -/
theorem lastGives_concat : t.LastGives (columns ++ [column]) name v ↔
    t.Gives column name v ∨ (∀ w, ¬t.Gives column name w) ∧ t.LastGives columns name v := by
  constructor
  · rintro ⟨before, c, after, hcolumns, hgives, hlater⟩
    rcases List.eq_nil_or_concat after with rfl | ⟨after, last, rfl⟩
    · obtain ⟨-, hc⟩ := List.append_inj' hcolumns rfl
      obtain rfl := List.singleton_inj.1 hc
      exact .inl hgives
    · rw [List.concat_eq_append, ← List.cons_append, ← List.append_assoc] at hcolumns
      obtain ⟨rfl, hc⟩ := List.append_inj' hcolumns rfl
      obtain rfl := List.singleton_inj.1 hc
      rw [List.concat_eq_append, List.forall_mem_append, List.forall_mem_singleton] at hlater
      exact .inr ⟨hlater.2, before, c, after, rfl, hgives, hlater.1⟩
  · rintro (hgives | ⟨hnone, before, c, after, rfl, hgives, hlater⟩)
    · exact ⟨columns, column, [], rfl, hgives, by simp⟩
    · refine ⟨before, c, after ++ [column], by simp, hgives, ?_⟩
      exact List.forall_mem_append.2 ⟨hlater, List.forall_mem_singleton.2 hnone⟩

/-- A property that a column gives a value, is given one by a last column. -/
theorem exists_lastGives (hc : column ∈ columns) (hgives : t.Gives column name v) :
    ∃ w, t.LastGives columns name w := by
  induction columns using List.reverseRecOn with
  | nil => cases hc
  | append_singleton columns last ih =>
    simp only [lastGives_concat]
    by_cases hlast : ∃ w, t.Gives last name w
    · obtain ⟨w, hw⟩ := hlast
      exact ⟨w, .inl hw⟩
    · rcases List.mem_append.1 hc with hc | hc
      · obtain ⟨w, hw⟩ := ih hc
        exact ⟨w, .inr ⟨not_exists.1 hlast, hw⟩⟩
      · obtain rfl := List.mem_singleton.1 hc
        exact absurd ⟨v, hgives⟩ hlast

theorem LastGives.exists_mem (h : t.LastGives columns name v) :
    ∃ c ∈ columns, t.Gives c name v := by
  obtain ⟨before, c, after, rfl, hgives, -⟩ := h
  exact ⟨c, List.mem_append_right _ List.mem_cons_self, hgives⟩

end Table

/-- **The loop over the columns goes through** just if no column is refused. -/
theorem exists_foldlM_addColumn (h : Table.Consistent t.properties) :
    (∃ fields', columns.foldlM (addColumn t) fields = .ok fields') ↔
      ∀ c ∈ columns, ∀ e, ¬t.Refuses c e := by
  induction columns generalizing fields with
  | nil => exact iff_of_true ⟨fields, rfl⟩ (by simp)
  | cons c columns ih =>
    simp only [List.foldlM_cons, bind_eq_ok, List.forall_mem_cons]
    constructor
    · rintro ⟨fields', added, hadded, hrest⟩
      refine ⟨fun e he => ?_, ih.1 ⟨fields', hrest⟩⟩
      rw [(addColumn_eq_error h).2 he] at hadded
      cases hadded
    · rintro ⟨hc, hrest⟩
      cases hadded : addColumn t fields c with
      | error e => exact absurd ((addColumn_eq_error h).1 hadded) (hc e)
      | ok added =>
        obtain ⟨fields', hfields'⟩ := ih.2 hrest
        exact ⟨fields', added, rfl, hfields'⟩

/-- **What the loop over the columns has collected**: the last values of the properties. -/
theorem get?_foldlM_addColumn (h : Table.Consistent t.properties)
    (hadd : columns.foldlM (addColumn t) .empty = .ok fields) :
    fields.get? name = some v ↔ t.LastGives columns name v := by
  induction columns using List.reverseRecOn generalizing fields v with
  | nil =>
    obtain rfl := Except.ok.inj hadd
    exact iff_of_false (by simp) Table.not_lastGives_nil
  | append_singleton columns column ih =>
    rw [List.foldlM_append] at hadd
    obtain ⟨earlier, hearlier, hlast⟩ := bind_eq_ok.1 hadd
    obtain ⟨added, hadded, hend⟩ := bind_eq_ok.1 hlast
    obtain rfl := Except.ok.inj hend
    rw [get?_addColumn h hadded, ih hearlier, Table.lastGives_concat]

theorem exists_fieldsOf_iff (h : Table.Consistent t.properties) {r : Row} :
    (∃ fields, fieldsOf t r = .ok fields) ↔ ∀ c ∈ r.columns, ∀ e, ¬t.Refuses c e :=
  exists_foldlM_addColumn h

theorem fieldsOf_eq_error (h : Table.Consistent t.properties) {r : Row} :
    fieldsOf t r = .error e ↔ t.FirstRefuses r.columns e := by
  rw [fieldsOf, foldlM_eq_error]
  constructor
  · rintro ⟨before, column, after, earlier, hcolumns, hearlier, he⟩
    exact ⟨before, column, after, hcolumns, (exists_foldlM_addColumn h).1 ⟨earlier, hearlier⟩,
      (addColumn_eq_error h).1 he⟩
  · rintro ⟨before, column, after, hcolumns, hbefore, he⟩
    obtain ⟨earlier, hearlier⟩ := (exists_foldlM_addColumn h).2 hbefore
    exact ⟨before, column, after, earlier, hcolumns, hearlier, (addColumn_eq_error h).2 he⟩

/-- **The object of a row** is there just if no column is refused, and its entries are the last
values of the properties. -/
theorem fieldsOf_eq_ok (h : Table.Consistent t.properties) {r : Row} :
    fieldsOf t r = .ok fields ↔ (∀ c ∈ r.columns, ∀ e, ¬t.Refuses c e) ∧
      ∀ name v, fields.get? name = some v ↔ t.LastGives r.columns name v := by
  constructor
  · intro hfields
    exact ⟨(exists_fieldsOf_iff h).1 ⟨fields, hfields⟩, fun _ _ => get?_foldlM_addColumn h hfields⟩
  · rintro ⟨hnone, hlast⟩
    obtain ⟨fields', hfields'⟩ := (exists_fieldsOf_iff h).2 hnone
    have hsame : fields' = fields := by
      refine Keyed.eq_of_get? fun name => Option.ext fun v => ?_
      rw [get?_foldlM_addColumn h hfields', hlast]
    exact hsame ▸ hfields'

/-- Columns that stand for no property leave no trace. -/
theorem fieldsOf_filter (r : Row) :
    fieldsOf t ⟨r.columns.filter fun c => Table.hasColumn t.properties c.1⟩ = fieldsOf t r := by
  simp only [fieldsOf]
  generalize (Keyed.empty : Keyed Json) = fields
  induction r.columns generalizing fields with
  | nil => rfl
  | cons c columns ih =>
    rw [List.filter_cons]
    cases hc : Table.hasColumn t.properties c.1 with
    | false =>
      have hnone : t.propertyOf? c.1 = none := by
        simpa [Table.propertyOf?, Table.hasColumn] using hc
      rw [if_neg Bool.false_ne_true, List.foldlM_cons, addColumn_of_unlabelled hnone]
      exact ih fields
    | true =>
      rw [if_pos rfl, List.foldlM_cons, List.foldlM_cons]
      exact congrArg (addColumn t fields c >>= ·) (funext ih)

/-! ## The value of a row -/

theorem mapRow_of_error {α : Type} (target : Target α) {r : Row} (h : fieldsOf t r = .error e) :
    mapRow target t r = .error e := by
  rw [mapRow, h]

theorem mapRow_of_ok {α : Type} (target : Target α) {r : Row} (h : fieldsOf t r = .ok fields) :
    mapRow target t r = (target.read (.ofKeyed fields)).mapError
      fun refusal => refusal.toMappingError t.typeName := by
  simp only [mapRow, h]
  cases target.read (.ofKeyed fields) with
  | error refusal => rfl
  | ok v => rfl

/-- **The object that a value is read from.**  If a property refuses a column, the row fails with the
error of the first column that is refused, whatever the target type reads.  Otherwise the reader of
the target type is given the object in which a name has a value just if it names a property and the
last column that gives this property a value gives it this one.  Only columns that stand for a
property matter. -/
theorem mapRow_decided {folder : Folder} {typeName : String} {d : Declaration}
    (h : Table.ofDeclaration folder typeName d = .ok t) (r : Row) :
    ((∃ c ∈ r.columns, ∃ e, t.Refuses c e) → ∃ e, t.FirstRefuses r.columns e ∧
      ∀ (α : Type) (target : Target α), mapRow target t r = .error e) ∧
    ((∀ c ∈ r.columns, ∀ e, ¬t.Refuses c e) → ∃ fields : Keyed Json,
      (∀ name v, fields.get? name = some v ↔ t.LastGives r.columns name v) ∧
      ∀ (α : Type) (target : Target α), mapRow target t r
        = (target.read (.ofKeyed fields)).mapError fun refusal => refusal.toMappingError t.typeName) ∧
    ∀ r' : Row, (r'.columns.filter fun c => Table.hasColumn t.properties c.1)
        = (r.columns.filter fun c => Table.hasColumn t.properties c.1) →
      ∀ (α : Type) (target : Target α), mapRow target t r' = mapRow target t r := by
  obtain ⟨base, -, hconsistent, rfl⟩ := Table.ofDeclaration_eq_ok.1 h
  refine ⟨?_, ?_, ?_⟩
  · rintro ⟨c, hc, e, he⟩
    cases hfields : fieldsOf ⟨typeName, base, d.properties⟩ r with
    | error e' =>
      exact ⟨e', (fieldsOf_eq_error hconsistent).1 hfields,
        fun _ target => mapRow_of_error target hfields⟩
    | ok fields => exact absurd he (((fieldsOf_eq_ok hconsistent).1 hfields).1 c hc e)
  · intro hnone
    obtain ⟨fields, hfields⟩ := (exists_fieldsOf_iff hconsistent).2 hnone
    exact ⟨fields, ((fieldsOf_eq_ok hconsistent).1 hfields).2,
      fun _ target => mapRow_of_ok target hfields⟩
  · intro r' hcolumns α target
    have hfields : fieldsOf ⟨typeName, base, d.properties⟩ r'
        = fieldsOf ⟨typeName, base, d.properties⟩ r := by
      rw [← fieldsOf_filter r', ← fieldsOf_filter r, hcolumns]
    rw [mapRow, mapRow, hfields]

/-- A text that writes an integer, a column of no property, a `null` and another number behind it:
the number counts, and the name has no value.  With a list as the name the row fails. -/
theorem mapRow_decided_last_number :
    ∃ t, Table.ofDeclaration ⟨"queries", ⟨[], []⟩⟩ "Item"
        ⟨none, [⟨"itemId", "item_id", .integer⟩, ⟨"itemName", "item_name", .text⟩]⟩ = .ok t ∧
      t.LastGives [("ITEM_ID", .text " 7 "), ("note", .array []), ("item_id", .null),
        ("Item_Id", .int 8), ("item_name", .null)] "itemId" (.int 8) ∧
      (∀ (α : Type) (target : Target α), mapRow target t ⟨[("ITEM_ID", .text " 7 "),
          ("note", .array []), ("item_id", .null), ("Item_Id", .int 8), ("item_name", .null)]⟩
        = (target.read (.object [("itemId", .int 8)])).mapError
            fun refusal => refusal.toMappingError "Item") ∧
      ∀ (α : Type) (target : Target α),
        mapRow target t ⟨[("Item_Id", .int 8), ("item_name", .array []), ("item_id", .text "x")]⟩
          = .error ⟨"Item", some "itemName", "expected text, found []"⟩ := by
  let t : Table :=
    ⟨"Item", none, [⟨"itemId", "item_id", .integer⟩, ⟨"itemName", "item_name", .text⟩]⟩
  have h : Table.ofDeclaration ⟨"queries", ⟨[], []⟩⟩ "Item" ⟨none, t.properties⟩ = .ok t := rfl
  obtain ⟨-, -, hconsistent, -⟩ := Table.ofDeclaration_eq_ok.1 h
  refine ⟨t, h, ?_⟩
  obtain ⟨-, hpassed, -⟩ := mapRow_decided h ⟨[("ITEM_ID", .text " 7 "), ("note", .array []),
    ("item_id", .null), ("Item_Id", .int 8), ("item_name", .null)]⟩
  obtain ⟨fields, hlast, hread⟩ := hpassed ((exists_fieldsOf_iff hconsistent).1 ⟨_, rfl⟩)
  have hobject : Except.ok (.object [("itemId", .int 8)]) = .ok (Json.ofKeyed fields) :=
    hread Json ⟨"Item", .ok⟩
  obtain rfl : Keyed.empty.insert "itemId" (.int 8) = fields :=
    Keyed.ext (Json.object.inj (Except.ok.inj hobject))
  obtain ⟨hrefused, -⟩ := mapRow_decided h
    ⟨[("Item_Id", .int 8), ("item_name", .array []), ("item_id", .text "x")]⟩
  have hlist : addColumn t .empty ("item_name", .array [])
      = .error ⟨"Item", some "itemName", "expected text, found []"⟩ := rfl
  obtain ⟨e, -, herror⟩ := hrefused ⟨("item_name", .array []), by simp, _,
    (addColumn_eq_error hconsistent).1 hlist⟩
  have hvalue : .error ⟨"Item", some "itemName", "expected text, found []"⟩ = Except.error e :=
    herror Json ⟨"Item", .ok⟩
  obtain rfl := Except.error.inj hvalue
  exact ⟨(hlast _ _).1 rfl, hread, herror⟩

end TableQuery
