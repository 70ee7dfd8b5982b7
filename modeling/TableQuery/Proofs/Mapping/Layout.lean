import TableQuery.Proofs.Kind.Shapes
import TableQuery.Proofs.Mapping.Fields

/-!
# Objects laid out as rows

An object whose fields are properties of a table, each with a value in the shape of its kind, can be
laid out as a row: a column for each field, under the label of the property in any letter case, in any
order, and between them columns of no property and columns without a value.  The object of such a row
is the object again.

* `Table.Fits` — objects that can be laid out;
* `Table.LaidOut` — the rows of an object;
* `mapRow_laidOut` — the object of such a row.
-/

namespace TableQuery

open Outcome

namespace Table

/-- Every field is a property of the table, with a value in the shape of its kind. -/
def Fits (t : Table) (fields : Keyed Json) : Prop :=
  ∀ field ∈ fields.entries, ∃ p ∈ t.properties, p.name = field.1 ∧ p.kind.IsShaped field.2

/-- The column holds the value of the field, under the label of its property. -/
def Carries (t : Table) (field column : String × Json) : Prop :=
  ∃ p, t.Labels column.1 p ∧ p.name = field.1 ∧ column.2 = field.2

/-- The columns of the row are those of the fields, columns of no property and columns without a
value, in any order. -/
def LaidOut (t : Table) (fields : Keyed Json) (r : Row) : Prop :=
  ∃ own loose empty, r.columns.Perm (own ++ loose ++ empty) ∧
    List.Forall₂ t.Carries fields.entries own ∧
    (∀ c ∈ loose, ∀ p, ¬t.Labels c.1 p) ∧ ∀ c ∈ empty, c.2 = .null

variable {t : Table} {fields : Keyed Json} {r : Row} {column field : String × Json} {name : String}
  {v : Json}

/-- The column of a field gives its property its value, and is not refused. -/
theorem Carries.coerce (h : Consistent t.properties) (hfields : t.Fits fields)
    (hfield : field ∈ fields.entries) (hc : t.Carries field column) {p : Property}
    (hp : t.Labels column.1 p) : p.name = field.1 ∧ p.kind.coerce column.2 = .ok field.2 ∧
      field.2.isNull = false := by
  obtain ⟨q, hq, hname, hvalue⟩ := hc
  obtain rfl := hp.unique h hq
  obtain ⟨p', hp', hname', hshaped⟩ := hfields field hfield
  obtain rfl := h.eq_of_name hp.1 hp' (hname.trans hname'.symm)
  rw [hvalue]
  exact ⟨hname, Kind.coerce_of_isShaped hshaped, hshaped.isNull⟩

/-- What stands in a row of an object: the columns of its fields, and columns that do nothing. -/
theorem LaidOut.mem_columns (hr : t.LaidOut fields r) (hc : column ∈ r.columns) :
    (∃ field ∈ fields.entries, t.Carries field column) ∨ (∀ p, ¬t.Labels column.1 p) ∨
      column.2 = .null := by
  obtain ⟨own, loose, empty, hperm, hown, hloose, hempty⟩ := hr
  rcases List.mem_append.1 (hperm.mem_iff.1 hc) with hc | hc
  · rcases List.mem_append.1 hc with hc | hc
    · exact .inl (exists_mem_of_forall₂ hown.flip hc)
    · exact .inr (.inl (hloose column hc))
  · exact .inr (.inr (hempty column hc))

theorem LaidOut.not_refuses (h : Consistent t.properties) (hfields : t.Fits fields)
    (hr : t.LaidOut fields r) (hc : column ∈ r.columns) (e : MappingError) :
    ¬t.Refuses column e := by
  rintro ⟨p, mismatch, hp, hmismatch, -⟩
  rcases hr.mem_columns hc with ⟨field, hfield, hcarries⟩ | hloose | hnull
  · rw [(hcarries.coerce h hfields hfield hp).2.1] at hmismatch
    cases hmismatch
  · exact hloose p hp
  · rw [hnull, Kind.coerce_null] at hmismatch
    cases hmismatch

/-- The columns of a row give their properties the fields of its object, and nothing else. -/
theorem LaidOut.gives_iff (h : Consistent t.properties) (hfields : t.Fits fields)
    (hr : t.LaidOut fields r) :
    (∃ c ∈ r.columns, t.Gives c name v) ↔ (name, v) ∈ fields.entries := by
  constructor
  · rintro ⟨c, hc, p, hp, rfl, hv, hpresent⟩
    rcases hr.mem_columns hc with ⟨field, hfield, hcarries⟩ | hloose | hnull
    · obtain ⟨hname, hvalue, -⟩ := hcarries.coerce h hfields hfield hp
      obtain rfl := Except.ok.inj (hv.symm.trans hvalue)
      rw [hname]
      exact hfield
    · exact absurd hp (hloose p)
    · rw [hnull, Kind.coerce_null] at hv
      obtain rfl := Except.ok.inj hv
      cases hpresent
  · intro hfield
    obtain ⟨own, loose, empty, hperm, hown, -, -⟩ := hr
    obtain ⟨c, hc, hcarries⟩ := exists_mem_of_forall₂ hown hfield
    obtain ⟨p, hp, -, -⟩ := id hcarries
    have hmem : c ∈ r.columns :=
      hperm.mem_iff.2 (List.mem_append_left _ (List.mem_append_left _ hc))
    exact ⟨c, hmem, p, hp, hcarries.coerce h hfields hfield hp⟩

/-- **The last values of the properties are the fields of the object**: a field has one value, so it
does not matter which of the columns is the last one. -/
theorem LaidOut.lastGives_iff (h : Consistent t.properties) (hfields : t.Fits fields)
    (hr : t.LaidOut fields r) : t.LastGives r.columns name v ↔ fields.get? name = some v := by
  constructor
  · intro hlast
    exact Keyed.get?_eq_some_iff.2 ((hr.gives_iff h hfields).1 hlast.exists_mem)
  · intro hget
    obtain ⟨c, hc, hgives⟩ := (hr.gives_iff h hfields).2 (Keyed.get?_eq_some_iff.1 hget)
    obtain ⟨w, hlast⟩ := exists_lastGives hc hgives
    have hget' := Keyed.get?_eq_some_iff.2 ((hr.gives_iff h hfields).1 hlast.exists_mem)
    obtain rfl := Option.some.inj (hget.symm.trans hget')
    exact hlast

end Table

end TableQuery
