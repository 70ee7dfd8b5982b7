import Mathlib
import TableQuery.Proofs.Decimal.Finite
import TableQuery.Proofs.Kind.Shapes
import TableQuery.Proofs.Mapping.Fields

/-!
# Columns that leave no value

A row leaves a property without a value in two ways.  Its columns may hold `null`, or one of doubles
may hold a text that writes a number of which JSON has none: an infinity, no number at all, or a
decimal beyond the largest double.  Such a text is not refused, and its property has no value in the
object of the row, as if the column had been `null`.  There is no third way.

* `Json.InRange` — the numbers that a JSON value can be;
* `Kind.Loses` — a text whose number JSON does not have;
* `Kind.coerce_eq_null_iff` — the values that become `null`;
* `addColumn_of_absent`, `addColumn_of_present` — what a column of either sort does to the object;
* `columns_leave_out` — the properties that have no value in a row.
-/

namespace TableQuery

open Outcome

/-- A number is an integer of sixty-four bits, with a sign or without, or a finite double. -/
inductive Json.InRange : Json → Prop where
  | int {i : Int} (hlow : -(2 ^ 63) ≤ i) (hhigh : i < 2 ^ 64) : InRange (.int i)
  | real {x : Float} (h : x.isFinite = true) : InRange (.real x)
  | null : InRange .null
  | bool (b : Bool) : InRange (.bool b)
  | text (s : String) : InRange (.text s)
  | array (items : List Json) : InRange (.array items)
  | object (fields : List (String × Json)) : InRange (.object fields)

/-- A column of doubles that holds a text, and JSON does not have the double that the text writes. -/
inductive Kind.Loses : Kind → Json → Prop where
  | text {s : String} {x : Float} (hs : floatIn s = some x) (hx : x.isFinite = false) :
      Loses .float (.text s)

/-! ## Values that become `null` -/

theorem Json.isNull_eq_true_iff {v : Json} : v.isNull = true ↔ v = .null := by
  cases v with
  | null => exact iff_of_true rfl rfl
  | _ => refine iff_of_false (fun h => ?_) (fun h => ?_) <;> cases h

namespace Kind

variable {kind : Kind} {v : Json}

theorem Loses.kind_eq (h : kind.Loses v) : kind = .float := by
  cases h
  rfl

theorem ofFloat_eq_null_iff {x : Float} : Json.ofFloat x = .null ↔ x.isFinite = false := by
  rw [Json.ofFloat]
  cases x.isFinite <;> simp

/-- The text of a column of doubles becomes `null` just if it is read as a double that is lost. -/
theorem coerceFloat_text_eq_null_iff {s : String} :
    coerceFloat (.text s) = .ok .null ↔ Loses .float (.text s) := by
  rw [coerceFloat, elim_eq_ok]
  constructor
  · rintro ⟨x, hs, hx⟩
    exact .text hs (ofFloat_eq_null_iff.1 hx)
  · intro h
    cases h with
    | text hs hx => exact ⟨_, hs, ofFloat_eq_null_iff.2 hx⟩

/-- The double nearest to a number that JSON has is not lost. -/
theorem coerceFloat_eq_null_iff (hv : v.InRange) : coerceFloat v = .ok .null ↔ Loses .float v := by
  cases hv with
  | text s => exact coerceFloat_text_eq_null_iff
  | int hlow hhigh =>
    rw [coerceFloat, Except.ok.injEq, ofFloat_eq_null_iff, isFinite_ofInt hlow hhigh]
    refine iff_of_false (fun h => ?_) (fun h => ?_) <;> cases h
  | real hfinite =>
    rw [coerceFloat, Except.ok.injEq, ofFloat_eq_null_iff, hfinite]
    refine iff_of_false (fun h => ?_) (fun h => ?_) <;> cases h
  | null | bool _ | array _ | object _ =>
    refine iff_of_false (fun h => ?_) (fun h => ?_) <;> cases h

/-- **The values that become `null`** are `null` itself and the texts whose number is lost. -/
theorem coerce_eq_null_iff (hv : v.InRange) :
    kind.coerce v = .ok .null ↔ v = .null ∨ kind.Loses v := by
  cases hnull : v.isNull with
  | true =>
    obtain rfl := Json.isNull_eq_true_iff.1 hnull
    exact iff_of_true (coerce_null kind) (.inl rfl)
  | false =>
    have hne : v ≠ .null := by
      rintro rfl
      cases hnull
    rw [or_iff_right hne]
    by_cases hfloat : kind = .float
    · subst hfloat
      rw [coerce.eq_def, hnull, if_neg Bool.false_ne_true]
      exact coerceFloat_eq_null_iff hv
    · refine iff_of_false (fun h => ?_) fun h => hfloat h.kind_eq
      -- the other kinds end in a shape, and no shape has `null` in it
      cases (isShaped_of_coerce_of_ne hnull hfloat h).isNull

/-- The largest double is less than `10 ^ 309`. -/
theorem loses_overflow : Loses .float (.text "1e999") := by
  have hinfinite : (Decimal.nearestFloat 1 999).isFinite = false := by decide +kernel
  exact .text rfl hinfinite

/-- The values that become `null` are `null` alone just if the kind is not that of doubles. -/
theorem coerce_null_only_iff :
    (∀ v : Json, v.InRange → (kind.coerce v = .ok .null ↔ v = .null)) ↔ kind ≠ .float := by
  constructor
  · rintro honly rfl
    cases (honly _ (.text _)).1 ((coerce_eq_null_iff (.text _)).2 (.inr loses_overflow))
  · intro hkind v hv
    rw [coerce_eq_null_iff hv, or_iff_left]
    exact fun h => hkind h.kind_eq

end Kind

/-! ## Columns -/

variable {t : Table} {p : Property} {column : String × Json}

/-- **A column whose value becomes `null`** leaves the object as it is. -/
theorem addColumn_of_absent (h : Table.Consistent t.properties) (hp : t.Labels column.1 p)
    (hcolumn : column.2.InRange) (habsent : column.2 = .null ∨ p.kind.Loses column.2)
    (fields : Keyed Json) : addColumn t fields column = .ok fields := by
  have hnull := (Kind.coerce_eq_null_iff hcolumn).2 habsent
  rw [addColumn, (Table.propertyOf?_eq_some_iff h).2 hp]
  simp only [hnull]
  rfl

/-- **Any other column** gives its property a value in the shape of its kind, or ends the row with an
error that names the property. -/
theorem addColumn_of_present (h : Table.Consistent t.properties) (hp : t.Labels column.1 p)
    (hcolumn : column.2.InRange) (hpresent : ¬(column.2 = .null ∨ p.kind.Loses column.2)) :
    (∃ w, p.kind.coerce column.2 = .ok w ∧ p.kind.IsShaped w ∧
      ∀ fields, addColumn t fields column = .ok (fields.insert p.name w)) ∨
    ∃ mismatch, p.kind.coerce column.2 = .error mismatch ∧
      ∀ fields, addColumn t fields column
        = .error ⟨t.typeName, some p.name, mismatch.message⟩ := by
  have hproperty := (Table.propertyOf?_eq_some_iff h).2 hp
  cases hcoerce : p.kind.coerce column.2 with
  | error mismatch =>
    refine .inr ⟨mismatch, rfl, fun fields => ?_⟩
    rw [addColumn, hproperty]
    simp only [hcoerce]
  | ok w =>
    have hshape : p.kind.IsShaped w := by
      refine (Kind.isShaped_of_coerce hcoerce).resolve_left ?_
      rintro rfl
      exact hpresent ((Kind.coerce_eq_null_iff hcolumn).1 hcoerce)
    refine .inl ⟨w, rfl, hshape, fun fields => ?_⟩
    rw [addColumn, hproperty]
    simp only [hcoerce, hshape.isNull]
    rfl

/-! ## Rows -/

/-- A column that its property does not refuse gives it no value just if it becomes `null`. -/
theorem Table.not_gives_iff (h : Table.Consistent t.properties) (hp : t.Labels column.1 p)
    (hcolumn : column.2.InRange) (hnone : ∀ e, ¬t.Refuses column e) :
    (∀ w, ¬t.Gives column p.name w) ↔ column.2 = .null ∨ p.kind.Loses column.2 := by
  simp only [gives_iff_of_labels h hp, true_and]
  cases hcoerce : p.kind.coerce column.2 with
  | error mismatch =>
    exact absurd ((refuses_iff_of_labels h hp).2 ⟨mismatch, hcoerce, rfl⟩) (hnone _)
  | ok w =>
    rw [← Kind.coerce_eq_null_iff hcolumn, hcoerce, Except.ok.injEq, ← Json.isNull_eq_true_iff]
    simp

/-- The object of a row has no value for a property just if all its columns become `null`. -/
theorem get?_fieldsOf_eq_none (h : Table.Consistent t.properties) {r : Row} {fields : Keyed Json}
    (hr : ∀ c ∈ r.columns, c.2.InRange) (hp : p ∈ t.properties)
    (hfields : fieldsOf t r = .ok fields) :
    fields.get? p.name = none ↔
      ∀ c ∈ r.columns, t.Labels c.1 p → c.2 = .null ∨ p.kind.Loses c.2 := by
  obtain ⟨hnone, hlast⟩ := (fieldsOf_eq_ok h).1 hfields
  rw [Option.eq_none_iff_forall_ne_some]
  constructor
  · intro hempty c hc hlabels
    refine (Table.not_gives_iff h hlabels (hr c hc) (hnone c hc)).1 fun w hw => ?_
    obtain ⟨v, hv⟩ := Table.exists_lastGives hc hw
    exact hempty v ((hlast _ _).2 hv)
  · intro habsent v hv
    obtain ⟨c, hc, q, hq, hname, hw⟩ := ((hlast _ _).1 hv).exists_mem
    obtain rfl := h.eq_of_name hq.1 hp hname
    exact (Table.not_gives_iff h hq (hr c hc) (hnone c hc)).2 (habsent c hc hq) v ⟨q, hq, hname, hw⟩

/-- **What a row leaves out.**  A JSON value becomes `null` in a column just if it is `null` or a text
whose number is lost, which the kind of doubles alone has.  A column with such a value leaves the
object as it is; any other column of a property gives it a value in the shape of its kind or ends the
row with an error that names the property.  So a row that no property refuses has no value for a
property just if the columns of this property all hold `null` or lose their number. -/
theorem columns_leave_out {folder : Folder} {typeName : String} {d : Declaration}
    (h : Table.ofDeclaration folder typeName d = .ok t) :
    (∀ (kind : Kind) (v : Json), v.InRange →
      (kind.coerce v = .ok .null ↔ v = .null ∨ kind.Loses v)) ∧
    (∀ kind : Kind, (∀ v : Json, v.InRange → (kind.coerce v = .ok .null ↔ v = .null)) ↔
      kind ≠ .float) ∧
    (∀ (column : String × Json) (p : Property), t.Labels column.1 p → column.2.InRange →
      (column.2 = .null ∨ p.kind.Loses column.2 →
        ∀ fields, addColumn t fields column = .ok fields) ∧
      (¬(column.2 = .null ∨ p.kind.Loses column.2) →
        (∃ w, p.kind.coerce column.2 = .ok w ∧ p.kind.IsShaped w ∧
          ∀ fields, addColumn t fields column = .ok (fields.insert p.name w)) ∨
        ∃ mismatch, p.kind.coerce column.2 = .error mismatch ∧
          ∀ fields, addColumn t fields column
            = .error ⟨t.typeName, some p.name, mismatch.message⟩)) ∧
    ∀ r : Row, (∀ c ∈ r.columns, c.2.InRange) →
      (∃ e, t.FirstRefuses r.columns e ∧
        ∀ (α : Type) (target : Target α), mapRow target t r = .error e) ∨
      ∃ fields : Keyed Json,
        (∀ (α : Type) (target : Target α), mapRow target t r
          = (target.read (.ofKeyed fields)).mapError
              fun refusal => refusal.toMappingError t.typeName) ∧
        ∀ p ∈ t.properties, (fields.get? p.name = none ↔
          ∀ c ∈ r.columns, t.Labels c.1 p → c.2 = .null ∨ p.kind.Loses c.2) := by
  obtain ⟨base, -, hconsistent, rfl⟩ := Table.ofDeclaration_eq_ok.1 h
  refine ⟨fun kind v hv => Kind.coerce_eq_null_iff hv, fun kind => Kind.coerce_null_only_iff,
    fun column p hp hcolumn => ⟨fun habsent => addColumn_of_absent hconsistent hp hcolumn habsent,
      fun hpresent => addColumn_of_present hconsistent hp hcolumn hpresent⟩, fun r hr => ?_⟩
  cases hfields : fieldsOf ⟨typeName, base, d.properties⟩ r with
  | error e =>
    exact .inl ⟨e, (fieldsOf_eq_error hconsistent).1 hfields,
      fun _ target => mapRow_of_error target hfields⟩
  | ok fields =>
    exact .inr ⟨fields, fun _ target => mapRow_of_ok target hfields,
      fun p hp => get?_fieldsOf_eq_none hconsistent hr hp hfields⟩

/-- A price that is written larger than any double is left out of the object, and a price that writes
no number ends the row. -/
theorem columns_leave_out_price :
    ∃ t, Table.ofDeclaration ⟨"queries", ⟨[], []⟩⟩ "Item"
        ⟨none, [⟨"name", "name", .text⟩, ⟨"price", "price", .float⟩]⟩ = .ok t ∧
      Kind.float.coerce (.text "1e999") = .ok .null ∧
      (∀ fields, addColumn t fields ("Price", .text "1e999") = .ok fields) ∧
      (∀ fields, addColumn t fields ("price", .text "many")
        = .error ⟨"Item", some "price", "expected number, found `many`"⟩) ∧
      ∃ fields : Keyed Json, fields.get? "price" = none ∧
        ∀ (α : Type) (target : Target α),
          mapRow target t ⟨[("Price", .text "1e999"), ("name", .text "ink")]⟩
            = (target.read (.ofKeyed fields)).mapError
                fun refusal => refusal.toMappingError "Item" := by
  let t : Table := ⟨"Item", none, [⟨"name", "name", .text⟩, ⟨"price", "price", .float⟩]⟩
  have h : Table.ofDeclaration ⟨"queries", ⟨[], []⟩⟩ "Item" ⟨none, t.properties⟩ = .ok t := rfl
  obtain ⟨hnull, -, hcolumn, hrow⟩ := columns_leave_out h
  have hprice := (hcolumn ("Price", .text "1e999") ⟨"price", "price", .float⟩
    ⟨by decide, rfl⟩ (.text _)).1 (.inr Kind.loses_overflow)
  have hrange : ∀ c ∈ [("Price", Json.text "1e999"), ("name", .text "ink")], c.2.InRange :=
    List.forall_mem_cons.2 ⟨.text _, List.forall_mem_singleton.2 (.text _)⟩
  refine ⟨t, h, (hnull .float _ (.text _)).2 (.inr Kind.loses_overflow), hprice, fun _ => rfl, ?_⟩
  rcases hrow ⟨_⟩ hrange with ⟨e, ⟨before, c, after, hcolumns, -, hrefused⟩, -⟩ | hfields
  · obtain ⟨-, -, hconsistent, -⟩ := Table.ofDeclaration_eq_ok.1 h
    have herror : addColumn t .empty c = .error e := (addColumn_eq_error hconsistent).2 hrefused
    have hc : c ∈ before ++ c :: after := List.mem_append_right _ List.mem_cons_self
    rw [← hcolumns] at hc
    rcases List.mem_cons.1 hc with rfl | hc
    · rw [hprice] at herror
      cases herror
    · obtain rfl := List.mem_singleton.1 hc
      cases herror
  · obtain ⟨fields, hread, hnone⟩ := hfields
    refine ⟨fields, (hnone ⟨"price", "price", .float⟩ ?_).2 ?_, hread⟩
    · exact List.mem_cons_of_mem _ List.mem_cons_self
    · refine List.forall_mem_cons.2 ⟨fun _ => .inr Kind.loses_overflow, List.forall_mem_singleton.2 ?_⟩
      rintro ⟨-, hlabel⟩
      exact absurd hlabel (by decide)

/-- A text becomes `null` in a column of doubles though it is not `null`. -/
theorem not_coerce_null_only :
    ¬∀ (kind : Kind) (v : Json), kind.coerce v = .ok .null ↔ v = .null := by
  intro honly
  cases (honly .float _).1 ((Kind.coerce_eq_null_iff (.text _)).2 (.inr Kind.loses_overflow))

end TableQuery
