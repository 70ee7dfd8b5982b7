import TableQuery.Proofs.Catalogue

/-!
# Finding properties by position

The properties of a table can be looked up by their positions in the list, which are kept under the
names and under the columns in small letters.  The positions are collected by the loop that checks the
properties: a property whose name or column has a position already is a duplicate.  This loop ends as
the checks of a table do, and looking up a position finds what a search through the list finds.

* `Positions` — positions under names and under columns;
* `Positions.add`, `Positions.collect` — one more property, and all of a table;
* `Positions.Marks` — the positions are those of these properties, by the keys that `MarksBy` takes;
* `Positions.agree_collect` — they are, if the checks succeed, and the errors are the same;
* `Positions.Marks.property?_eq`, `Positions.Marks.propertyOf?_eq` — a position leads to the property
  that a search finds.
-/

namespace TableQuery

open Outcome

/-- Positions in a list of properties. -/
structure Positions where
  /-- By the name of the property. -/
  byName : Keyed Nat
  /-- By its column, in small letters. -/
  byColumn : Keyed Nat

namespace Positions

/-! ## Collecting positions -/

/-- No positions. -/
def empty : Positions := ⟨.empty, .empty⟩

/-- The position of one more property, whose name and column must not have one. -/
def add (typeName : String) (index : Positions) (p : Property) (position : Nat) :
    Except ConfigurationError Positions := do
  checkIdentifier p.name
  checkIdentifier p.column
  if index.byName.contains p.name then .error (.duplicateProperty typeName p.name)
  else if index.byColumn.contains (Text.lower p.column) then
    .error (.duplicateColumn typeName p.column)
  else
    .ok ⟨index.byName.insert p.name position, index.byColumn.insert (Text.lower p.column) position⟩

/-- The positions of properties, the first one being at `start`. -/
def collect (typeName : String) (index : Positions) (start : Nat) :
    List Property → Except ConfigurationError Positions
  | [] => .ok index
  | p :: rest => do collect typeName (← index.add typeName p start) (start + 1) rest

/-! ## Which positions these are -/

/-- Under each key stands the position of the property that has it, and nothing else. -/
def MarksBy (key : Property → String) (m : Keyed Nat) (properties : List Property) : Prop :=
  ∀ k i, m.get? k = some i ↔ ∃ p, properties[i]? = some p ∧ key p = k

/-- The positions are those of the properties, by name and by column. -/
structure Marks (index : Positions) (properties : List Property) : Prop where
  names : MarksBy Property.name index.byName properties
  columns : MarksBy (fun p => Text.lower p.column) index.byColumn properties

namespace MarksBy

variable {key : Property → String} {m : Keyed Nat} {k : String} {properties earlier : List Property}
  {p : Property}

/-- A key has a position just if a property has this key. -/
theorem contains_eq_any (h : MarksBy key m properties) :
    m.contains k = properties.any fun p => key p == k := by
  rw [Bool.eq_iff_iff, Keyed.contains, Option.isSome_iff_exists, List.any_eq_true]
  simp only [h k, beq_iff_eq]
  constructor
  · rintro ⟨i, p, hp, hk⟩
    exact ⟨p, List.mem_of_getElem? hp, hk⟩
  · rintro ⟨p, hmem, hk⟩
    obtain ⟨i, hi⟩ := List.mem_iff_getElem?.1 hmem
    exact ⟨i, p, hi, hk⟩

/-- The position of a key leads to a property that has this key. -/
theorem bind_eq_some_iff (h : MarksBy key m properties) :
    (m.get? k).bind (properties[·]?) = some p ↔ p ∈ properties ∧ key p = k := by
  rw [Option.bind_eq_some_iff]
  simp only [h k]
  constructor
  · rintro ⟨i, ⟨q, hq, hk⟩, hp⟩
    obtain rfl := Option.some.inj (hq.symm.trans hp)
    exact ⟨List.mem_of_getElem? hp, hk⟩
  · rintro ⟨hmem, hk⟩
    obtain ⟨i, hi⟩ := List.mem_iff_getElem?.1 hmem
    exact ⟨i, ⟨p, hi, hk⟩, hi⟩

/-- **One more property** with a new key is marked behind the others. -/
theorem concat (h : MarksBy key m earlier) (hnew : m.contains (key p) = false) :
    MarksBy key (m.insert (key p) earlier.length) (earlier ++ [p]) := by
  intro k i
  rw [Keyed.get?_insert]
  obtain hlt | rfl | hgt : i < earlier.length ∨ i = earlier.length ∨ earlier.length < i := by omega
  · rw [List.getElem?_append_left hlt, ← h]
    split
    next hk =>
      -- The key is new, so it has no position among the earlier properties.
      rw [Keyed.contains, Option.isSome_eq_false_iff, Option.isNone_iff_eq_none] at hnew
      rw [hk, hnew, Option.some.injEq]
      exact iff_of_false (by omega) (by simp)
    next => rfl
  · rw [List.getElem?_concat_length]
    split
    next hk => simp [hk]
    next hk =>
      have hnone : m.get? k ≠ some earlier.length := by
        rw [Ne, h]
        simp
      simp [hnone, Ne.symm hk]
  · have hend : (earlier ++ [p])[i]? = none := by
      rw [List.getElem?_eq_none_iff, List.length_append, List.length_singleton]
      omega
    have hnone : m.get? k ≠ some i := by
      rw [Ne, h, List.getElem?_eq_none (by omega)]
      simp
    rw [hend]
    split
    next =>
      rw [Option.some.injEq]
      exact iff_of_false (by omega) (by simp)
    next => simp [hnone]

end MarksBy

variable {typeName : String} {index : Positions} {earlier : List Property} {p : Property}

theorem marks_empty : empty.Marks [] := ⟨by simp [empty, MarksBy], by simp [empty, MarksBy]⟩

/-- **The positions are collected as the properties are checked**: both end with one error, or the
properties pass and all of them are marked. -/
theorem agree_collect {rest : List Property} (h : index.Marks earlier) :
    Agree (fun index' _ => index'.Marks (earlier ++ rest))
      (collect typeName index earlier.length rest) (Table.checkProperties typeName earlier rest) := by
  induction rest generalizing index earlier with
  | nil =>
    rw [List.append_nil]
    exact .ok h
  | cons p rest ih =>
    have hname : index.byName.contains p.name = Table.hasName earlier p.name :=
      h.names.contains_eq_any
    have hcolumn : index.byColumn.contains (Text.lower p.column) = Table.hasColumn earlier p.column :=
      h.columns.contains_eq_any
    rw [collect, add, Table.checkProperties, bind_assoc]
    refine (Agree.refl (checkIdentifier p.name)).bind fun _ _ _ => ?_
    rw [bind_assoc]
    refine (Agree.refl (checkIdentifier p.column)).bind fun _ _ _ => ?_
    rw [hname, hcolumn]
    cases hn : Table.hasName earlier p.name with
    | true => exact .error _
    | false =>
      cases hc : Table.hasColumn earlier p.column with
      | true => exact .error _
      | false =>
        have hmarked : Marks ⟨index.byName.insert p.name earlier.length,
            index.byColumn.insert (Text.lower p.column) earlier.length⟩ (earlier ++ [p]) :=
          ⟨h.names.concat (hname.trans hn), h.columns.concat (hcolumn.trans hc)⟩
        have hrest := ih hmarked
        rw [List.length_append, List.length_singleton, List.append_assoc] at hrest
        exact hrest

/-! ## Following a position -/

section Following

variable {t : Table}

/-- Under a name stands the position of the property that a search finds. -/
theorem Marks.property?_eq (h : index.Marks t.properties) (ht : Table.Consistent t.properties)
    (name : String) : (index.byName.get? name).bind (t.properties[·]?) = t.property? name :=
  Option.ext fun _ => h.names.bind_eq_some_iff.trans (Table.property?_eq_some_iff ht).symm

/-- Under a label in small letters stands the position of the property that a search finds. -/
theorem Marks.propertyOf?_eq (h : index.Marks t.properties) (ht : Table.Consistent t.properties)
    (label : String) :
    (index.byColumn.get? (Text.lower label)).bind (t.properties[·]?) = t.propertyOf? label :=
  Option.ext fun _ => h.columns.bind_eq_some_iff.trans (Table.propertyOf?_eq_some_iff ht).symm

end Following

end Positions

end TableQuery
