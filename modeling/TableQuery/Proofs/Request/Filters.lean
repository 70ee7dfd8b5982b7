import Mathlib.Data.List.ReduceOption
import TableQuery.Proofs.Request.Changes

/-!
# The filters of a request

When all pairs of a request are read, each property that has a value makes a filter, unless the
value is blank.  Which filter that is depends on the property, its operator and its value, and not on
the filters before it.

* `Request.filterOf` — the filter that a value makes;
* `Request.filterOf_eq_ok_some` — what is in it;
* `Request.readFilters_eq` — the loop over all values reads one after the other;
* `Request.readAll_eq_ok_filters` — what a request describes, with its filters.
-/

namespace TableQuery

open Outcome

namespace Request

/-- A loop whose other elements give nothing collects what the kept ones give. -/
theorem mapM_reduceOption_eq_ok {ε α β : Type} {f : α → Except ε (Option β)} {keep : α → Bool}
    {as : List α} {bs : List β}
    (hdrop : ∀ a ∈ as, keep a = false → f a = .ok none)
    (hkeep : ∀ a ∈ as, keep a = true → f a ≠ .ok none) :
    (∃ fs, as.mapM f = .ok fs ∧ fs.reduceOption = bs) ↔
      List.Forall₂ (fun a b => f a = .ok (some b)) (as.filter keep) bs := by
  simp only [mapM_eq_ok]
  induction as generalizing bs with
  | nil => simp [eq_comm]
  | cons a as ih =>
    rw [List.forall_mem_cons] at hdrop hkeep
    have ih := fun bs => @ih bs hdrop.2 hkeep.2
    simp only [List.forall₂_cons_left_iff]
    cases ha : keep a with
    | false =>
      rw [List.filter_cons_of_neg (Bool.eq_false_iff.1 ha), ← ih, hdrop.1 ha]
      constructor
      · rintro ⟨_, ⟨o, fs, ho, hfs, rfl⟩, rfl⟩
        cases ho
        exact ⟨fs, hfs, (List.reduceOption_cons_of_none fs).symm⟩
      · rintro ⟨fs, hfs, rfl⟩
        exact ⟨none :: fs, ⟨none, fs, rfl, hfs, rfl⟩, List.reduceOption_cons_of_none fs⟩
    | true =>
      rw [List.filter_cons_of_pos ha, List.forall₂_cons_left_iff]
      simp only [← ih]
      constructor
      · rintro ⟨_, ⟨o, fs, ho, hfs, rfl⟩, rfl⟩
        cases o with
        | none => exact absurd ho (hkeep.1 ha)
        | some b => exact ⟨b, _, ho, ⟨fs, hfs, rfl⟩, List.reduceOption_cons_of_some b fs⟩
      · rintro ⟨b, _, hb, ⟨fs, hfs, rfl⟩, rfl⟩
        exact ⟨some b :: fs, ⟨some b, fs, hb, hfs, rfl⟩, List.reduceOption_cons_of_some b fs⟩

variable {t : Table} {operators : List (String × String)}

/-- The filter that the value of a property makes. -/
def filterOf (t : Table) (operators : List (String × String)) (entry : String × String) :
    Except RequestError (Option PropertyFilter) :=
  match t.property? entry.1 with
  | none => .ok none
  | some p =>
    let operation := (operators.lookup entry.1).getD defaultOperator
    if Text.isBlankText entry.2 then .ok none
    else (readOperand p operation entry.2).map fun v => some ⟨p.name, p.column, operation, v⟩

/-- **What is in a filter**: the property, its column, its operator, and the value that was read. -/
theorem filterOf_eq_ok_some {entry : String × String} {f : PropertyFilter} :
    filterOf t operators entry = .ok (some f) ↔
      ∃ p v, t.property? entry.1 = some p ∧ Text.isBlankText entry.2 = false ∧
        readOperand p ((operators.lookup entry.1).getD defaultOperator) entry.2 = .ok v ∧
        f = ⟨p.name, p.column, (operators.lookup entry.1).getD defaultOperator, v⟩ := by
  rw [filterOf]
  cases t.property? entry.1 with
  | none => simp
  | some p =>
    cases hblank : Text.isBlankText entry.2 with
    | true => simp
    | false =>
      simp only [Bool.false_eq_true, if_false, map_eq_ok, Option.some.injEq]
      constructor
      · rintro ⟨v, hv, rfl⟩
        exact ⟨p, v, rfl, trivial, hv, rfl⟩
      · rintro ⟨_, v, rfl, -, hv, rfl⟩
        exact ⟨v, hv, rfl⟩

theorem outcome_readFilter (d : Descriptor) (entry : String × String) :
    (readFilter t operators d entry).outcome
      = (filterOf t operators entry).map fun f => { d with filters := d.filters ++ f.toList } := by
  have hsame : d = { d with filters := d.filters ++ (none : Option PropertyFilter).toList } := by
    simp
  rw [readFilter, filterOf]
  cases t.property? entry.1 with
  | none => exact congrArg Except.ok hsame
  | some p =>
    simp only
    cases Text.isBlankText entry.2 with
    | true => exact congrArg Except.ok hsame
    | false =>
      simp only [Bool.false_eq_true, if_false, Traced.outcome_bind, Traced.outcome_ofExcept]
      cases readOperand p ((operators.lookup entry.1).getD defaultOperator) entry.2 <;> rfl

/-- A loop that adds what is read to the filters reads one entry after the other. -/
theorem foldlM_filterOf (entries : List (String × String)) (d : Descriptor) :
    entries.foldlM (fun d entry => (readFilter t operators d entry).outcome) d
      = (entries.mapM (filterOf t operators)).map fun fs =>
          { d with filters := d.filters ++ fs.reduceOption } := by
  simp only [outcome_readFilter]
  induction entries generalizing d with
  | nil => simp [Except.map, pure, Except.pure, List.reduceOption]
  | cons entry entries ih =>
    rw [List.foldlM_cons, List.mapM_cons]
    cases filterOf t operators entry with
    | error e => rfl
    | ok f =>
      refine (ih _).trans ?_
      cases entries.mapM (filterOf t operators) with
      | error e => rfl
      | ok fs => cases f <;> simp [Except.map, bind, Except.bind, pure, Except.pure]

theorem readFilters_eq (draft : Draft) :
    readFilters t draft = (draft.values.mapM (filterOf t draft.operators)).map fun fs =>
      { draft.descriptor with filters := draft.descriptor.filters ++ fs.reduceOption } :=
  foldlM_filterOf draft.values draft.descriptor

/-- **What a request describes**: the page, the size and the orders that its pairs ask for, and the
filters that their values make. -/
theorem readAll_eq_ok_filters {pairs : List (String × String)} {d : Descriptor} :
    (readAll t pairs).outcome = .ok d ↔ ∃ changes draft filters,
      pairs.mapM (readChange t) = .ok changes ∧ changes.foldl Draft.apply .blank = draft ∧
      draft.values.mapM (filterOf t draft.operators) = .ok filters ∧
      d = { draft.descriptor with filters := filters.reduceOption } := by
  have hnone : ∀ changes : List Change,
      (changes.foldl Draft.apply .blank).descriptor.filters = [] := fun changes =>
    Draft.filters_foldl_apply changes .blank
  rw [readAll_eq_ok]
  simp only [readFilters_eq, map_eq_ok, hnone, List.nil_append]
  constructor
  · rintro ⟨changes, hchanges, filters, hfilters, rfl⟩
    exact ⟨changes, _, filters, hchanges, rfl, hfilters, rfl⟩
  · rintro ⟨changes, _, filters, hchanges, rfl, hfilters, rfl⟩
    exact ⟨changes, hchanges, filters, hfilters, rfl⟩

end Request

end TableQuery
