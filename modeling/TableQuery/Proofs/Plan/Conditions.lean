import TableQuery.Plan
import TableQuery.Proofs.Keyed
import TableQuery.Proofs.Operators
import TableQuery.Proofs.Outcome

/-!
# The conditions of a plan

A plan that succeeds has found an operator for each filter, and has put one condition behind the
base query for each of them.  This file says once what a step of the plan does, and from that what
the whole plan has done.  A step binds a name that is new, so the values of a plan are exactly those
that were bound: each list of entries is a permutation of what the steps have added.

* `withParameter_eq_ok`, `withFilter_eq_ok` — one step;
* `Condition` — a filter with its operator, the text that it adds and the value that it binds;
* `foldlM_withFilter`, `foldlM_withParameter` — a loop over filters, and one over further values;
* `Plan.Composed`, `Plan.core_eq_ok` — what a plan has done before its window.
-/

namespace TableQuery

open Outcome

/-! ## Steps -/

namespace Draft

/-- **One value**: its name is new, and nothing else changes. -/
theorem withParameter_eq_ok {a b : Draft} {key : String} {v : Value} :
    a.withParameter key v = .ok b ↔
      a.parameters.contains key = false ∧ b = ⟨a.text, a.parameters.insert key v⟩ := by
  rw [withParameter]
  cases a.parameters.contains key with
  | true => simp
  | false => simp [eq_comm]

/-- **One filter**: its operator is known, its column is an identifier that is no name of a value
yet, and the draft has one more condition and one more value. -/
theorem withFilter_eq_ok {r : Registry} {a b : Draft} {f : PropertyFilter} :
    a.withFilter r f = .ok b ↔
      ∃ op, r.lookup f.operation = .ok op ∧ isIdentifier f.column = true ∧
        a.parameters.contains f.column = false ∧
        b = ⟨a.text ++ " AND " ++ op.fragment f.column,
          a.parameters.insert f.column (op.parameter f.value)⟩ := by
  rw [withFilter, bind_eq_ok]
  simp only [check_bind_eq_ok, checkIdentifier_eq_ok, withParameter_eq_ok]

end Draft

/-! ## Conditions -/

/-- A filter and the operator that it calls. -/
structure Condition where
  filter : PropertyFilter
  operator : Operator

namespace Condition

/-- The condition in words of the operator. -/
def fragment (c : Condition) : String := c.operator.fragment c.filter.column

/-- The value that the placeholder of the condition takes. -/
def value (c : Condition) : Value := c.operator.parameter c.filter.value

end Condition

/-- Conditions as they stand behind a base query. -/
def conditionsText : List Condition → String
  | [] => ""
  | c :: cs => " AND " ++ c.fragment ++ conditionsText cs

/-- The name that a condition binds, with its value. -/
def Condition.entry (c : Condition) : String × Value := (c.filter.column, c.value)

theorem map_fst_entry {cs : List Condition} {fs : List PropertyFilter}
    (h : cs.map Condition.filter = fs) :
    (cs.map Condition.entry).map Prod.fst = fs.map PropertyFilter.column := by
  rw [← h, List.map_map, List.map_map]
  rfl

/-- A condition for each filter, in their order: its operator is the one that the filter names, and
its column is an identifier. -/
structure Conditions (r : Registry) (fs : List PropertyFilter) (cs : List Condition) : Prop where
  filters : cs.map Condition.filter = fs
  lookup : ∀ c ∈ cs, r.lookup c.filter.operation = .ok c.operator
  column : ∀ c ∈ cs, isIdentifier c.filter.column = true

namespace Conditions

variable {r : Registry} {fs fs' : List PropertyFilter} {cs cs' : List Condition}

/-- Filters have their conditions in one way only: each finds its operator by itself. -/
theorem eq_filterMap (h : Conditions r fs cs) :
    cs = fs.filterMap fun f => (r.operators.get? f.operation).map fun op => ⟨f, op⟩ := by
  have hfound : ∀ c ∈ cs,
      (r.operators.get? c.filter.operation).map (fun op => Condition.mk c.filter op) = some c := by
    intro c hc
    have hget : r.operators.get? c.filter.operation = some c.operator :=
      Registry.lookup_eq_ok.1 (h.lookup c hc)
    rw [hget]
    rfl
  rw [← h.filters, List.filterMap_map]
  exact ((List.filterMap_congr hfound).trans List.filterMap_some).symm

/-- The same filters in another order have the same conditions in that order. -/
theorem perm (h : Conditions r fs cs) (h' : Conditions r fs' cs') (hfs : fs.Perm fs') :
    cs.Perm cs' := by
  rw [h.eq_filterMap, h'.eq_filterMap]
  exact hfs.filterMap _

end Conditions

/-! ## Loops -/

/-- **A loop over filters**, by induction on them: behind the text that was there it puts a condition
for each filter, and to the values that were there it adds that of each condition. -/
theorem foldlM_withFilter {r : Registry} {fs : List PropertyFilter} {a b : Draft}
    (h : fs.foldlM (Draft.withFilter r) a = .ok b) :
    ∃ cs, Conditions r fs cs ∧ b.text = a.text ++ conditionsText cs ∧
      b.parameters.entries.Perm (cs.map Condition.entry ++ a.parameters.entries) := by
  induction fs generalizing a with
  | nil =>
    obtain rfl : a = b := Except.ok.inj h
    exact ⟨[], ⟨rfl, by simp, by simp⟩, by simp [conditionsText], .refl _⟩
  | cons f fs ih =>
    rw [List.foldlM_cons] at h
    obtain ⟨m, hm, hrest⟩ := bind_eq_ok.1 h
    obtain ⟨op, hop, hcolumn, hnew, rfl⟩ := Draft.withFilter_eq_ok.1 hm
    obtain ⟨cs, hcs, htext, hentries⟩ := ih hrest
    refine ⟨⟨f, op⟩ :: cs, ⟨?_, ?_, ?_⟩, ?_, ?_⟩
    · rw [List.map_cons, hcs.filters]
    · exact List.forall_mem_cons.2 ⟨hop, hcs.lookup⟩
    · exact List.forall_mem_cons.2 ⟨hcolumn, hcs.column⟩
    · rw [htext, conditionsText, ← String.append_assoc, ← String.append_assoc]
      rfl
    · have hinsert := Keyed.perm_insert hnew (op.parameter f.value)
      exact (hentries.trans (hinsert.append_left _)).trans List.perm_middle

/-- **A loop over further values** changes no text, and adds these values. -/
theorem foldlM_withParameter {entries : List (String × Value)} {a b : Draft}
    (h : entries.foldlM (fun draft e => draft.withParameter e.1 e.2) a = .ok b) :
    b.text = a.text ∧ b.parameters.entries.Perm (entries ++ a.parameters.entries) := by
  induction entries generalizing a with
  | nil =>
    obtain rfl : a = b := Except.ok.inj h
    exact ⟨rfl, .refl _⟩
  | cons e entries ih =>
    rw [List.foldlM_cons] at h
    obtain ⟨m, hm, hrest⟩ := bind_eq_ok.1 h
    obtain ⟨hnew, rfl⟩ := Draft.withParameter_eq_ok.1 hm
    obtain ⟨htext, hentries⟩ := ih hrest
    have hinsert := Keyed.perm_insert hnew e.2
    exact ⟨htext, (hentries.trans (hinsert.append_left _)).trans List.perm_middle⟩

/-! ## The whole plan -/

namespace Plan

variable {r : Registry} {d : Descriptor} {base : String} {extra : Parameters} {draft : Draft}

/-- What a plan has done before its window: the base query is wrapped, the conditions and the orders
stand behind it, and bound are the values of the conditions and the further ones. -/
structure Composed (r : Registry) (d : Descriptor) (base : String) (extra : Parameters)
    (draft : Draft) (cs : List Condition) : Prop extends Conditions r d.filters cs where
  orders : ∀ o ∈ d.orders, isIdentifier o.1 = true
  text : draft.text = wrapBase base ++ conditionsText cs ++ orderText d.orders
  entries : draft.parameters.entries.Perm (cs.map Condition.entry ++ extra.entries)

theorem exists_composed (h : core r d base extra = .ok draft) :
    ∃ cs, Composed r d base extra draft cs := by
  obtain ⟨filtered, hfiltered, h⟩ := bind_eq_ok.1 h
  obtain ⟨full, hfull, h⟩ := bind_eq_ok.1 h
  obtain ⟨_, horders, h⟩ := bind_eq_ok.1 h
  obtain rfl := Except.ok.inj h
  obtain ⟨cs, hcs, hconditions, hvalues⟩ := foldlM_withFilter hfiltered
  obtain ⟨htext, hentries⟩ := foldlM_withParameter hfull
  refine ⟨cs, hcs, fun o ho => checkIdentifier_eq_ok.1 (forM_eq_ok.1 horders o ho), ?_, ?_⟩
  · rw [← hconditions, ← htext]
  · have hnone : (Keyed.empty : Parameters).entries = [] := rfl
    have hall := hentries.trans (hvalues.append_left _)
    rw [hnone, List.append_nil] at hall
    exact hall.trans List.perm_append_comm

/-- **The conditions of a plan** find their values under their columns. -/
theorem core_eq_ok (h : core r d base extra = .ok draft) :
    ∃ cs : List Condition,
      cs.map Condition.filter = d.filters ∧
      (∀ c ∈ cs, r.lookup c.filter.operation = .ok c.operator ∧
        isIdentifier c.filter.column = true ∧
        draft.parameters.get? c.filter.column = some c.value) ∧
      (∀ o ∈ d.orders, isIdentifier o.1 = true) ∧
      draft.text = wrapBase base ++ conditionsText cs ++ orderText d.orders := by
  obtain ⟨cs, hcs⟩ := exists_composed h
  refine ⟨cs, hcs.filters, fun c hc => ⟨hcs.lookup c hc, hcs.column c hc, ?_⟩, hcs.orders, hcs.text⟩
  have hmem : c.entry ∈ cs.map Condition.entry ++ extra.entries :=
    List.mem_append_left _ (List.mem_map_of_mem hc)
  exact Keyed.get?_eq_some_iff.2 (hcs.entries.mem_iff.2 hmem)

end Plan

end TableQuery
