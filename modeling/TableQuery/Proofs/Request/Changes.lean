import TableQuery.Request
import TableQuery.Proofs.Outcome

/-!
# Requests as changes

Whether a pair can be read depends on the pair and the table alone, and so does what it asks for.
So a request is read in two steps: each pair becomes a `Request.Change`, which can fail, and the
changes are then made to a draft one after the other, which cannot.

* `Request.Change`, `Request.readChange` — what one pair asks for;
* `Request.Draft.apply` — a change of a draft;
* `Request.Reads`, `Request.readChange_eq_ok` — the changes that pairs ask for, key by key;
* `Request.outcome_foldlM_readPair` — all pairs are read first and all changes are made afterwards;
* `Request.readAll_eq_ok` — when a request is read, and what it describes.
-/

namespace TableQuery

open Outcome

namespace Request

/-! ## Changes -/

/-- What one pair asks for. -/
inductive Change where
  | page (n : UInt64)
  | size (n : UInt64)
  /-- A column and its direction; a blank order has none. -/
  | order (asked : Option (String × Direction))
  | operator (name operation : String)
  | value (name raw : String)
  /-- What a key asks for that names nothing. -/
  | nothing

/-- The change that a pair asks for. -/
def readChange (t : Table) (pair : String × String) : Except RequestError Change :=
  if pair.1 = pageKey then (readCount pair.1 pair.2).map .page
  else if pair.1 = sizeKey then (readCount pair.1 pair.2).map .size
  else if pair.1 = sortKey then
    (readSort t pair.2).map fun asked =>
      .order (asked.map fun (p, direction) => (p.column, direction))
  else if pair.1 = filterKey then
    (readOperator t pair.2).map fun (p, operation) => .operator p.name operation
  else match t.property? pair.1 with
    | some p => .ok (.value p.name pair.2)
    | none => .ok .nothing

namespace Draft

/-- The draft before the first pair. -/
def blank : Draft := ⟨.empty, [], []⟩

/-- The draft after a change. -/
def apply (d : Draft) : Change → Draft
  | .page n => { d with descriptor := d.descriptor.withPage n }
  | .size n => { d with descriptor := d.descriptor.withSize n }
  | .order none => d
  | .order (some (column, direction)) =>
    { d with descriptor := d.descriptor.withOrder column direction }
  | .operator name operation => { d with operators := assign name operation d.operators }
  | .value name raw => { d with values := append name raw d.values }
  | .nothing => d

/-- No pair makes a filter; the values do so when all pairs are read. -/
theorem filters_foldl_apply (changes : List Change) (d : Draft) :
    (changes.foldl apply d).descriptor.filters = d.descriptor.filters := by
  induction changes generalizing d with
  | nil => rfl
  | cons change changes ih =>
    rw [List.foldl_cons, ih]
    cases change with
    | order asked => cases asked <;> rfl
    | _ => rfl

end Draft

/-! ## Reading -/

variable {t : Table}

/-- A key with a meaning of its own, whether or not it names a property. -/
def isReserved (key : String) : Bool := key ∈ ["page", "size", "sort", "filter"]

/-- The changes that pairs ask for, key by key. -/
inductive Reads (t : Table) : String × String → Change → Prop where
  | page {raw n} (h : readCount pageKey raw = .ok n) : Reads t (pageKey, raw) (.page n)
  | size {raw n} (h : readCount sizeKey raw = .ok n) : Reads t (sizeKey, raw) (.size n)
  | order {raw asked} (h : readSort t raw = .ok asked) :
      Reads t (sortKey, raw) (.order (asked.map fun (p, direction) => (p.column, direction)))
  | operator {raw p operation} (h : readOperator t raw = .ok (p, operation)) :
      Reads t (filterKey, raw) (.operator p.name operation)
  | value {key raw p} (hkey : isReserved key = false) (h : t.property? key = some p) :
      Reads t (key, raw) (.value p.name raw)
  | nothing {key raw} (hkey : isReserved key = false) (h : t.property? key = none) :
      Reads t (key, raw) .nothing

theorem readChange_page (raw : String) :
    readChange t (pageKey, raw) = (readCount pageKey raw).map .page := by
  simp [readChange]

theorem readChange_size (raw : String) :
    readChange t (sizeKey, raw) = (readCount sizeKey raw).map .size := by
  simp [readChange, pageKey, sizeKey]

theorem readChange_sort (raw : String) :
    readChange t (sortKey, raw) = (readSort t raw).map fun asked =>
      .order (asked.map fun (p, direction) => (p.column, direction)) := by
  simp [readChange, pageKey, sizeKey, sortKey]

theorem readChange_filter (raw : String) :
    readChange t (filterKey, raw)
      = (readOperator t raw).map fun (p, operation) => .operator p.name operation := by
  simp [readChange, pageKey, sizeKey, sortKey, filterKey]

theorem readChange_of_not_reserved {key : String} (h : isReserved key = false) (raw : String) :
    readChange t (key, raw) = match t.property? key with
      | some p => .ok (.value p.name raw)
      | none => .ok .nothing := by
  have hkeys : key ∉ [pageKey, sizeKey, sortKey, filterKey] := of_decide_eq_false h
  simp only [List.mem_cons, List.not_mem_nil, or_false, not_or] at hkeys
  obtain ⟨hpage, hsize, hsort, hfilter⟩ := hkeys
  simp only [readChange, if_neg hpage, if_neg hsize, if_neg hsort, if_neg hfilter]

theorem readChange_eq_ok {pair : String × String} {change : Change} :
    readChange t pair = .ok change ↔ Reads t pair change := by
  obtain ⟨key, raw⟩ := pair
  constructor
  · intro h
    cases hreserved : isReserved key with
    | false =>
      rw [readChange_of_not_reserved hreserved] at h
      cases hkey : t.property? key <;> rw [hkey] at h <;> cases h
      · exact .nothing hreserved hkey
      · exact .value hreserved hkey
    | true =>
      have hkeys : key ∈ [pageKey, sizeKey, sortKey, filterKey] := of_decide_eq_true hreserved
      simp only [List.mem_cons, List.not_mem_nil, or_false] at hkeys
      rcases hkeys with rfl | rfl | rfl | rfl
      · rw [readChange_page] at h
        obtain ⟨n, hn, rfl⟩ := map_eq_ok.1 h
        exact .page hn
      · rw [readChange_size] at h
        obtain ⟨n, hn, rfl⟩ := map_eq_ok.1 h
        exact .size hn
      · rw [readChange_sort] at h
        obtain ⟨asked, hasked, rfl⟩ := map_eq_ok.1 h
        exact .order hasked
      · rw [readChange_filter] at h
        obtain ⟨⟨p, operation⟩, hdeclared, rfl⟩ := map_eq_ok.1 h
        exact .operator hdeclared
  · intro h
    cases h with
    | page h => rw [readChange_page, h]; rfl
    | size h => rw [readChange_size, h]; rfl
    | order h => rw [readChange_sort, h]; rfl
    | operator h => rw [readChange_filter, h]; rfl
    | value hkey h | nothing hkey h => rw [readChange_of_not_reserved hkey, h]

theorem outcome_readPair (d : Draft) (pair : String × String) :
    (readPair t d pair).outcome = (readChange t pair).map d.apply := by
  obtain ⟨key, raw⟩ := pair
  simp only [readPair, readChange]
  by_cases hpage : key = pageKey
  · simp only [if_pos hpage, Traced.outcome_bind, Traced.outcome_ofExcept]
    cases readCount key raw <;> rfl
  simp only [if_neg hpage]
  by_cases hsize : key = sizeKey
  · simp only [if_pos hsize, Traced.outcome_bind, Traced.outcome_ofExcept]
    cases readCount key raw <;> rfl
  simp only [if_neg hsize]
  by_cases hsort : key = sortKey
  · simp only [if_pos hsort, Traced.outcome_bind, Traced.outcome_ofExcept]
    cases readSort t raw with
    | error e => rfl
    | ok asked => cases asked <;> rfl
  simp only [if_neg hsort]
  by_cases hfilter : key = filterKey
  · simp only [if_pos hfilter, Traced.outcome_bind, Traced.outcome_ofExcept]
    cases readOperator t raw <;> rfl
  simp only [if_neg hfilter]
  cases t.property? key <;> rfl

/-- **Reading comes first**: the loop over the pairs fails just if a pair cannot be read, and else
makes their changes in order. -/
theorem outcome_foldlM_readPair (pairs : List (String × String)) (d : Draft) :
    (pairs.foldlM (readPair t) d).outcome
      = (pairs.mapM (readChange t)).map fun changes => changes.foldl Draft.apply d := by
  rw [Traced.outcome_foldlM]
  simp only [outcome_readPair]
  induction pairs generalizing d with
  | nil => rfl
  | cons pair pairs ih =>
    rw [List.foldlM_cons, List.mapM_cons]
    cases readChange t pair with
    | error e => rfl
    | ok change =>
      refine (ih (d.apply change)).trans ?_
      cases pairs.mapM (readChange t) <;> rfl

/-- The filters of the values of a draft. -/
def readFilters (t : Table) (draft : Draft) : Except RequestError Descriptor :=
  draft.values.foldlM (fun d entry => (readFilter t draft.operators d entry).outcome)
    draft.descriptor

/-- **A request is read in two steps**: its pairs, and then the filters of their values. -/
theorem outcome_readAll (pairs : List (String × String)) :
    (readAll t pairs).outcome
      = ((pairs.mapM (readChange t)).map fun changes => changes.foldl Draft.apply .blank)
        >>= readFilters t := by
  rw [← outcome_foldlM_readPair, readAll, Traced.outcome_bind]
  refine congrArg _ (funext fun draft => ?_)
  rw [Traced.outcome_bind, Traced.outcome_foldlM]
  simp only [Traced.outcome_bind, Traced.outcome_forM_emit, Traced.outcome_pure]
  exact bind_pure (readFilters t draft)

theorem readAll_eq_ok {pairs : List (String × String)} {d : Descriptor} :
    (readAll t pairs).outcome = .ok d ↔ ∃ changes,
      pairs.mapM (readChange t) = .ok changes ∧
      readFilters t (changes.foldl Draft.apply .blank) = .ok d := by
  rw [outcome_readAll, bind_eq_ok]
  simp only [map_eq_ok]
  constructor
  · rintro ⟨_, ⟨changes, hchanges, rfl⟩, hd⟩
    exact ⟨changes, hchanges, hd⟩
  · rintro ⟨changes, hchanges, hd⟩
    exact ⟨_, ⟨changes, hchanges, rfl⟩, hd⟩

theorem readAll_eq_error {pairs : List (String × String)} {e : RequestError} :
    (readAll t pairs).outcome = .error e ↔ pairs.mapM (readChange t) = .error e ∨ ∃ changes,
      pairs.mapM (readChange t) = .ok changes ∧
      readFilters t (changes.foldl Draft.apply .blank) = .error e := by
  rw [outcome_readAll, bind_eq_error, map_eq_error]
  simp only [map_eq_ok]
  refine or_congr_right ⟨?_, ?_⟩
  · rintro ⟨_, ⟨changes, hchanges, rfl⟩, he⟩
    exact ⟨changes, hchanges, he⟩
  · rintro ⟨changes, hchanges, he⟩
    exact ⟨_, ⟨changes, hchanges, rfl⟩, he⟩

end Request

/-- Without a table nothing is read. -/
theorem Descriptor.outcome_ofRequest_of_error {c : Catalogue} {type : TargetType}
    {e : ConfigurationError} (h : c.table type = .error e) (pairs : List (String × String)) :
    (ofRequest c type pairs).outcome = .error (.configuration e) := by
  rw [ofRequest, h]
  rfl

theorem Descriptor.outcome_ofRequest {c : Catalogue} {type : TargetType} {t : Table}
    (ht : c.table type = .ok t) (pairs : List (String × String)) :
    (ofRequest c type pairs).outcome
      = (Request.readAll t pairs).outcome.mapError Error.request := by
  rw [ofRequest, ht]
  rfl

end TableQuery
