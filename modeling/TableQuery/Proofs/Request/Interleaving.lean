import TableQuery.Proofs.Request.Changes

/-!
# Interleavings of a request

A request has five parts: its page, its size, its orders, its operators and its values.  A pair
belongs to at most one of them and changes nothing else.  So what a request describes depends on the
pairs of each part in their order, and neither on how the parts are interleaved nor on the pairs of
no part.

* `Request.Part`, `Request.share` — the parts, and the pairs of one of them;
* `Request.Draft.content_foldl_apply` — the changes of other parts do not matter to a part;
* `Request.mapM_share` — the pairs of a part are read as its changes;
* `Descriptor.ofRequest_interleaved` — requests with the same shares describe the same.
-/

namespace TableQuery

open Outcome

namespace Request

/-! ## Parts -/

inductive Part where
  | page
  | size
  | orders
  | operators
  | values
  deriving DecidableEq

/-- The pairs of a key belong to the part. -/
def Part.hasKey (t : Table) (key : String) : Part → Bool
  | .page => key = "page"
  | .size => key = "size"
  | .orders => key = "sort"
  | .operators => key = "filter"
  | .values => !isReserved key && (t.property? key).isSome

/-- The pairs of a part, in order. -/
def share (t : Table) (part : Part) (pairs : List (String × String)) : List (String × String) :=
  pairs.filter fun pair => part.hasKey t pair.1

/-- The part that a change is about. -/
def Change.part? : Change → Option Part
  | .page _ => some .page
  | .size _ => some .size
  | .order _ => some .orders
  | .operator _ _ => some .operators
  | .value _ _ => some .values
  | .nothing => none

variable {t : Table} {pairs ps qs : List (String × String)} {changes : List Change}

theorem hasKey_of_not_reserved {key : String} (h : isReserved key = false) (part : Part) :
    part.hasKey t key = (part = .values && (t.property? key).isSome) := by
  have hkeys : key ∉ ["page", "size", "sort", "filter"] := of_decide_eq_false h
  simp only [List.mem_cons, List.not_mem_nil, or_false, not_or] at hkeys
  obtain ⟨hpage, hsize, hsort, hfilter⟩ := hkeys
  cases part with
  | page => exact decide_eq_false hpage
  | size => exact decide_eq_false hsize
  | orders => exact decide_eq_false hsort
  | operators => exact decide_eq_false hfilter
  | values => simp only [Part.hasKey, h, Bool.not_false, decide_true]

/-- A change is about the part that the key belongs to. -/
theorem hasKey_of_readChange {pair : String × String} {change : Change}
    (h : readChange t pair = .ok change) (part : Part) :
    part.hasKey t pair.1 = decide (change.part? = some part) := by
  cases readChange_eq_ok.1 h with
  | page | size | order | operator => cases part <;> rfl
  | value hkey hp =>
    rw [hasKey_of_not_reserved hkey, hp]
    cases part <;> rfl
  | nothing hkey hp =>
    rw [hasKey_of_not_reserved hkey, hp]
    cases part <;> rfl

/-- A pair of no part can be read. -/
theorem readChange_of_hasKey {pair : String × String}
    (h : ∀ part, Part.hasKey t pair.1 part = false) : readChange t pair = .ok .nothing := by
  have hreserved : isReserved pair.1 = false := by
    have hpage : pair.1 ≠ "page" := of_decide_eq_false (h .page)
    have hsize : pair.1 ≠ "size" := of_decide_eq_false (h .size)
    have hsort : pair.1 ≠ "sort" := of_decide_eq_false (h .orders)
    have hfilter : pair.1 ≠ "filter" := of_decide_eq_false (h .operators)
    simp [isReserved, hpage, hsize, hsort, hfilter]
  have hvalues := h .values
  rw [hasKey_of_not_reserved hreserved] at hvalues
  have hnone : t.property? pair.1 = none :=
    Option.isNone_iff_eq_none.1 (Option.isSome_eq_false_iff.1 hvalues)
  exact readChange_eq_ok.2 (.nothing hreserved hnone)

theorem mapM_share (h : pairs.mapM (readChange t) = .ok changes) (part : Part) :
    (share t part pairs).mapM (readChange t)
      = .ok (changes.filter fun change => change.part? = some part) := by
  refine mapM_eq_ok.2 (List.rel_filter ?_ (mapM_eq_ok.1 h))
  intro pair change hpair
  exact Bool.eq_iff_iff.1 (hasKey_of_readChange hpair part)

/-- Requests with the same shares can both be read, or neither of them can. -/
theorem exists_mapM_of_share (h : ∀ part, share t part ps = share t part qs)
    (hps : ps.mapM (readChange t) = .ok changes) :
    ∃ changes', qs.mapM (readChange t) = .ok changes' := by
  refine exists_mapM_eq_ok.2 fun pair hpair => ?_
  by_cases hparts : ∃ part, Part.hasKey t pair.1 part = true
  · obtain ⟨part, hpart⟩ := hparts
    have hshare : pair ∈ share t part ps := by
      rw [h part]
      exact List.mem_filter.2 ⟨hpair, hpart⟩
    exact exists_mapM_eq_ok.1 ⟨_, hps⟩ pair (List.mem_filter.1 hshare).1
  · refine ⟨_, readChange_of_hasKey fun part => ?_⟩
    exact Bool.eq_false_iff.2 fun hpart => hparts ⟨part, hpart⟩

/-! ## Drafts by their parts -/

/-- What a draft says in a part. -/
def Part.Content : Part → Type
  | .page => Option UInt64
  | .size => Option UInt64
  | .orders => List (String × Direction)
  | .operators => List (String × String)
  | .values => List (String × String)

namespace Draft

variable {d d' : Draft} {part : Part}

def content (d : Draft) : (part : Part) → part.Content
  | .page => d.descriptor.page
  | .size => d.descriptor.size
  | .orders => d.descriptor.orders
  | .operators => d.operators
  | .values => d.values

theorem ext_content (h : ∀ part, d.content part = d'.content part)
    (hfilters : d.descriptor.filters = d'.descriptor.filters) : d = d' := by
  obtain ⟨⟨page, size, filters, orders⟩, operators, values⟩ := d
  obtain ⟨⟨page', size', filters', orders'⟩, operators', values'⟩ := d'
  have hpage : page = page' := h .page
  have hsize : size = size' := h .size
  have horders : orders = orders' := h .orders
  have hoperators : operators = operators' := h .operators
  have hvalues : values = values' := h .values
  simp only at hfilters
  simp only [hpage, hsize, hfilters, horders, hoperators, hvalues]

/-- A change leaves the other parts as they are. -/
theorem content_apply {change : Change} (h : change.part? ≠ some part) :
    (d.apply change).content part = d.content part := by
  cases change with
  | order asked => cases asked <;> cases part <;> first | rfl | exact absurd rfl h
  | _ => cases part <;> first | rfl | exact absurd rfl h

/-- What a change makes of a part depends on that part alone. -/
theorem content_apply_congr (h : d.content part = d'.content part) (change : Change) :
    (d.apply change).content part = (d'.apply change).content part := by
  cases change with
  | order asked =>
    cases asked with
    | none => exact h
    | some asked =>
      cases part with
      | orders => exact congrArg (Descriptor.placeOrder asked.1 asked.2) h
      | _ => exact h
  | operator name operation =>
    cases part with
    | operators => exact congrArg (assign name operation) h
    | _ => exact h
  | value name raw =>
    cases part with
    | values => exact congrArg (append name raw) h
    | _ => exact h
  | page n | size n => cases part <;> first | exact h | rfl
  | nothing => exact h

/-- **The changes of other parts do not matter** to a part. -/
theorem content_foldl_apply (h : d.content part = d'.content part) (changes : List Change) :
    (changes.foldl apply d).content part
      = ((changes.filter fun change => change.part? = some part).foldl apply d').content part := by
  -- A change that is left out makes the drafts differ elsewhere, so both of them stay general.
  induction changes generalizing d d' with
  | nil => exact h
  | cons change changes ih =>
    by_cases hchange : change.part? = some part
    · rw [List.filter_cons_of_pos (by simpa using hchange)]
      exact ih (content_apply_congr h change)
    · rw [List.filter_cons_of_neg (by simpa using hchange)]
      exact ih ((content_apply hchange).trans h)

end Draft

/-! ## Requests with the same shares -/

theorem readAll_of_share (h : ∀ part, share t part ps = share t part qs) {d : Descriptor}
    (hd : (readAll t ps).outcome = .ok d) : (readAll t qs).outcome = .ok d := by
  obtain ⟨changes, hps, hd⟩ := readAll_eq_ok.1 hd
  obtain ⟨changes', hqs⟩ := exists_mapM_of_share h hps
  have hchanges : ∀ part, (changes.filter fun change => change.part? = some part)
      = changes'.filter fun change => change.part? = some part := by
    intro part
    have hshare := mapM_share hps part
    rw [h part, mapM_share hqs part] at hshare
    exact (Except.ok.inj hshare).symm
  have hdraft : changes.foldl Draft.apply .blank = changes'.foldl Draft.apply .blank := by
    refine Draft.ext_content (fun part => ?_) ?_
    · rw [Draft.content_foldl_apply rfl changes, Draft.content_foldl_apply rfl changes',
        hchanges part]
    · rw [Draft.filters_foldl_apply, Draft.filters_foldl_apply]
  rw [hdraft] at hd
  exact readAll_eq_ok.2 ⟨changes', hqs, hd⟩

end Request

/-- **Parts may be interleaved in any way**: two requests whose pairs of each part are the same, in
the same order, describe the same query or both fail. -/
theorem Descriptor.ofRequest_interleaved {c : Catalogue} {type : TargetType} {t : Table}
    (ht : c.table type = .ok t) {ps qs : List (String × String)}
    (h : ∀ part, Request.share t part ps = Request.share t part qs) :
    (∃ d, (ofRequest c type ps).outcome = .ok d ∧ (ofRequest c type qs).outcome = .ok d) ∨
    (∃ e e', (ofRequest c type ps).outcome = .error e ∧
      (ofRequest c type qs).outcome = .error e') := by
  simp only [outcome_ofRequest ht]
  cases hps : (Request.readAll t ps).outcome with
  | ok d =>
    rw [Request.readAll_of_share h hps]
    exact .inl ⟨d, rfl, rfl⟩
  | error e =>
    cases hqs : (Request.readAll t qs).outcome with
    | ok d =>
      rw [Request.readAll_of_share (fun part => (h part).symm) hqs] at hps
      cases hps
    | error e' => exact .inr ⟨_, _, rfl, rfl⟩

/-- An operator may stand before or after the values that it is for, and keys that name nothing may
stand anywhere. -/
theorem Descriptor.ofRequest_interleaved_late_operator :
    ∃ (c : Catalogue) (t : Table) (ps qs : List (String × String)),
      c.table "Person" = .ok t ∧
      ps = [("filter", "age,in"), ("age", "7"), ("page", "1"), ("sort", "age,desc"), ("age", "8"),
        ("sort", "name")] ∧
      qs = [("sort", "age,desc"), ("page", "1"), ("utm", "?"), ("age", "7"), ("sort", "name"),
        ("age", "8"), ("filter", "age,in")] ∧
      (∀ part, Request.share t part ps = Request.share t part qs) ∧
      (ofRequest c "Person" qs).outcome = .ok
        { page := some 1
          filters := [⟨"age", "age", "in", .list [.integer 7, .integer 8]⟩]
          orders := [("age", .descending), ("full_name", .ascending)] } := by
  let t : Table := ⟨"Person", none, [⟨"name", "full_name", .text⟩, ⟨"age", "age", .integer⟩]⟩
  let c : Catalogue := Catalogue.empty.insert "Person" t
  let ps : List (String × String) :=
    [("filter", "age,in"), ("age", "7"), ("page", "1"), ("sort", "age,desc"), ("age", "8"),
      ("sort", "name")]
  let qs : List (String × String) :=
    [("sort", "age,desc"), ("page", "1"), ("utm", "?"), ("age", "7"), ("sort", "name"),
      ("age", "8"), ("filter", "age,in")]
  have ht : c.table "Person" = .ok t := rfl
  have hshare : ∀ part, Request.share t part ps = Request.share t part qs := by
    intro part
    cases part <;> rfl
  have hps : (ofRequest c "Person" ps).outcome = .ok
      { page := some 1
        filters := [⟨"age", "age", "in", .list [.integer 7, .integer 8]⟩]
        orders := [("age", .descending), ("full_name", .ascending)] } := rfl
  refine ⟨c, t, ps, qs, ht, rfl, rfl, hshare, ?_⟩
  rcases ofRequest_interleaved ht hshare with ⟨d, hd, hqs⟩ | ⟨_, _, he, -⟩
  · rw [hqs, ← hd, hps]
  · rw [hps] at he
    cases he

end TableQuery
