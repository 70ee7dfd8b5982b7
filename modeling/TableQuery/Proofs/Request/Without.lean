import TableQuery.Proofs.Request.Meaning

/-!
# Requests without the values of a property

What the values of one property do to a request: they make at most one filter, at one place, and
change nothing else that the request means.

* `Request.without` — the pairs of all other keys; `Request.filtered_without` — the properties that
  make filters without them;
* `Request.Describes.remove`, `Request.Describes.insert` — the meaning of a request with the values
  of a property and without them, where they make a filter;
* `Request.describes_without_iff`, `Request.unread_without_iff` — the meaning of a request and what
  is wrong with it, where they make none.
-/

namespace TableQuery

open Outcome

namespace Request

variable {t : Table} {pairs pairs' : List (String × String)} {declared : List (String × String)}
  {name : String}

/-! ## Pairs without the values of a property -/

/-- The pairs of all other keys. -/
def without (name : String) (pairs : List (String × String)) : List (String × String) :=
  pairs.filter fun pair => pair.1 ≠ name

theorem texts_without {key : String} (h : key ≠ name) :
    texts key (without name pairs) = texts key pairs := by
  rw [texts, texts, without, List.filter_filter]
  refine congrArg _ (List.filter_congr fun pair _ => ?_)
  by_cases hpair : pair.1 = key
  · simp [hpair, h]
  · simp [hpair]

theorem joined_without {other : String} (h : other ≠ name) :
    joined (without name pairs) other = joined pairs other := by
  rw [joined, joined, texts_without h]

theorem eraseDups_filter (keep : String → Bool) (keys : List String) :
    (keys.filter keep).eraseDups = keys.eraseDups.filter keep := by
  induction keys using List.reverseRecOn with
  | nil => rfl
  | append_singleton keys key ih =>
    rw [List.filter_append, eraseDups_concat, addKey]
    cases hkey : keep key with
    | true =>
      rw [List.filter_cons_of_pos hkey, List.filter_nil, eraseDups_concat, ih, addKey]
      by_cases hmem : key ∈ keys.eraseDups
      · rw [if_pos hmem, if_pos (List.mem_filter.2 ⟨hmem, hkey⟩)]
      · rw [if_neg hmem, if_neg fun h => hmem (List.mem_filter.1 h).1, List.filter_append,
          List.filter_cons_of_pos hkey, List.filter_nil]
    | false =>
      have hneg : ¬keep key = true := Bool.eq_false_iff.1 hkey
      rw [List.filter_cons_of_neg hneg, List.filter_nil, List.append_nil, ih]
      split
      · rfl
      · rw [List.filter_append, List.filter_cons_of_neg hneg, List.filter_nil, List.append_nil]

/-- The same properties make filters, but for the one. -/
theorem filtered_without :
    filtered t (without name pairs) = (filtered t pairs).filter fun other => other ≠ name := by
  have hkeys : (without name pairs).map Prod.fst
      = (pairs.map Prod.fst).filter fun key => key ≠ name := by
    rw [List.filter_map]
    rfl
  have hvalued : valued t (without name pairs)
      = (valued t pairs).filter fun other => other ≠ name := by
    rw [valued, valued, hkeys, ← eraseDups_filter, List.filter_filter, List.filter_filter]
    simp only [Bool.and_comm]
  rw [filtered, hvalued, filtered, List.filter_filter, List.filter_filter]
  refine List.filter_congr fun other _ => ?_
  by_cases hother : other = name
  · simp [hother]
  · rw [joined_without hother, Bool.and_comm]

theorem filtered_without_of_not_mem (h : name ∉ filtered t pairs) :
    filtered t (without name pairs) = filtered t pairs := by
  rw [filtered_without, List.filter_eq_self]
  exact fun other hother => decide_eq_true fun heq => h (heq ▸ hother)

theorem makesFilter_without {other : String} (h : other ≠ name) {f : PropertyFilter} :
    MakesFilter t declared (without name pairs) other f ↔ MakesFilter t declared pairs other f := by
  constructor
  · rintro ⟨hp, hv⟩
    exact .mk hp (joined_without h ▸ hv)
  · rintro ⟨hp, hv⟩
    exact .mk hp ((joined_without h).symm ▸ hv)

theorem noFilter_without {other : String} (h : other ≠ name) {e : RequestError} :
    NoFilter t declared (without name pairs) other e ↔ NoFilter t declared pairs other e := by
  constructor
  · rintro ⟨hp, he⟩
    exact .mk hp (joined_without h ▸ he)
  · rintro ⟨hp, he⟩
    exact .mk hp ((joined_without h).symm ▸ he)

theorem forall₂_without {names : List String} (h : name ∉ names) {fs : List PropertyFilter} :
    List.Forall₂ (MakesFilter t declared (without name pairs)) names fs ↔
      List.Forall₂ (MakesFilter t declared pairs) names fs :=
  forall₂_congr_of_mem fun other hother _ =>
    makesFilter_without fun heq : other = name => h (heq ▸ hother)

/-- A property that makes a filter stands among the others in one place. -/
theorem exists_filtered_split (h : name ∈ filtered t pairs) :
    ∃ before after, filtered t pairs = before ++ name :: after ∧
      filtered t (without name pairs) = before ++ after ∧ name ∉ before ∧ name ∉ after := by
  obtain ⟨before, after, hsplit⟩ := List.append_of_mem h
  have hnodup : (filtered t pairs).Nodup := (nodup_eraseDups _).filter _
  rw [hsplit] at hnodup
  have hbefore : name ∉ before := fun hmem =>
    (List.nodup_append.1 hnodup).2.2 name hmem name List.mem_cons_self rfl
  have hafter : name ∉ after := (List.nodup_cons.1 (List.nodup_append.1 hnodup).2.1).1
  have hkeep {names : List String} (hnames : name ∉ names) :
      (names.filter fun other => other ≠ name) = names :=
    List.filter_eq_self.2 fun other hother =>
      decide_eq_true fun heq => hnames (heq ▸ hother)
  refine ⟨before, after, hsplit, ?_, hbefore, hafter⟩
  rw [filtered_without, hsplit, List.filter_append, List.filter_cons_of_neg (by simp),
    hkeep hbefore, hkeep hafter]

/-! ## The meaning of a request without them -/

/-- The same texts of the reserved keys mean the same but for the filters. -/
theorem Describes.withFilters {d : Descriptor} (h : Describes t pairs d)
    (htexts : ∀ key, isReserved key = true → texts key pairs' = texts key pairs)
    {fs : List PropertyFilter}
    (hdeclared : List.Forall₂ (Declares t) (texts "filter" pairs) declared)
    (hfilters : List.Forall₂ (MakesFilter t declared pairs') (filtered t pairs') fs) :
    Describes t pairs' { d with filters := fs } where
  page := by
    rw [htexts "page" (by decide)]
    exact h.page
  size := by
    rw [htexts "size" (by decide)]
    exact h.size
  orders := by
    rw [htexts "sort" (by decide)]
    exact h.orders
  filters := by
    rw [htexts "filter" (by decide)]
    exact ⟨declared, hdeclared, hfilters⟩

theorem ne_of_isReserved {key : String} (hkey : isReserved name = false)
    (h : isReserved key = true) : key ≠ name := by
  rintro rfl
  rw [hkey] at h
  cases h

/-- A property that makes no filter adds nothing to the meaning of a request. -/
theorem describes_without_iff (hkey : isReserved name = false) (hname : name ∉ filtered t pairs)
    {d : Descriptor} : Describes t (without name pairs) d ↔ Describes t pairs d := by
  have htexts (key : String) (h : isReserved key = true) :
      texts key (without name pairs) = texts key pairs := texts_without (ne_of_isReserved hkey h)
  have hsame := filtered_without_of_not_mem hname
  constructor
  · intro h
    obtain ⟨declared, hdeclared, hfilters⟩ := h.filters
    rw [hsame, forall₂_without hname] at hfilters
    exact h.withFilters (fun key hreserved => (htexts key hreserved).symm) hdeclared hfilters
  · intro h
    obtain ⟨declared, hdeclared, hfilters⟩ := h.filters
    rw [← forall₂_without hname, ← hsame] at hfilters
    exact h.withFilters htexts hdeclared hfilters

/-- A request that means something does so without the values of a property, too. -/
theorem Describes.remove (hkey : isReserved name = false) (hname : name ∈ filtered t pairs)
    {d : Descriptor} (h : Describes t pairs d) :
    ∃ fs, Describes t (without name pairs) { d with filters := fs } := by
  obtain ⟨before, after, hsplit, hwithout, hbefore, hafter⟩ := exists_filtered_split hname
  obtain ⟨declared, hdeclared, hfilters⟩ := h.filters
  rw [hsplit, forall₂_append_left_iff] at hfilters
  obtain ⟨front, rest, hfront, hrest, -⟩ := hfilters
  obtain ⟨f, back, -, hback, rfl⟩ := List.forall₂_cons_left_iff.1 hrest
  refine ⟨front ++ back, h.withFilters
    (fun key hreserved => texts_without (ne_of_isReserved hkey hreserved)) hdeclared ?_⟩
  rw [hwithout]
  exact List.rel_append ((forall₂_without hbefore).2 hfront) ((forall₂_without hafter).2 hback)

/-- Filters stand in the order of the properties that make them. -/
theorem map_property_of_forall₂ {names : List String} {fs : List PropertyFilter}
    (h : List.Forall₂ (MakesFilter t declared pairs) names fs) :
    fs.map PropertyFilter.property = names := by
  induction h with
  | nil => rfl
  | @cons other f names fs hf _ ih =>
    obtain ⟨hp, -⟩ := hf
    rw [List.map_cons, ih, (Table.mem_of_property? hp).2]

/-- **The values of one property** add one filter to the meaning of a request, which stands behind
those of the properties before it. -/
theorem Describes.insert (hkey : isReserved name = false) (hname : name ∈ filtered t pairs)
    (hdeclared : List.Forall₂ (Declares t) (texts "filter" pairs) declared) {d : Descriptor}
    (h : Describes t (without name pairs) d) {f : PropertyFilter}
    (hf : MakesFilter t declared pairs name f) :
    ∃ front back, d.filters = front ++ back ∧
      filtered t pairs
        = front.map PropertyFilter.property ++ name :: back.map PropertyFilter.property ∧
      Describes t pairs { d with filters := front ++ f :: back } := by
  have htexts (key : String) (hreserved : isReserved key = true) :
      texts key (without name pairs) = texts key pairs :=
    texts_without (ne_of_isReserved hkey hreserved)
  obtain ⟨before, after, hsplit, hwithout, hbefore, hafter⟩ := exists_filtered_split hname
  obtain ⟨declared', hdeclared', hfilters⟩ := h.filters
  have hboth := hdeclared'
  rw [htexts "filter" (by decide)] at hboth
  obtain rfl := rightUnique_declares.forall₂ hdeclared hboth
  rw [hwithout, forall₂_append_left_iff] at hfilters
  obtain ⟨front, back, hfront, hback, hd⟩ := hfilters
  rw [forall₂_without hbefore] at hfront
  rw [forall₂_without hafter] at hback
  refine ⟨front, back, hd, ?_, h.withFilters (fun key hreserved => (htexts key hreserved).symm)
    hdeclared' ?_⟩
  · rw [map_property_of_forall₂ hfront, map_property_of_forall₂ hback, hsplit]
  · rw [hsplit]
    exact List.rel_append hfront (.cons hf hback)

/-! ## What is wrong with a request without them -/

/-- Only pairs of the reserved keys are malformed. -/
theorem Malformed.isReserved {pair : String × String} {e : RequestError} (h : Malformed t pair e) :
    isReserved pair.1 = true := by
  cases h <;> rfl

/-- The values of a property are no malformed pairs. -/
theorem malformed_without_iff (hkey : isReserved name = false) :
    (∀ pair ∈ without name pairs, ∀ e, ¬Malformed t pair e) ↔
      ∀ pair ∈ pairs, ∀ e, ¬Malformed t pair e := by
  constructor
  · intro h pair hpair e he
    have hne : pair.1 ≠ name := ne_of_isReserved hkey he.isReserved
    exact h pair (List.mem_filter.2 ⟨hpair, decide_eq_true hne⟩) e he
  · exact fun h pair hpair => h pair (List.mem_filter.1 hpair).1

/-- The first malformed pair is the same one. -/
theorem first_malformed_without_iff (hkey : isReserved name = false) {e : RequestError} :
    (∃ before pair after, without name pairs = before ++ pair :: after ∧
      (∀ b ∈ before, ∀ e, ¬Malformed t b e) ∧ Malformed t pair e) ↔
    ∃ before pair after, pairs = before ++ pair :: after ∧
      (∀ b ∈ before, ∀ e, ¬Malformed t b e) ∧ Malformed t pair e := by
  constructor
  · rintro ⟨before, pair, after, hpairs, hbefore, hmalformed⟩
    -- the pairs that were left out before it are not malformed
    obtain ⟨front, rest, rfl, rfl, hrest⟩ := List.filter_eq_append_iff.1 hpairs
    obtain ⟨skipped, back, rfl, hskipped, -, -⟩ := List.filter_eq_cons_iff.1 hrest
    refine ⟨front ++ skipped, pair, back, (List.append_assoc ..).symm, fun b hb e he => ?_,
      hmalformed⟩
    have hne : b.1 ≠ name := ne_of_isReserved hkey he.isReserved
    rcases List.mem_append.1 hb with hb | hb
    · exact (malformed_without_iff hkey).1 hbefore b hb e he
    · exact hskipped b hb (decide_eq_true hne)
  · rintro ⟨before, pair, after, rfl, hbefore, hmalformed⟩
    have hne : pair.1 ≠ name := ne_of_isReserved hkey hmalformed.isReserved
    have hcons : without name (pair :: after) = pair :: without name after :=
      List.filter_cons_of_pos (decide_eq_true hne)
    refine ⟨without name before, pair, without name after, ?_,
      (malformed_without_iff hkey).2 hbefore, hmalformed⟩
    rw [← hcons]
    exact List.filter_append _ _

/-- A property that makes no filter has no part in what is wrong with a request. -/
theorem unread_without_iff (hkey : isReserved name = false) (hname : name ∉ filtered t pairs)
    {e : RequestError} : Unread t (without name pairs) e ↔ Unread t pairs e := by
  have htexts : texts "filter" (without name pairs) = texts "filter" pairs :=
    texts_without (ne_of_isReserved hkey (by decide))
  have hsame : filtered t (without name pairs) = filtered t pairs :=
    filtered_without_of_not_mem hname
  have hne {other : String} (hother : other ∈ filtered t pairs) : other ≠ name :=
    fun heq => hname (heq ▸ hother)
  constructor
  · intro h
    cases h with
    | pair hpairs hbefore hmalformed =>
      obtain ⟨_, _, _, hpairs, hbefore, hmalformed⟩ :=
        (first_malformed_without_iff hkey).1 ⟨_, _, _, hpairs, hbefore, hmalformed⟩
      exact .pair hpairs hbefore hmalformed
    | @value declared before other after _ hpairs hdeclared hnames hbefore hno =>
      rw [htexts] at hdeclared
      rw [hsame] at hnames
      refine .value ((malformed_without_iff hkey).1 hpairs) hdeclared hnames (fun b hb => ?_) ?_
      · have hmem : b ∈ filtered t pairs := hnames ▸ List.mem_append_left _ hb
        exact (hbefore b hb).imp fun _ => (makesFilter_without (hne hmem)).1
      · have hmem : other ∈ filtered t pairs :=
          hnames ▸ List.mem_append_right _ List.mem_cons_self
        exact (noFilter_without (hne hmem)).1 hno
  · intro h
    cases h with
    | pair hpairs hbefore hmalformed =>
      obtain ⟨_, _, _, hpairs, hbefore, hmalformed⟩ :=
        (first_malformed_without_iff hkey).2 ⟨_, _, _, hpairs, hbefore, hmalformed⟩
      exact .pair hpairs hbefore hmalformed
    | @value declared before other after _ hpairs hdeclared hnames hbefore hno =>
      rw [← htexts] at hdeclared
      refine .value ((malformed_without_iff hkey).2 hpairs) hdeclared (hsame.trans hnames)
        (fun b hb => ?_) ?_
      · have hmem : b ∈ filtered t pairs := hnames ▸ List.mem_append_left _ hb
        exact (hbefore b hb).imp fun _ => (makesFilter_without (hne hmem)).2
      · have hmem : other ∈ filtered t pairs :=
          hnames ▸ List.mem_append_right _ List.mem_cons_self
        exact (noFilter_without (hne hmem)).2 hno

end Request

end TableQuery
