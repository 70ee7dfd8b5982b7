import Mathlib.Data.List.Induction
import TableQuery.Proofs.Request.Buildable
import TableQuery.Proofs.Request.Grammar

/-!
# What the pairs of a request add up to

The pairs of a request are read one after the other into a draft.  Seen from its end, the draft
holds the last page and size, all orders put together, the last operator of each property, and the
values of each property joined by commas, where the properties stand in the order of their first
values.

* `Request.texts`, `Request.valued`, `Request.joined` — the texts of a key, the properties with
  values, and their joined values;
* `Request.foldl_apply_blank` — the draft after changes, part by part;
* `Request.forall₂_picked`, `Request.forall₂_texts` — the changes of a part, from the pairs of that
  part;
* `Request.values_of_forall₂` — the values of a draft;
* `Request.operatorOf`, `Request.lookup_operators` — the operators of a draft.
-/

namespace TableQuery

open Outcome

namespace Request

variable {t : Table} {pairs : List (String × String)} {changes : List Change}

/-! ## The texts of a key -/

/-- The texts that stand under a key, in order. -/
def texts (key : String) (pairs : List (String × String)) : List String :=
  (pairs.filter fun pair => pair.1 = key).map Prod.snd

/-- The values of a property, joined by commas. -/
def joined (pairs : List (String × String)) (name : String) : String :=
  ",".intercalate (texts name pairs)

/-- A key under which the values of a property stand. -/
def isValueKey (t : Table) (key : String) : Bool := !isReserved key && (t.property? key).isSome

/-- The properties that have values, each at the place of its first value. -/
def valued (t : Table) (pairs : List (String × String)) : List String :=
  ((pairs.map Prod.fst).filter (isValueKey t)).eraseDups

theorem texts_concat (key : String) (pairs : List (String × String)) (pair : String × String) :
    texts key (pairs ++ [pair]) = texts key pairs ++ if pair.1 = key then [pair.2] else [] := by
  by_cases h : pair.1 = key <;> simp [texts, h]

theorem texts_eq_nil_iff {key : String} : texts key pairs = [] ↔ key ∉ pairs.map Prod.fst := by
  simp only [texts, List.map_eq_nil_iff, List.filter_eq_nil_iff, List.mem_map, decide_eq_true_eq,
    not_exists, not_and]

/-- One more value of a property stands behind a comma, unless it is the first one. -/
theorem joined_concat (pairs : List (String × String)) (pair : String × String) (name : String) :
    joined (pairs ++ [pair]) name =
      if pair.1 = name then
        if name ∈ pairs.map Prod.fst then joined pairs name ++ "," ++ pair.2 else pair.2
      else joined pairs name := by
  rw [joined, texts_concat]
  by_cases hkey : pair.1 = name
  · rw [if_pos hkey, if_pos hkey]
    split
    next hmem =>
      have hne : texts name pairs ≠ [] := fun h => texts_eq_nil_iff.1 h hmem
      rw [String.intercalate_append_of_ne_nil hne (List.cons_ne_nil _ _),
        String.intercalate_singleton]
      rfl
    next hmem => rw [texts_eq_nil_iff.2 hmem, List.nil_append, String.intercalate_singleton]
  · rw [if_neg hkey, if_neg hkey, List.append_nil]
    rfl

/-! ## Parts of a draft -/

/-- The page that a change asks for. -/
def Change.page? : Change → Option UInt64
  | .page n => some n
  | _ => none

/-- The size that a change asks for. -/
def Change.size? : Change → Option UInt64
  | .size n => some n
  | _ => none

/-- The order that a change asks for. -/
def Change.order? : Change → Option (String × Direction)
  | .order asked => asked
  | _ => none

/-- The operator that a change declares, behind its property. -/
def Change.operator? : Change → Option (String × String)
  | .operator name operation => some (name, operation)
  | _ => none

/-- The value that a change gives, behind its property. -/
def Change.value? : Change → Option (String × String)
  | .value name raw => some (name, raw)
  | _ => none

/-- **The draft after all changes**, part by part. -/
theorem foldl_apply_blank (changes : List Change) :
    changes.foldl Draft.apply .blank =
      { descriptor :=
          { page := (changes.filterMap Change.page?).getLast?
            size := (changes.filterMap Change.size?).getLast?
            orders := ((changes.filterMap Change.order?).foldl
              (fun d o => d.withOrder o.1 o.2) Descriptor.empty).orders }
        operators := (changes.filterMap Change.operator?).foldl (fun m o => assign o.1 o.2 m) []
        values := (changes.filterMap Change.value?).foldl (fun m o => append o.1 o.2 m) [] } := by
  induction changes using List.reverseRecOn with
  | nil => rfl
  | append_singleton changes change ih =>
    -- a change adds to the list of its own part and to no other
    simp only [List.foldl_append, List.filterMap_append, List.getLast?_append, ih]
    cases change with
    | order asked => cases asked <;> rfl
    | _ => rfl

/-! ## Pairs of a part -/

/-- **The changes of a part** come from the pairs of that part, in their order. -/
theorem forall₂_picked {β : Type} {R : String → β → Prop} {keep : String × String → Bool}
    {pick : Change → Option β}
    (hkeep : ∀ pair change, Reads t pair change → keep pair = true →
      ∃ b, pick change = some b ∧ R pair.2 b)
    (hdrop : ∀ pair change, Reads t pair change → keep pair = false → pick change = none)
    (h : List.Forall₂ (Reads t) pairs changes) :
    List.Forall₂ R ((pairs.filter keep).map Prod.snd) (changes.filterMap pick) := by
  induction h with
  | nil => exact .nil
  | @cons pair change pairs changes hpair _ ih =>
    cases hpick : keep pair with
    | true =>
      obtain ⟨b, hb, hR⟩ := hkeep pair change hpair hpick
      rw [List.filter_cons_of_pos hpick, List.filterMap_cons_some hb]
      exact .cons hR ih
    | false =>
      rw [List.filter_cons_of_neg (Bool.eq_false_iff.1 hpick),
        List.filterMap_cons_none (hdrop pair change hpair hpick)]
      exact ih

/-- The changes of a key whose texts are read in one way. -/
theorem forall₂_texts {α β : Type} {R : String → β → Prop} {key : String}
    {read : String → Except RequestError α} {make : α → Change} {pick : Change → Option β}
    (hread : ∀ raw, readChange t (key, raw) = (read raw).map make)
    (hmake : ∀ raw a, read raw = .ok a → ∃ b, pick (make a) = some b ∧ R raw b)
    (hdrop : ∀ pair change, Reads t pair change → pair.1 ≠ key → pick change = none)
    (h : List.Forall₂ (Reads t) pairs changes) :
    List.Forall₂ R (texts key pairs) (changes.filterMap pick) := by
  refine forall₂_picked (fun pair change hpair hkey => ?_)
    (fun pair change hpair hkey => hdrop pair change hpair (of_decide_eq_false hkey)) h
  obtain ⟨key', raw⟩ := pair
  obtain rfl : key' = key := of_decide_eq_true hkey
  rw [← readChange_eq_ok, hread, map_eq_ok] at hpair
  obtain ⟨a, ha, rfl⟩ := hpair
  exact hmake raw a ha

theorem forall₂_page (h : List.Forall₂ (Reads t) pairs changes) :
    List.Forall₂ WritesCount (texts pageKey pairs)
      (changes.filterMap Change.page?) := by
  refine forall₂_texts readChange_page (fun raw n hn => ⟨n, rfl, readCount_eq_ok.1 hn⟩)
    (fun pair change hpair hkey => ?_) h
  cases hpair with
  | page => exact absurd rfl hkey
  | _ => rfl

theorem forall₂_size (h : List.Forall₂ (Reads t) pairs changes) :
    List.Forall₂ WritesCount (texts sizeKey pairs)
      (changes.filterMap Change.size?) := by
  refine forall₂_texts readChange_size (fun raw n hn => ⟨n, rfl, readCount_eq_ok.1 hn⟩)
    (fun pair change hpair hkey => ?_) h
  cases hpair with
  | size => exact absurd rfl hkey
  | _ => rfl

theorem forall₂_operator (h : List.Forall₂ (Reads t) pairs changes) :
    List.Forall₂ (Declares t) (texts filterKey pairs) (changes.filterMap Change.operator?) := by
  refine forall₂_texts readChange_filter
    (fun raw o ho => ⟨_, rfl, readOperator_eq_ok.1 ⟨o.1, ho, rfl⟩⟩)
    (fun pair change hpair hkey => ?_) h
  cases hpair with
  | operator => exact absurd rfl hkey
  | _ => rfl

/-- A text that is not blank asks for one order, and a blank one for none. -/
theorem forall₂_order (h : List.Forall₂ (Reads t) pairs changes) :
    List.Forall₂ (AsksOrder t) ((texts sortKey pairs).filter fun raw => !Text.isBlankText raw)
      (changes.filterMap Change.order?) := by
  rw [texts, List.filter_map, List.filter_filter]
  refine forall₂_picked (fun pair change hpair hkey => ?_) (fun pair change hpair hkey => ?_) h
  · obtain ⟨key, raw⟩ := pair
    obtain ⟨hblank, hkey⟩ := Bool.and_eq_true_iff.1 hkey
    obtain rfl : key = sortKey := of_decide_eq_true hkey
    rw [← readChange_eq_ok, readChange_sort, map_eq_ok] at hpair
    obtain ⟨asked, hasked, rfl⟩ := hpair
    cases asked with
    | none => exact absurd hasked (readSort_ne_none hblank)
    | some o => exact ⟨_, rfl, (readSort_eq_ok_some.1 ⟨o.1, hasked, rfl⟩).2⟩
  · cases hpair with
    | @order raw asked hasked =>
      have hblank : Text.isBlankText raw = true := by simpa using hkey
      rw [readSort_of_blank hblank] at hasked
      cases hasked
      rfl
    | _ => rfl

/-! ## Values -/

/-- The values that changes give are those of the pairs whose keys are properties. -/
theorem filterMap_value (h : List.Forall₂ (Reads t) pairs changes) :
    changes.filterMap Change.value? = pairs.filter fun pair => isValueKey t pair.1 := by
  induction h with
  | nil => rfl
  | @cons pair change pairs changes hpair _ ih =>
    cases hpair with
    | value hname hp =>
      rw [List.filter_cons_of_pos (by simp [isValueKey, hname, hp]), ← ih,
        (Table.mem_of_property? hp).2]
      rfl
    | nothing hname hp =>
      rw [List.filter_cons_of_neg (by simp [isValueKey, hp]), ← ih]
      rfl
    | page | size | order | operator =>
      rw [List.filter_cons_of_neg
        (by simp [isValueKey, isReserved, pageKey, sizeKey, sortKey, filterKey]), ← ih]
      rfl

theorem eraseDups_concat (keys : List String) (key : String) :
    (keys ++ [key]).eraseDups = addKey key keys.eraseDups := by
  rw [List.eraseDups_append, addKey]
  by_cases h : key ∈ keys <;> simp [List.removeAll, List.eraseDups_cons, h]

theorem nodup_eraseDups (keys : List String) : keys.eraseDups.Nodup := by
  induction keys using List.reverseRecOn with
  | nil => exact .nil
  | append_singleton keys key ih =>
    rw [eraseDups_concat]
    exact nodup_addKey ih

/-- One more value, where every key has a text already. -/
theorem append_map (key raw : String) (f : String → String) {keys : List String} (h : keys.Nodup) :
    append key raw (keys.map fun name => (name, f name))
      = (addKey key keys).map fun name =>
          (name, if key = name then if name ∈ keys then f name ++ "," ++ raw else raw
            else f name) := by
  induction keys with
  | nil => simp [append, addKey]
  | cons k keys ih =>
    obtain ⟨hk, hkeys⟩ := List.nodup_cons.1 h
    rw [List.map_cons, append, addKey_cons]
    by_cases hkey : k = key
    · -- the key stands here and at no later place
      subst hkey
      rw [if_pos rfl, if_pos rfl, List.map_cons, if_pos rfl, if_pos List.mem_cons_self]
      refine congrArg _ (List.map_congr_left fun name hname => ?_)
      rw [if_neg fun heq : k = name => hk (heq ▸ hname)]
    · have hne : ¬key = k := fun heq => hkey heq.symm
      rw [if_neg hkey, if_neg hkey, List.map_cons, if_neg hne, ih hkeys]
      refine congrArg _ (List.map_congr_left fun name _ => ?_)
      by_cases hname : key = name
      · subst hname
        simp only [List.mem_cons, hne, false_or]
      · rw [if_neg hname, if_neg hname]

theorem values_eq_joined (entries : List (String × String)) :
    entries.foldl (fun m e => append e.1 e.2 m) []
      = (entries.map Prod.fst).eraseDups.map fun name => (name, joined entries name) := by
  induction entries using List.reverseRecOn with
  | nil => rfl
  | append_singleton entries e ih =>
    rw [List.foldl_append, ih, List.foldl_cons, List.foldl_nil, append_map _ _ _ (nodup_eraseDups _),
      List.map_append, List.map_cons, List.map_nil, eraseDups_concat]
    simp only [joined_concat, List.mem_eraseDups]

/-- **The values of a draft**: those of each property joined, at the place of the first one. -/
theorem values_of_forall₂ (h : List.Forall₂ (Reads t) pairs changes) :
    (changes.foldl Draft.apply .blank).values
      = (valued t pairs).map fun name => (name, joined pairs name) := by
  rw [foldl_apply_blank, filterMap_value h, values_eq_joined, valued, List.filter_map]
  refine List.map_congr_left fun name hname => ?_
  -- the pairs under a name that has values are all among the pairs with values
  obtain ⟨pair, hpair, rfl⟩ := List.mem_map.1 (List.mem_eraseDups.1 hname)
  have hkey : isValueKey t pair.1 = true := (List.mem_filter.1 hpair).2
  have htexts : texts pair.1 (pairs.filter fun pair => isValueKey t pair.1)
      = texts pair.1 pairs := by
    rw [texts, texts, List.filter_filter]
    refine congrArg _ (List.filter_congr fun other _ => ?_)
    by_cases hother : other.1 = pair.1 <;> simp [hother, hkey]
  rw [joined, htexts]
  rfl

/-! ## Operators -/

/-- The operator of a property: the last one that is declared for it, or `equals`. -/
def operatorOf (declared : List (String × String)) (name : String) : String :=
  (declared.reverse.lookup name).getD "equals"

theorem lookup_assign (key value name : String) (entries : List (String × String)) :
    (assign key value entries).lookup name
      = if name = key then some value else entries.lookup name := by
  induction entries with
  | nil => rw [assign, Keyed.lookup_cons_eq_ite]
  | cons e entries ih =>
    rw [assign]
    split
    next hkey =>
      subst hkey
      rw [Keyed.lookup_cons_eq_ite, Keyed.lookup_cons_eq_ite]
      split <;> rfl
    next hkey =>
      rw [Keyed.lookup_cons_eq_ite, Keyed.lookup_cons_eq_ite, ih]
      by_cases hname : name = e.1
      · have hne : ¬name = key := fun heq => hkey (hname.symm.trans heq)
        rw [if_pos hname, if_neg hne, if_pos hname]
      · rw [if_neg hname, if_neg hname]

/-- Of the operators of a property the last one stays. -/
theorem lookup_foldl_assign (declared : List (String × String)) (name : String) :
    (declared.foldl (fun m o => assign o.1 o.2 m) []).lookup name
      = declared.reverse.lookup name := by
  induction declared using List.reverseRecOn with
  | nil => rfl
  | append_singleton declared o ih =>
    rw [List.foldl_append, List.foldl_cons, List.foldl_nil, lookup_assign, ih,
      List.reverse_append, List.reverse_singleton, List.singleton_append,
      Keyed.lookup_cons_eq_ite]

theorem lookup_operators (changes : List Change) (name : String) :
    ((changes.foldl Draft.apply .blank).operators.lookup name).getD defaultOperator
      = operatorOf (changes.filterMap Change.operator?) name := by
  rw [foldl_apply_blank, lookup_foldl_assign]
  rfl

end Request

end TableQuery
