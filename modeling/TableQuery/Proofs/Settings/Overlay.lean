import TableQuery.Proofs.Keyed
import TableQuery.Settings.Tree

/-!
# Layers over each other

What stands at the end of a path in one layer over another: what the upper layer has there, and
where it has nothing, what the lower layer has there.  This holds wherever the upper layer goes
along the path in tables and has a single value at its end; a single value on the way would hide
what is below it.

* `Tree.Ordered` — the tables of a tree have their keys in order, so no key stands twice in one;
* `Tree.Fits` — a tree goes along a path in tables, and what it has at the end is as it should be;
* `Tree.lookup_overlay` — one key of one layer over another;
* `Tree.at?_under`, `Tree.fits_under` — a tree with a single path;
* `Tree.at?_overlay` — a path in one layer over another;
* `Tree.foldl_overlay` — any number of layers: the highest one that has something counts.
-/

namespace TableQuery.Tree

variable {P : Tree → Prop} {lower upper t : Tree} {key : String} {path : List String}

/-! ## Trees in key order -/

/-- The tree is a table. -/
def isTable : Tree → Bool
  | .table _ => true
  | _ => false

/-- Every table that tables lead to has its keys in order.  A list counts as a single value: no
layer is laid over the inside of a list. -/
inductive Ordered : Tree → Prop
  | single {t : Tree} (h : t.isTable = false) : Ordered t
  | table {fields : List (String × Tree)} (keys : fields.Pairwise fun a b => a.1 < b.1)
    (inside : ∀ e ∈ fields, Ordered e.2) : Ordered (.table fields)

theorem Ordered.keys_ordered (h : t.Ordered) : t.fields.Pairwise fun a b => a.1 < b.1 := by
  cases h with
  | single hsingle =>
    cases t with
    | table fields => cases hsingle
    | _ => exact List.Pairwise.nil
  | table keys inside => exact keys

theorem Ordered.keys_nodup (h : t.Ordered) : (t.fields.map Prod.fst).Nodup :=
  Keyed.keys_nodup ⟨t.fields, h.keys_ordered⟩

theorem Ordered.of_lookup (h : t.Ordered) {u : Tree} (hu : t.fields.lookup key = some u) :
    u.Ordered := by
  have hmem := Keyed.mem_of_lookup hu
  cases h with
  | single hsingle =>
    cases t with
    | table fields => cases hsingle
    | _ => cases hmem
  | table keys inside => exact inside _ hmem

/-- A table made from fields is in key order if they are. -/
theorem ordered_ofList {α : Type} {fields : List (String × α)} {f : α → Tree}
    (h : ∀ e ∈ fields, (f e.2).Ordered) :
    (Tree.table ((Keyed.ofList fields).entries.map fun e => (e.1, f e.2))).Ordered := by
  refine .table (List.pairwise_map.2 (Keyed.ofList fields).ordered) ?_
  intro e he
  obtain ⟨g, hg, rfl⟩ := List.mem_map.1 he
  exact h g (Keyed.mem_of_get?_ofList (Keyed.get?_eq_some_iff.2 hg))

/-- A tree at the end of a path is in key order if it was before. -/
theorem Ordered.under (h : t.Ordered) (path : List String) : (Tree.under path t).Ordered := by
  induction path with
  | nil => exact h
  | cons key path ih =>
    refine .table (List.pairwise_singleton _ _) ?_
    intro e he
    rw [List.mem_singleton.1 he]
    exact ih

/-! ## One layer over another -/

theorem overlay_of_single (h : upper.isTable = false) : lower.overlay upper = upper := by
  cases upper with
  | table fields => cases h
  | _ => rw [overlay]; intro fields hfields; cases hfields

theorem isTable_overlay (h : upper.isTable = true) : (lower.overlay upper).isTable = true := by
  cases upper with
  | table fields => cases lower <;> rfl
  | _ => cases h

/-- The first field of the upper layer is put in, over what the lower layer has under its key. -/
theorem overlayFields_cons (lower rest : List (String × Tree)) (key : String) (u : Tree) :
    overlayFields lower ((key, u) :: rest) =
      overlayFields (Keyed.place key ((lower.lookup key).elim u (overlay · u)) lower) rest := by
  rw [overlayFields]
  cases lower.lookup key <;> rfl

theorem lookup_overlayFields {upper : List (String × Tree)} (h : (upper.map Prod.fst).Nodup)
    (lower : List (String × Tree)) (k : String) :
    (overlayFields lower upper).lookup k =
      ((upper.lookup k).map fun u => (lower.lookup k).elim u (overlay · u)).or
        (lower.lookup k) := by
  induction upper generalizing lower with
  | nil => rw [overlayFields]; rfl
  | cons e upper ih =>
    obtain ⟨key, u⟩ := e
    obtain ⟨hnew, hrest⟩ := List.nodup_cons.1 h
    rw [overlayFields_cons, ih hrest, Keyed.lookup_place, Keyed.lookup_cons_eq_ite]
    by_cases hk : k = key
    · simp [hk, Keyed.lookup_eq_none_of_notMem hnew]
    · simp [hk]

/-- **One key of one layer over another.**  Where both have something under the key, the upper part
is laid over the lower one; otherwise the one that has something counts. -/
theorem lookup_overlay (ho : upper.Ordered) (ht : upper.isTable = true) (k : String) :
    (lower.overlay upper).fields.lookup k =
      ((upper.fields.lookup k).map fun u => (lower.fields.lookup k).elim u (overlay · u)).or
        (lower.fields.lookup k) := by
  cases upper with
  | table upper =>
    cases lower with
    | table lower => exact lookup_overlayFields ho.keys_nodup lower k
    | _ =>
      show upper.lookup k = ((upper.lookup k).map fun u => u).or none
      simp
  | _ => cases ht

/-- Laying layers in key order over each other gives one in key order. -/
theorem ordered_overlayFields {lower upper : List (String × Tree)}
    (hupper : ∀ e ∈ upper, ∀ l : Tree, l.Ordered → (l.overlay e.2).Ordered)
    (hsingle : ∀ e ∈ upper, e.2.Ordered) (hlower : (Tree.table lower).Ordered) :
    (Tree.table (overlayFields lower upper)).Ordered := by
  induction upper generalizing lower with
  | nil => rw [overlayFields]; exact hlower
  | cons e upper ih =>
    obtain ⟨key, u⟩ := e
    rw [List.forall_mem_cons] at hupper hsingle
    rw [overlayFields_cons]
    refine ih hupper.2 hsingle.2 (.table (Keyed.insert_ordered _ _ hlower.keys_ordered) ?_)
    intro e he
    rcases Keyed.mem_place he with rfl | he
    · show ((lower.lookup key).elim u (overlay · u)).Ordered
      cases hl : lower.lookup key with
      | none => exact hsingle.1
      | some l => exact hupper.1 l (hlower.of_lookup hl)
    · cases hlower with
      | single h => cases h
      | table keys inside => exact inside e he

theorem Ordered.overlay (hlower : lower.Ordered) (hupper : upper.Ordered) :
    (lower.overlay upper).Ordered := by
  induction hupper generalizing lower with
  | single h => rw [overlay_of_single h]; exact .single h
  | table keys inside ih =>
    cases lower with
    | table lower => exact ordered_overlayFields (fun e he l hl => ih e he hl) inside hlower
    | _ => exact .table keys inside

/-! ## Paths -/

/-- The tree goes along the path in tables, as far as it goes, and what it has at the end of the
path is as described. -/
def Fits (P : Tree → Prop) : List String → Tree → Prop
  | [], t => P t
  | key :: path, t => t.isTable = true ∧ ∀ u ∈ t.fields.lookup key, Fits P path u

instance Fits.decidable [DecidablePred P] : ∀ path t, Decidable (Fits P path t)
  | [], t => inferInstanceAs (Decidable (P t))
  | key :: path, t =>
    have : DecidablePred (Fits P path) := Fits.decidable path
    inferInstanceAs
      (Decidable (t.isTable = true ∧ ∀ u ∈ t.fields.lookup key, Fits P path u))

/-- What a tree that fits a path has at the end of the path is as described. -/
theorem Fits.of_at? (h : t.Fits P path) {u : Tree} (hu : t.at? path = some u) : P u := by
  induction path generalizing t with
  | nil =>
    obtain rfl := Option.some.inj hu
    exact h
  | cons key path ih =>
    obtain ⟨v, hv, hu⟩ := Option.bind_eq_some_iff.1 hu
    exact ih (h.2 v hv) hu

/-- Behind a path of its own there is nothing else in a tree. -/
theorem at?_under {path' : List String} (hlength : path.length = path'.length) (t : Tree) :
    (Tree.under path' t).at? path = if path = path' then some t else none := by
  induction path generalizing path' with
  | nil =>
    obtain rfl := List.length_eq_zero_iff.1 hlength.symm
    rfl
  | cons key path ih =>
    obtain ⟨key', path', rfl⟩ := List.exists_cons_of_length_eq_add_one hlength.symm
    show (([(key', Tree.under path' t)] : List (String × Tree)).lookup key).bind (at? path) = _
    rw [Keyed.lookup_cons_eq_ite]
    by_cases hkey : key = key'
    · rw [if_pos hkey, Option.bind_some, ih (Nat.succ.inj hlength)]
      simp [hkey]
    · rw [if_neg hkey]
      simp [hkey]

theorem fits_under {path' : List String} (hlength : path.length = path'.length)
    (h : path = path' → P t) : (Tree.under path' t).Fits P path := by
  induction path generalizing path' with
  | nil =>
    obtain rfl := List.length_eq_zero_iff.1 hlength.symm
    exact h rfl
  | cons key path ih =>
    obtain ⟨key', path', rfl⟩ := List.exists_cons_of_length_eq_add_one hlength.symm
    refine ⟨rfl, fun u hu => ?_⟩
    change ([(key', Tree.under path' t)] : List (String × Tree)).lookup key = some u at hu
    rw [Keyed.lookup_cons_eq_ite] at hu
    split at hu
    · rename_i hkey
      obtain rfl := Option.some.inj hu
      exact ih (Nat.succ.inj hlength) fun hpath => h (by rw [hkey, hpath])
    · cases hu

section Layers

-- What stands at the end of the path is no table.
variable (hP : ∀ t, P t → t.isTable = false)

include hP

/-- **A path in one layer over another.** -/
theorem at?_overlay (ho : upper.Ordered) (h : upper.Fits P path) :
    (lower.overlay upper).at? path = (upper.at? path).or (lower.at? path) := by
  induction path generalizing lower upper with
  | nil => rw [overlay_of_single (hP _ h)]; rfl
  | cons key path ih =>
    show ((lower.overlay upper).fields.lookup key).bind (at? path) =
      ((upper.fields.lookup key).bind (at? path)).or ((lower.fields.lookup key).bind (at? path))
    rw [lookup_overlay ho h.1]
    cases hu : upper.fields.lookup key with
    | none => rfl
    | some u =>
      cases hl : lower.fields.lookup key with
      | none => simp
      | some l => exact ih (ho.of_lookup hu) (h.2 u hu)

/-- Layers that fit a path fit it over each other too. -/
theorem Fits.overlay (hlower : lower.Fits P path) (ho : upper.Ordered) (h : upper.Fits P path) :
    (lower.overlay upper).Fits P path := by
  induction path generalizing lower upper with
  | nil => rw [overlay_of_single (hP _ h)]; exact h
  | cons key path ih =>
    refine ⟨isTable_overlay h.1, ?_⟩
    rw [lookup_overlay ho h.1]
    cases hu : upper.fields.lookup key with
    | none => exact hlower.2
    | some u =>
      cases hl : lower.fields.lookup key with
      | none => simpa using h.2 u hu
      | some l => simpa using ih (hlower.2 l hl) (ho.of_lookup hu) (h.2 u hu)

end Layers

/-! ## Any number of layers -/

/-- **What is read from any number of layers**, the lowest one first, if it is read from one layer
over another as from the upper one, or else from the lower one: the highest layer that has it
counts. -/
theorem foldl_overlay {α : Type} (f : Tree → Option α) {layers : List Tree}
    (h : ∀ u ∈ layers, ∀ l : Tree, f (l.overlay u) = (f u).or (f l)) (base : Tree) :
    f (layers.foldl overlay base) = (layers.reverse.findSome? f).or (f base) := by
  induction layers generalizing base with
  | nil => rfl
  | cons u layers ih =>
    rw [List.forall_mem_cons] at h
    calc f (layers.foldl overlay (base.overlay u))
        = (layers.reverse.findSome? f).or (f (base.overlay u)) := ih h.2 _
      _ = (layers.reverse.findSome? f).or ((f u).or (f base)) := by rw [h.1]
      _ = ((u :: layers).reverse.findSome? f).or (f base) := by
          rw [List.reverse_cons, List.findSome?_append, Option.or_assoc]
          simp

end TableQuery.Tree
