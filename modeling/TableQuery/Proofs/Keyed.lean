import Mathlib.Data.List.Basic
import Mathlib.Data.List.Nodup
import Mathlib.Data.List.Perm.Basic
import TableQuery.Keyed

/-!
# Collections by their entries

A collection under text keys is determined by which entries it has: no key stands twice and the
order is the order of the keys.  So what has been put into a collection is said by a permutation of
its entries.

* `Keyed.get?_eq_some_iff`, `Keyed.contains_iff_mem_keys` — reading is membership;
* `Keyed.eq_of_perm`, `Keyed.eq_of_get?` — collections with the same entries are equal, and so are
  collections that are read alike;
* `Keyed.perm_insert` — a new key is one more entry;
* `Keyed.mem_of_get?_ofList`, `Keyed.perm_ofList` — what is found among the entries of a list is one
  of them, and if no key stands twice all of them are there.
-/

namespace TableQuery.Keyed

variable {α : Type} {m m' : Keyed α} {key : String} {v : α}

/-! ## Reading -/

theorem keys_nodup (m : Keyed α) : m.keys.Nodup := by
  refine List.Pairwise.map Prod.fst ?_ m.ordered
  intro a b hab heq
  rw [heq] at hab
  exact String.lt_irrefl _ hab

theorem lookup_eq_some_iff {entries : List (String × α)} (h : (entries.map Prod.fst).Nodup) :
    entries.lookup key = some v ↔ (key, v) ∈ entries := by
  induction entries with
  | nil => simp
  | cons e entries ih =>
    obtain ⟨hnew, hrest⟩ := List.nodup_cons.1 h
    rw [lookup_cons_eq_ite, List.mem_cons]
    by_cases hkey : key = e.1
    · subst hkey
      have hnot : (e.1, v) ∉ entries := fun hmem => hnew (List.mem_map.2 ⟨_, hmem, rfl⟩)
      simp [hnot, Prod.ext_iff, eq_comm]
    · simp [hkey, ih hrest, Prod.ext_iff]

/-- What is found is one of the entries. -/
theorem mem_of_lookup {entries : List (String × α)} (h : entries.lookup key = some v) :
    (key, v) ∈ entries := by
  obtain ⟨before, after, rfl, _⟩ := List.lookup_eq_some_iff.1 h
  exact List.mem_append_right before List.mem_cons_self

/-- Nothing is found under a key that no entry has. -/
theorem lookup_eq_none_of_notMem {entries : List (String × α)}
    (h : key ∉ entries.map Prod.fst) : entries.lookup key = none := by
  rw [List.lookup_eq_none_iff]
  intro e he
  refine bne_iff_ne.2 fun hkey => h ?_
  rw [hkey]
  exact List.mem_map_of_mem he

theorem get?_eq_some_iff : m.get? key = some v ↔ (key, v) ∈ m.entries :=
  lookup_eq_some_iff m.keys_nodup

theorem contains_iff_mem_keys : m.contains key = true ↔ key ∈ m.keys := by
  rw [contains, Option.isSome_iff_exists, keys, List.mem_map]
  simp only [get?_eq_some_iff]
  constructor
  · rintro ⟨v, hv⟩
    exact ⟨_, hv, rfl⟩
  · rintro ⟨⟨k, v⟩, hv, rfl⟩
    exact ⟨v, hv⟩

theorem contains_eq_false_iff : m.contains key = false ↔ key ∉ m.keys := by
  rw [← Bool.not_eq_true, contains_iff_mem_keys]

/-! ## Equality and insertion -/

/-- **Collections with the same entries are equal**, in whatever order these were put in. -/
theorem eq_of_perm (h : m.entries.Perm m'.entries) : m = m' := by
  refine Keyed.ext (h.eq_of_pairwise ?_ m.ordered m'.ordered)
  intro a b _ _ hab hba
  exact absurd (String.lt_trans hab hba) (String.lt_irrefl _)

/-- Collections that are read alike are equal. -/
theorem eq_of_get? (h : ∀ key, m.get? key = m'.get? key) : m = m' := by
  have hnodup : ∀ m : Keyed α, m.entries.Nodup := fun m => List.Nodup.of_map Prod.fst m.keys_nodup
  refine eq_of_perm ((List.perm_ext_iff_of_nodup (hnodup m) (hnodup m')).2 fun e => ?_)
  rw [← get?_eq_some_iff, ← get?_eq_some_iff, h]

theorem perm_place {entries : List (String × α)} (h : key ∉ entries.map Prod.fst) (v : α) :
    (place key v entries).Perm ((key, v) :: entries) := by
  induction entries with
  | nil => exact .refl _
  | cons e entries ih =>
    rw [List.map_cons, List.mem_cons, not_or] at h
    rw [place]
    split
    · exact .refl _
    · rw [if_neg h.1]
      exact ((ih h.2).cons e).trans (.swap _ _ _)

/-- A key that is new is one more entry. -/
theorem perm_insert (h : m.contains key = false) (v : α) :
    (m.insert key v).entries.Perm ((key, v) :: m.entries) :=
  perm_place (contains_eq_false_iff.1 h) v

/-! ## Collections made from lists -/

theorem mem_of_get?_foldl {entries : List (String × α)}
    (h : (entries.foldl (fun m e => m.insert e.1 e.2) m).get? key = some v) :
    (key, v) ∈ entries ∨ m.get? key = some v := by
  induction entries generalizing m with
  | nil => exact .inr h
  | cons e entries ih =>
    rw [List.foldl_cons] at h
    rcases ih h with hmem | hget
    · exact .inl (List.mem_cons_of_mem _ hmem)
    · rw [get?_insert] at hget
      split at hget
      · rename_i hkey
        obtain rfl := Option.some.inj hget
        exact .inl (hkey ▸ List.mem_cons_self)
      · exact .inr hget

theorem mem_of_get?_ofList {entries : List (String × α)}
    (h : (ofList entries).get? key = some v) : (key, v) ∈ entries := by
  rcases mem_of_get?_foldl h with hmem | hempty
  · exact hmem
  · exact absurd hempty (by simp)

theorem perm_foldl_insert {entries : List (String × α)}
    (h : ((m.entries ++ entries).map Prod.fst).Nodup) :
    (entries.foldl (fun m e => m.insert e.1 e.2) m).entries.Perm (m.entries ++ entries) := by
  induction entries generalizing m with
  | nil => rw [List.append_nil]; exact .refl _
  | cons e entries ih =>
    have hnew : m.contains e.1 = false := by
      rw [List.map_append, List.nodup_append] at h
      exact contains_eq_false_iff.2 fun hmem => h.2.2 _ hmem _ List.mem_cons_self rfl
    have hmoved : ((m.insert e.1 e.2).entries ++ entries).Perm (m.entries ++ e :: entries) :=
      ((perm_insert hnew e.2).append_right entries).trans List.perm_middle.symm
    exact (ih ((hmoved.map Prod.fst).nodup_iff.2 h)).trans hmoved

/-- A list in which no key stands twice is the entries of its collection, up to their order. -/
theorem perm_ofList {entries : List (String × α)} (h : (entries.map Prod.fst).Nodup) :
    (ofList entries).entries.Perm entries :=
  perm_foldl_insert h

end TableQuery.Keyed
