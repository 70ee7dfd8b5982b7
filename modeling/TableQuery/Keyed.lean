/-!
# Values under text keys

`Keyed α` holds at most one value for each key and keeps its entries in the order of their keys.
Strings are ordered by code point, which is the order of their UTF-8 bytes.  Two `Keyed` with the
same entries are equal, so the order in which entries were put in leaves no trace.

* `get?`, `contains`, `keys`, `size` — reading;
* `insert` — the value of a key from now on, whatever it was;
* `ofList` — the entries of a list, a later one replacing an earlier one of the same key;
* `insert_ordered` — insertion keeps the order;
* `get?_insert` — what is found after an insertion.
-/

namespace TableQuery

/-- Values under text keys, in key order. -/
@[ext]
structure Keyed (α : Type) where
  /-- The entries, least key first. -/
  entries : List (String × α)
  /-- No key occurs twice and the keys ascend. -/
  ordered : entries.Pairwise fun a b => a.1 < b.1

namespace Keyed

variable {α : Type}

/-! ## Insertion -/

/-- Puts a value under a key into entries in key order. -/
def place (key : String) (value : α) : List (String × α) → List (String × α)
  | [] => [(key, value)]
  | (k, v) :: rest =>
    if key < k then (key, value) :: (k, v) :: rest
    else if key = k then (key, value) :: rest
    else (k, v) :: place key value rest

/-- Insertion adds its entry and no other. -/
theorem mem_place {key : String} {value : α} {entries : List (String × α)}
    {e : String × α} (h : e ∈ place key value entries) : e = (key, value) ∨ e ∈ entries := by
  induction entries with
  | nil => exact .inl (List.mem_singleton.1 h)
  | cons f rest ih =>
    rw [place] at h
    split at h
    · exact List.mem_cons.1 h
    · split at h
      · exact (List.mem_cons.1 h).imp_right (List.mem_cons_of_mem f)
      · rcases List.mem_cons.1 h with rfl | h
        · exact .inr List.mem_cons_self
        · exact (ih h).imp_right (List.mem_cons_of_mem f)

/-- Insertion keeps the entries in key order. -/
theorem insert_ordered (key : String) (value : α) {entries : List (String × α)}
    (h : entries.Pairwise fun a b => a.1 < b.1) :
    (place key value entries).Pairwise fun a b => a.1 < b.1 := by
  induction entries with
  | nil => simp [place]
  | cons f rest ih =>
    obtain ⟨k, v⟩ := f
    obtain ⟨hk, hr⟩ := List.pairwise_cons.1 h
    rw [place]
    split
    next hlt =>
      refine List.pairwise_cons.2 ⟨fun e he => ?_, h⟩
      rcases List.mem_cons.1 he with rfl | he
      · exact hlt
      · exact String.lt_trans hlt (hk e he)
    next hlt =>
      split
      next heq => subst heq; exact List.pairwise_cons.2 ⟨hk, hr⟩
      next hne =>
        refine List.pairwise_cons.2 ⟨fun e he => ?_, ih hr⟩
        rcases mem_place he with rfl | he
        · exact String.not_le.1 fun hle => hne (String.le_antisymm hle (String.not_lt.1 hlt))
        · exact hk e he

/-- No entries. -/
def empty : Keyed α := ⟨[], List.Pairwise.nil⟩

instance : Inhabited (Keyed α) := ⟨empty⟩

/-- The value of `key` from now on. -/
def insert (m : Keyed α) (key : String) (value : α) : Keyed α :=
  ⟨place key value m.entries, insert_ordered key value m.ordered⟩

/-- The entries of a list, a later one replacing an earlier one of the same key. -/
def ofList (entries : List (String × α)) : Keyed α :=
  entries.foldl (fun m e => m.insert e.1 e.2) empty

/-! ## Reading -/

/-- The value of a key. -/
def get? (m : Keyed α) (key : String) : Option α := m.entries.lookup key

/-- There is a value under the key. -/
def contains (m : Keyed α) (key : String) : Bool := (m.get? key).isSome

/-- The keys, least first. -/
def keys (m : Keyed α) : List String := m.entries.map Prod.fst

/-- The number of entries. -/
def size (m : Keyed α) : Nat := m.entries.length

/-- There is no entry. -/
def isEmpty (m : Keyed α) : Bool := m.entries.isEmpty

/-! ## Insertion as readers see it -/

/-- The first entry of a list is found under its key, and the others under all other keys. -/
theorem lookup_cons_eq_ite (e : String × α) (entries : List (String × α)) (k : String) :
    (e :: entries).lookup k = if k = e.1 then some e.2 else entries.lookup k := by
  rw [List.lookup_cons]
  by_cases h : k = e.1
  · simp [h]
  · simp [h, beq_false_of_ne h]

/-- A value that was put in is found under its key, and no other key is touched. -/
theorem lookup_place (key k : String) (value : α) (entries : List (String × α)) :
    (place key value entries).lookup k = if k = key then some value else entries.lookup k := by
  induction entries with
  | nil => rw [place, lookup_cons_eq_ite]
  | cons f rest ih =>
    obtain ⟨k', v⟩ := f
    rw [place]
    split
    next => rw [lookup_cons_eq_ite]
    next =>
      split
      next heq =>
        subst heq
        rw [lookup_cons_eq_ite, lookup_cons_eq_ite]
        split <;> rfl
      next hne =>
        rw [lookup_cons_eq_ite, lookup_cons_eq_ite, ih]
        by_cases h : k = k'
        · have hk : k ≠ key := fun hk => hne (hk.symm.trans h)
          simp [h, h ▸ hk]
        · simp [h]

/-- After an insertion a key has the value put in, if it is the key of the insertion, and otherwise
the value that it had. -/
@[simp] theorem get?_insert (m : Keyed α) (key k : String) (value : α) :
    (m.insert key value).get? k = if k = key then some value else m.get? k :=
  lookup_place key k value m.entries

/-- Nothing is found where there are no entries. -/
@[simp] theorem get?_empty (k : String) : (empty : Keyed α).get? k = none := rfl

end Keyed

end TableQuery
