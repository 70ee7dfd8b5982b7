import TableQuery.Proofs.Settings.Overlay
import TableQuery.Settings.Environment
import TableQuery.Toml.Document

/-!
# What documents and variables write is in key order

No key stands twice in a table that was read.  A table of a document takes its final form in one
pass over its fields, which puts them in the order of their keys; what was read before that only
has to keep the values that are in it.  The tables of a variable are made from their fields at once.

* `Toml.Node.Ordered` — every value in a table of a document is in key order;
* `Toml.Node.inside_ordered` — a change at the end of a path keeps this;
* `Toml.readLine?_ordered` — so does every line;
* `Tree.ofToml?_ordered` — the tree of a document is in key order;
* `Environment.readTree_ordered` — so is the tree of a variable.
-/

namespace TableQuery

/-! ## The tables of a document -/

namespace Toml

/-- Every value in the node is in key order.  A list of tables is never laid over another one. -/
inductive Node.Ordered : Node → Prop
  | value {t : Tree} (h : t.Ordered) : Ordered (.value t)
  | table {making : Making} {fields : List (String × Node)}
    (inside : ∀ e ∈ fields, Ordered e.2) : Ordered (.table making fields)
  | tables (items : List (List (String × Node))) : Ordered (.tables items)

/-- Every value in the table is in key order. -/
def Fields.Ordered (t : Fields) : Prop := ∀ e ∈ t.fields, e.2.Ordered

variable {t u : Fields} {node : Node} {key : String} {path : List String} {tree : Tree}

/-- The fields of a finished table are in the order of their keys. -/
theorem Node.toFields_pairwise (fields : List (String × Node)) :
    (Node.toFields fields).Pairwise fun a b => a.1 < b.1 := by
  induction fields with
  | nil => rw [Node.toFields]; exact List.Pairwise.nil
  | cons e fields ih =>
    rw [Node.toFields]
    exact Keyed.insert_ordered _ _ ih

theorem Node.of_mem_toFields {fields : List (String × Node)} {e : String × Tree}
    (h : e ∈ Node.toFields fields) : ∃ f ∈ fields, e = (f.1, f.2.toTree) := by
  induction fields with
  | nil => rw [Node.toFields] at h; cases h
  | cons f fields ih =>
    rw [Node.toFields] at h
    rcases Keyed.mem_place h with he | he
    · exact ⟨f, List.mem_cons_self, he⟩
    · obtain ⟨g, hg, he⟩ := ih he
      exact ⟨g, List.mem_cons_of_mem f hg, he⟩

theorem Node.Ordered.toTree (h : node.Ordered) : node.toTree.Ordered := by
  induction h with
  | value h => rw [Node.toTree]; exact h
  | table inside ih =>
    rw [Node.toTree]
    refine .table (Node.toFields_pairwise _) ?_
    intro e he
    obtain ⟨f, hf, rfl⟩ := Node.of_mem_toFields he
    exact ih f hf
  | tables items => rw [Node.toTree]; exact .single rfl

theorem Fields.Ordered.toTree (h : t.Ordered) : t.toTree.Ordered := by
  have htable : (Node.table t.making t.fields).Ordered := .table h
  have htree := htable.toTree
  rw [Node.toTree] at htree
  exact htree

/-! ## Changes -/

theorem Fields.Ordered.set (h : t.Ordered) (hnode : node.Ordered) (key : String) :
    Fields.Ordered { t with fields := Node.set key node t.fields } := by
  obtain ⟨making, fields⟩ := t
  show ∀ e ∈ Node.set key node fields, e.2.Ordered
  induction fields with
  | nil =>
    intro e he
    rw [List.mem_singleton.1 he]
    exact hnode
  | cons f fields ih =>
    have hboth := List.forall_mem_cons.1 h
    rw [Node.set]
    split
    · exact List.forall_mem_cons.2 ⟨hnode, hboth.2⟩
    · exact List.forall_mem_cons.2 ⟨hboth.1, ih hboth.2⟩

theorem Fields.Ordered.of_lookup (h : t.Ordered) (hnode : t.fields.lookup key = some node) :
    node.Ordered :=
  h (key, node) (Keyed.mem_of_lookup hnode)

/-- **A change at the end of a path keeps all values in key order** if the change itself does. -/
theorem Node.inside_ordered {change : Fields → Option Fields} {making : Making}
    (hchange : ∀ t u : Fields, t.Ordered → change t = some u → u.Ordered) (h : t.Ordered)
    (hu : Node.inside making change path t = some u) : u.Ordered := by
  induction path generalizing t u with
  | nil => exact hchange t u h hu
  | cons key path ih =>
    rw [Node.inside] at hu
    cases hl : t.fields.lookup key with
    | none =>
      rw [hl] at hu
      obtain ⟨v, hv, hu⟩ := Option.bind_eq_some_iff.1 hu
      obtain rfl := Option.some.inj hu
      have hempty : Fields.Ordered ⟨making, []⟩ := fun e he => by cases he
      exact h.set (.table (ih hempty hv)) key
    | some node =>
      have hnode := h.of_lookup hl
      rw [hl] at hu
      cases hnode with
      | value => cases hu
      | @table made fields inside =>
        dsimp only at hu
        split at hu
        · cases hu
        · obtain ⟨v, hv, hu⟩ := Option.bind_eq_some_iff.1 hu
          obtain rfl := Option.some.inj hu
          exact h.set (.table (ih (t := ⟨made, fields⟩) inside hv)) key
      | tables items =>
        cases items with
        | nil => cases hu
        | cons last earlier =>
          obtain ⟨v, hv, hu⟩ := Option.bind_eq_some_iff.1 hu
          obtain rfl := Option.some.inj hu
          exact h.set (.tables _) key

theorem Node.open?_ordered (h : t.Ordered) (hu : Node.open? path t = some u) : u.Ordered := by
  obtain ⟨⟨parents, last⟩, _, hu⟩ := Option.bind_eq_some_iff.1 hu
  refine Node.inside_ordered (fun t u ht hchange => ?_) h hu
  split at hchange
  · obtain rfl := Option.some.inj hchange
    exact ht.set (.table fun e he => by cases he) last
  · rename_i fields hl
    obtain rfl := Option.some.inj hchange
    have hnode := ht.of_lookup hl
    cases hnode with
    | table inside => exact ht.set (.table inside) last
  · cases hchange

theorem Node.append?_ordered (h : t.Ordered) (hu : Node.append? path t = some u) : u.Ordered := by
  obtain ⟨⟨parents, last⟩, _, hu⟩ := Option.bind_eq_some_iff.1 hu
  refine Node.inside_ordered (fun t u ht hchange => ?_) h hu
  split at hchange
  · obtain rfl := Option.some.inj hchange
    exact ht.set (.tables _) last
  · obtain rfl := Option.some.inj hchange
    exact ht.set (.tables _) last
  · cases hchange

theorem Node.assign?_ordered (htree : tree.Ordered) (h : t.Ordered)
    (hu : Node.assign? path tree t = some u) : u.Ordered := by
  obtain ⟨⟨parents, last⟩, _, hu⟩ := Option.bind_eq_some_iff.1 hu
  refine Node.inside_ordered (fun t u ht hchange => ?_) h hu
  split at hchange
  · cases hchange
  · split at hchange
    · cases hchange
    · obtain rfl := Option.some.inj hchange
      exact ht.set (.value htree) last

/-! ## Values -/

theorem readWord?_ordered {cs : List Char} (h : readWord? cs = some tree) : tree.Ordered := by
  rw [readWord?] at h
  split at h
  · obtain rfl := Option.some.inj h
    exact .single rfl
  · split at h
    · obtain rfl := Option.some.inj h
      exact .single rfl
    · split at h
      · obtain rfl := Option.some.inj h
        exact .table .nil fun e he => by cases he
      · split at h
        · split at h
          · obtain rfl := Option.some.inj h
            exact .single rfl
          · cases h
        · obtain ⟨x, _, rfl⟩ := Option.map_eq_some_iff.1 h
          exact .single rfl

theorem readBare?_ordered {cs rest : List Char} (h : readBare? cs = some (tree, rest)) :
    tree.Ordered := by
  rw [readBare?] at h
  split at h
  all_goals
    split at h
    · cases h
      exact .table .nil fun e he => by cases he
    · obtain ⟨t, ht, h⟩ := Option.map_eq_some_iff.1 h
      cases h
      exact readWord?_ordered ht

/-- A value is in key order, and so are all values of a table in braces; a list counts as a single
value, whatever is in it. -/
theorem readValue?_ordered_and_readPairs?_ordered (fuel : Nat) :
    (∀ levels cs tree rest, readValue? fuel levels cs = some (tree, rest) → tree.Ordered) ∧
      ∀ levels t cs u rest, t.Ordered → readPairs? fuel levels t cs = some (u, rest) →
        u.Ordered := by
  induction fuel with
  | zero =>
    constructor
    · intro levels cs tree rest h
      rw [readValue?] at h
      cases h
    · intro levels t cs u rest _ h
      rw [readPairs?] at h
      cases h
  | succ fuel ih =>
    obtain ⟨ihvalue, ihpairs⟩ := ih
    constructor
    · intro levels cs tree rest h
      rw [readValue?.eq_def] at h
      dsimp only at h
      split at h
      · obtain ⟨s, _, h⟩ := Option.map_eq_some_iff.1 h
        cases h
        exact .single rfl
      · obtain ⟨s, _, h⟩ := Option.map_eq_some_iff.1 h
        cases h
        exact .single rfl
      · cases h
      · cases h
      · obtain ⟨items, _, h⟩ := Option.map_eq_some_iff.1 h
        cases h
        exact .single rfl
      · split at h
        · cases h
          exact .table .nil fun e he => by cases he
        · obtain ⟨⟨u, r⟩, hu, h⟩ := Option.map_eq_some_iff.1 h
          cases h
          exact (ihpairs _ _ _ _ _ (fun e he => by cases he) hu).toTree
      · exact readBare?_ordered h
    · intro levels t cs u rest ht h
      rw [readPairs?] at h
      split at h
      · split at h
        · cases h
        · rename_i value r hvalue
          split at h
          · rename_i s r hassign _
            cases h
            exact Node.assign?_ordered (ihvalue _ _ _ _ hvalue) ht hassign
          · rename_i s r hassign _
            exact ihpairs _ _ _ _ _ (Node.assign?_ordered (ihvalue _ _ _ _ hvalue) ht hassign) h
          · cases h
      · cases h

theorem readValue?_ordered {fuel levels : Nat} {cs rest : List Char}
    (h : readValue? fuel levels cs = some (tree, rest)) : tree.Ordered :=
  (readValue?_ordered_and_readPairs?_ordered fuel).1 levels cs tree rest h

/-! ## Lines -/

/-- **One line keeps all values in key order.** -/
theorem readLine?_ordered {s s' : State} {cs rest : List Char} (hs : s.root.Ordered)
    (h : readLine? s cs = some (s', rest)) : s'.root.Ordered := by
  rw [readLine?] at h
  split at h
  · cases h; exact hs
  · cases h; exact hs
  · cases h; exact hs
  · cases h; exact hs
  · split at h
    · obtain ⟨root, hroot, h⟩ := Option.map_eq_some_iff.1 h
      cases h
      exact Node.append?_ordered hs hroot
    · cases h
  · obtain ⟨⟨path, r⟩, _, h⟩ := Option.bind_eq_some_iff.1 h
    obtain ⟨root, hroot, h⟩ := Option.map_eq_some_iff.1 h
    cases h
    exact Node.open?_ordered hs hroot
  · split at h
    · obtain ⟨⟨value, r⟩, hvalue, h⟩ := Option.bind_eq_some_iff.1 h
      obtain ⟨root, hroot, h⟩ := Option.map_eq_some_iff.1 h
      cases h
      exact Node.inside_ordered
        (fun t u => Node.assign?_ordered (readValue?_ordered hvalue)) hs hroot
    · cases h

/-- All lines keep all values in key order. -/
theorem readLines?_ordered {fuel : Nat} {s s' : State} {cs : List Char} (hs : s.root.Ordered)
    (h : readLines? fuel s cs = some s') : s'.root.Ordered := by
  induction fuel generalizing s cs with
  | zero =>
    cases cs with
    | nil => cases h; exact hs
    | cons c cs => cases h
  | succ fuel ih =>
    cases cs with
    | nil => cases h; exact hs
    | cons c cs =>
      rw [readLines?] at h
      case x_3 => intro hnil; cases hnil
      obtain ⟨⟨next, rest⟩, hline, h⟩ := Option.bind_eq_some_iff.1 h
      obtain ⟨rest, _, h⟩ := Option.bind_eq_some_iff.1 h
      exact ih (readLine?_ordered hs hline) h

end Toml

/-- **The tree of a document is in key order.** -/
theorem Tree.ofToml?_ordered {text : String} {t : Tree} (h : Tree.ofToml? text = some t) :
    t.Ordered := by
  obtain ⟨s, hs, rfl⟩ := Option.map_eq_some_iff.1 h
  have hstart : Toml.State.start.root.Ordered := fun e he => by cases he
  exact (Toml.readLines?_ordered hstart hs).toTree

/-! ## The tree of a variable -/

namespace Environment

theorem wordTree_ordered (word : String) : (wordTree word).Ordered := by
  rw [wordTree]
  split <;> exact .single rfl

/-- A value is in key order, and so are the fields of a table in braces. -/
theorem readValue?_ordered_and_readPairs?_ordered (fuel : Nat) :
    (∀ cs t rest, readValue? fuel cs = some (t, rest) → t.Ordered) ∧
      ∀ cs fields rest, readPairs? fuel cs = some (fields, rest) → ∀ e ∈ fields, e.2.Ordered := by
  induction fuel with
  | zero =>
    constructor
    · intro cs t rest h
      rw [readValue?] at h
      cases h
    · intro cs fields rest h
      rw [readPairs?] at h
      cases h
  | succ fuel ih =>
    obtain ⟨ihvalue, ihpairs⟩ := ih
    constructor
    · intro cs t rest h
      rw [readValue?] at h
      obtain ⟨⟨u, r⟩, hvalue, h⟩ := Option.map_eq_some_iff.1 h
      cases h
      split at hvalue
      · cases hvalue; exact .single rfl
      · cases hvalue; exact .single rfl
      · split at hvalue
        · obtain ⟨⟨fields, r⟩, hfields, h⟩ := Option.map_eq_some_iff.1 hvalue
          cases h
          simpa using Tree.ordered_ofList (f := id) (ihpairs _ _ _ hfields)
        · obtain ⟨items, _, h⟩ := Option.map_eq_some_iff.1 hvalue
          cases h
          exact .single rfl
        · obtain ⟨s, _, h⟩ := Option.map_eq_some_iff.1 hvalue
          cases h
          exact .single rfl
        · rw [← (Prod.mk.inj (Option.some.inj hvalue)).1]
          exact .single rfl
        · cases hvalue
        · rw [← (Prod.mk.inj (Option.some.inj hvalue)).1]
          exact wordTree_ordered _
    · intro cs fields rest h
      rw [readPairs?.eq_def] at h
      split at h
      · cases h
      · cases h
        intro e he
        cases he
      · rename_i hfuel _
        obtain rfl := Nat.succ.inj hfuel
        split at h
        · split at h
          · rename_i value r hvalue
            obtain ⟨⟨more, r⟩, hmore, h⟩ := Option.map_eq_some_iff.1 h
            cases h
            exact List.forall_mem_cons.2 ⟨ihvalue _ _ _ hvalue, ihpairs _ _ _ hmore⟩
          · rename_i value r hvalue
            cases h
            intro e he
            rw [List.mem_singleton.1 he]
            exact ihvalue _ _ _ hvalue
          · cases h
        · cases h

/-- **The tree of a variable is in key order.** -/
theorem readTree_ordered (value : String) : (readTree value).Ordered := by
  rw [readTree]
  split
  · rename_i t h
    exact (readValue?_ordered_and_readPairs?_ordered _).1 _ _ _ h
  · exact .single rfl

end Environment

end TableQuery
