import TableQuery.Proofs.Operators
import TableQuery.Proofs.Outcome

/-!
# Which operators make a registry

A registry is made by additions, one after the other: a single operator, or the operators of the
library at once.  An operator never takes the place of another one, so there is a registry just if no
id occurs twice, and the error is otherwise that of the first id that is there already.  A registry
finds the operators that were added and nothing else, in whatever order they were added.

* `Registry.Addition`, `Registry.addAll` — making a registry;
* `Registry.MadeOf` — what a registry has inside: an entry for each operator, and no other;
* `Registry.outcome_register_eq_ok`, `Registry.outcome_registerAll_eq_ok` — one more operator, and
  several;
* `Registry.Holds` — what readers find;
* `Registry.registrations_order_free` — when there is a registry, which error there is otherwise, and
  what the registry finds.
-/

namespace TableQuery

open Outcome

/-! ## Computations one after another -/

-- The laws are stated as a theorem: as an instance they would change what later proofs simplify to.
/-- Computations with a trace obey the laws of monads. -/
theorem lawful_traced (τ ε : Type) : LawfulMonad (Traced τ ε) :=
  LawfulMonad.mk' _
    (by
      rintro α ⟨trace, e | a⟩
      · rfl
      · show (⟨trace ++ [], .ok a⟩ : Traced τ ε α) = _
        rw [List.append_nil])
    (fun _ _ => rfl)
    (by
      rintro α β γ ⟨trace, e | a⟩ f g
      · rfl
      · show Traced.bind (⟨trace ++ (f a).trace, (f a).outcome⟩ : Traced τ ε β) g
          = ⟨trace ++ (Traced.bind (f a) g).trace, (Traced.bind (f a) g).outcome⟩
        rcases f a with ⟨trace', e | b⟩
        · rfl
        · show (⟨(trace ++ trace') ++ (g b).trace, (g b).outcome⟩ : Traced τ ε γ)
            = ⟨trace ++ (trace' ++ (g b).trace), (g b).outcome⟩
          rw [List.append_assoc])

namespace Registry

/-! ## Additions -/

/-- What is added to a registry at once. -/
inductive Addition where
  /-- One operator. -/
  | one (op : Operator)
  /-- The operators of the library. -/
  | builtins

/-- The operators of an addition, in the order in which they are registered. -/
def Addition.operators : Addition → List Operator
  | .one op => [op]
  | .builtins => Operator.builtins

/-- Makes one addition. -/
def add (r : Registry) : Addition → Traced Event ConfigurationError Registry
  | .one op => r.register op
  | .builtins => r.registerAll Operator.builtins

/-- Makes several additions, one after the other. -/
def addAll (r : Registry) (additions : List Addition) :
    Traced Event ConfigurationError Registry :=
  additions.foldlM add r

theorem registerAll_append (r : Registry) (ops ops' : List Operator) :
    r.registerAll (ops ++ ops') = r.registerAll ops >>= fun r' => r'.registerAll ops' := by
  have := lawful_traced Event ConfigurationError
  exact List.foldlM_append

theorem add_eq_registerAll (r : Registry) (a : Addition) :
    r.add a = r.registerAll a.operators := by
  have := lawful_traced Event ConfigurationError
  cases a with
  | one op => exact (bind_pure (r.register op)).symm
  | builtins => rfl

/-- **Additions register their operators individually**, with the same events and the same end. -/
theorem addAll_eq_registerAll (r : Registry) (additions : List Addition) :
    r.addAll additions = r.registerAll (additions.flatMap Addition.operators) := by
  induction additions generalizing r with
  | nil => rfl
  | cons a additions ih =>
    show (r.add a >>= fun r' => r'.addAll additions) = _
    rw [List.flatMap_cons, registerAll_append, add_eq_registerAll]
    exact congrArg _ (funext ih)

/-! ## What a registry has inside -/

/-- The entry of an operator. -/
def entry (op : Operator) : String × Operator := (op.id, op)

theorem map_fst_entry (ops : List Operator) :
    (ops.map entry).map Prod.fst = ops.map Operator.id := by
  rw [List.map_map]
  rfl

/-- The registry has an entry for each of these operators, and no other. -/
def MadeOf (r : Registry) (ops : List Operator) : Prop :=
  r.operators.entries.Perm (ops.map entry)

variable {r r' : Registry} {ops : List Operator}

theorem madeOf_empty : empty.MadeOf [] := .nil

theorem MadeOf.perm (h : r.MadeOf ops) {ops' : List Operator} (hperm : ops.Perm ops') :
    r.MadeOf ops' :=
  List.Perm.trans h (hperm.map entry)

/-- The ids of a registry are those of its operators. -/
theorem MadeOf.ids (h : r.MadeOf ops) : r.ids.Perm (ops.map Operator.id) := by
  rw [← map_fst_entry]
  exact h.map Prod.fst

theorem MadeOf.nodup (h : r.MadeOf ops) : (ops.map Operator.id).Nodup :=
  h.ids.nodup_iff.1 r.operators.keys_nodup

/-- Operators in any order make at most one registry. -/
theorem MadeOf.unique (h : r.MadeOf ops) (h' : r'.MadeOf ops) : r = r' := by
  obtain ⟨operators⟩ := r
  obtain ⟨operators'⟩ := r'
  exact congrArg Registry.mk (Keyed.eq_of_perm (List.Perm.trans h h'.symm))

theorem MadeOf.contains_iff (h : r.MadeOf ops) (id : String) :
    r.contains id = true ↔ id ∈ ops.map Operator.id :=
  Keyed.contains_iff_mem_keys.trans h.ids.mem_iff

theorem MadeOf.contains_eq_false_iff (h : r.MadeOf ops) (id : String) :
    r.contains id = false ↔ id ∉ ops.map Operator.id := by
  rw [← Bool.not_eq_true, h.contains_iff]

theorem MadeOf.lookup_eq_ok (h : r.MadeOf ops) (id : String) (op : Operator) :
    r.lookup id = .ok op ↔ op ∈ ops ∧ op.id = id := by
  rw [Registry.lookup_eq_ok, Keyed.get?_eq_some_iff, h.mem_iff, List.mem_map]
  constructor
  · rintro ⟨op', hop, heq⟩
    obtain ⟨rfl, rfl⟩ := Prod.mk.inj heq
    exact ⟨hop, rfl⟩
  · rintro ⟨hop, rfl⟩
    exact ⟨op, hop, rfl⟩

/-- Entries that are put together without a check make a registry if their ids are distinct. -/
theorem madeOf_ofList (h : (ops.map Operator.id).Nodup) :
    (⟨.ofList (ops.map entry)⟩ : Registry).MadeOf ops :=
  Keyed.perm_ofList (by rw [map_fst_entry]; exact h)

/-! ## Registrations -/

/-- **One more operator** is one more entry; its id must be new. -/
theorem outcome_register_eq_ok (h : r.MadeOf ops) {op : Operator} :
    (r.register op).outcome = .ok r' ↔ r'.MadeOf (ops ++ [op]) := by
  rw [register]
  cases hid : r.contains op.id with
  | true =>
    have hmem := (h.contains_iff op.id).1 hid
    refine iff_of_false (fun hok => by cases hok) fun hmade => ?_
    have hnodup := hmade.nodup
    rw [List.map_append, List.nodup_append] at hnodup
    exact hnodup.2.2 _ hmem _ List.mem_cons_self rfl
  | false =>
    have hmade : (⟨r.operators.insert op.id op⟩ : Registry).MadeOf (ops ++ [op]) := by
      refine (Keyed.perm_insert hid op).trans ?_
      rw [List.map_append]
      exact (h.cons _).trans (List.perm_append_singleton _ _).symm
    constructor
    · intro hok
      obtain rfl := Except.ok.inj hok
      exact hmade
    · intro hmade'
      rw [hmade'.unique hmade]
      rfl

theorem outcome_register_eq_error (h : r.MadeOf ops) {op : Operator} {e : ConfigurationError} :
    (r.register op).outcome = .error e ↔
      op.id ∈ ops.map Operator.id ∧ e = .duplicateOperator op.id := by
  rw [register, ← h.contains_iff]
  cases r.contains op.id with
  | true => simp [Traced.fail, eq_comm]
  | false => simp

/-- **Several operators, one after the other**, are so many more entries. -/
theorem outcome_registerAll_eq_ok {earlier : List Operator} (h : r.MadeOf earlier) :
    (r.registerAll ops).outcome = .ok r' ↔ r'.MadeOf (earlier ++ ops) := by
  induction ops generalizing r earlier with
  | nil =>
    rw [List.append_nil]
    constructor
    · intro hok
      obtain rfl := Except.ok.inj hok
      exact h
    · intro h'
      rw [h.unique h']
      rfl
  | cons op ops ih =>
    have hstep : (r.registerAll (op :: ops)).outcome
        = (r.register op).outcome >>= fun r' => (r'.registerAll ops).outcome :=
      Traced.outcome_bind _ _
    rw [hstep, bind_eq_ok, List.append_cons]
    constructor
    · rintro ⟨next, hnext, hrest⟩
      exact (ih ((outcome_register_eq_ok h).1 hnext)).1 hrest
    · intro h'
      -- the operators before this one and this one have ids apart, so this one can be registered
      cases hnext : (r.register op).outcome with
      | ok next => exact ⟨next, rfl, (ih ((outcome_register_eq_ok h).1 hnext)).2 h'⟩
      | error e =>
        have hmem := ((outcome_register_eq_error h).1 hnext).1
        have hnodup := h'.nodup
        rw [List.append_assoc, List.map_append, List.nodup_append] at hnodup
        exact absurd rfl (hnodup.2.2 _ hmem _ List.mem_cons_self)

/-- Operators fail to make a registry at the first one whose id is there already. -/
theorem outcome_registerAll_eq_error {e : ConfigurationError} :
    (empty.registerAll ops).outcome = .error e ↔ ∃ before op after, ops = before ++ op :: after ∧
      (before.map Operator.id).Nodup ∧ op.id ∈ before.map Operator.id ∧
      e = .duplicateOperator op.id := by
  have hmade : ∀ {before : List Operator} {r : Registry},
      (empty.registerAll before).outcome = .ok r ↔ r.MadeOf before :=
    outcome_registerAll_eq_ok madeOf_empty
  have hloop : (empty.registerAll ops).outcome
      = ops.foldlM (fun r op => (r.register op).outcome) empty := Traced.outcome_foldlM _ _ _
  rw [hloop, foldlM_eq_error]
  constructor
  · rintro ⟨before, op, after, r, rfl, hbefore, hop⟩
    rw [← Traced.outcome_foldlM] at hbefore
    have hr := hmade.1 hbefore
    obtain ⟨hmem, he⟩ := (outcome_register_eq_error hr).1 hop
    exact ⟨before, op, after, rfl, hr.nodup, hmem, he⟩
  · rintro ⟨before, op, after, rfl, hnodup, hmem, he⟩
    have hr := madeOf_ofList hnodup
    refine ⟨before, op, after, _, rfl, ?_, (outcome_register_eq_error hr).2 ⟨hmem, he⟩⟩
    rw [← Traced.outcome_foldlM]
    exact hmade.2 hr

/-- There is a registry just if no id occurs twice. -/
theorem exists_registerAll_iff :
    (∃ r, (empty.registerAll ops).outcome = .ok r) ↔ (ops.map Operator.id).Nodup := by
  constructor
  · rintro ⟨r, hr⟩
    exact ((outcome_registerAll_eq_ok madeOf_empty).1 hr).nodup
  · intro h
    exact ⟨_, (outcome_registerAll_eq_ok madeOf_empty).2 (madeOf_ofList h)⟩

/-! ## What readers find -/

/-- Readers find these operators by their ids, and nothing else. -/
structure Holds (r : Registry) (ops : List Operator) : Prop where
  found : ∀ id op, r.lookup id = .ok op ↔ op ∈ ops ∧ op.id = id
  unknown : ∀ id e, r.lookup id = .error e ↔ id ∉ ops.map Operator.id ∧ e = .unknownOperator id
  contains : ∀ id, r.contains id = true ↔ id ∈ ops.map Operator.id
  size : r.size = ops.length
  isEmpty : r.isEmpty = true ↔ ops = []
  ids : r.ids.Perm (ops.map Operator.id)
  ascending : r.ids.Pairwise (· < ·)

/-- **Readers find just the operators that a registry is made of.** -/
theorem MadeOf.holds (h : r.MadeOf ops) : r.Holds ops where
  found := h.lookup_eq_ok
  unknown _ _ := Registry.lookup_eq_error.trans (and_congr_left' (h.contains_eq_false_iff _))
  contains := h.contains_iff
  size := (List.Perm.length_eq h).trans (List.length_map _)
  isEmpty := by
    rw [Registry.isEmpty, Keyed.isEmpty, List.isEmpty_iff, ← List.length_eq_zero_iff,
      List.Perm.length_eq h, List.length_map, List.length_eq_zero_iff]
  ids := h.ids
  ascending := r.operators.ordered.map Prod.fst fun _ _ => id

/-- **Registration is free of order and replaces nothing.**  Operators make a registry just if their
ids are distinct, and the error is otherwise that of the first id that is there already.  The registry
holds just these operators, and any order of them makes the same one.  Additions at any point register
their operators as if one by one, and the registry of the library, which is made without
registrations, finds what the one finds that is made of the operators of the library. -/
theorem registrations_order_free (ops : List Operator) :
    ((∃ r, (empty.registerAll ops).outcome = .ok r) ↔ (ops.map Operator.id).Nodup) ∧
    (∀ e, (empty.registerAll ops).outcome = .error e ↔ ∃ before op after,
      ops = before ++ op :: after ∧ (before.map Operator.id).Nodup ∧
      op.id ∈ before.map Operator.id ∧ e = .duplicateOperator op.id) ∧
    (∀ r, (empty.registerAll ops).outcome = .ok r → r.Holds ops ∧
      ∀ ops', ops'.Perm ops → (empty.registerAll ops').outcome = .ok r) ∧
    (∀ additions, empty.addAll additions
      = empty.registerAll (additions.flatMap Addition.operators)) ∧
    ∃ r, (empty.addAll [.builtins]).outcome = .ok r ∧ ∀ id, builtin.lookup id = r.lookup id := by
  have hmade : ∀ {ops : List Operator} {r : Registry},
      (empty.registerAll ops).outcome = .ok r ↔ r.MadeOf ops :=
    outcome_registerAll_eq_ok madeOf_empty
  refine ⟨exists_registerAll_iff, fun _ => outcome_registerAll_eq_error, fun r hr => ?_,
    addAll_eq_registerAll empty, builtin, ?_, fun _ => rfl⟩
  · have hops := hmade.1 hr
    exact ⟨hops.holds, fun ops' hperm => hmade.2 (hops.perm hperm.symm)⟩
  · rw [addAll_eq_registerAll]
    exact hmade.2 (madeOf_ofList (by decide))

end Registry

end TableQuery
