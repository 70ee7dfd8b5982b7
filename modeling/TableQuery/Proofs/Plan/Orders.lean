import TableQuery.Proofs.Request.Meaning

/-!
# The order keys of a description

A description is given its orders one after the other: by itself, by a request, or by both.  A key
that it has already keeps its place and takes the new direction.  So the description is ordered by
each key once, the keys stand in the order in which they were first given, and each has the direction
that it was last given.

* `Descriptor.Ordered` — a description, and the orders that it was given;
* `Descriptor.ordersOf` — each key once, at its first place and with its last direction;
* `Descriptor.placeOrder_ordersOf` — one more order, and from it `Descriptor.Ordered.orders_eq`;
* `Plan.exists_core_without_orders` — what the orders add to a plan;
* `Descriptor.order_keys_once` — the order keys of a description and of its plans.
-/

namespace TableQuery

open Outcome Request

namespace Descriptor

/-! ## Orders that are given -/

/-- A description, and the orders that it was given, the first one first.  A request gives an order
for each text of its orders that is not blank. -/
inductive Ordered : Descriptor → List (String × Direction) → Prop where
  | empty : Ordered .empty []
  | page {d given} (n : UInt64) (h : Ordered d given) : Ordered (d.withPage n) given
  | size {d given} (n : UInt64) (h : Ordered d given) : Ordered (d.withSize n) given
  | filter {d given} (f : PropertyFilter) (h : Ordered d given) : Ordered (d.withFilter f) given
  | order {d given} (key : String) (direction : Direction) (h : Ordered d given) :
      Ordered (d.withOrder key direction) (given ++ [(key, direction)])
  | request {c type t pairs d given} (ht : c.table type = .ok t)
      (hd : (ofRequest c type pairs).outcome = .ok d)
      (hgiven : List.Forall₂ (AsksOrder t)
        ((texts "sort" pairs).filter fun raw => !Text.isBlankText raw) given) : Ordered d given

/-- The direction that a key was last given. -/
def lastDirection (given : List (String × Direction)) (key : String) : Direction :=
  (given.reverse.lookup key).getD .ascending

/-- Each key once, at the place where it was first given and with the direction that it was last
given. -/
def ordersOf (given : List (String × Direction)) : List (String × Direction) :=
  (given.map Prod.fst).eraseDups.map fun key => (key, lastDirection given key)

variable {d : Descriptor} {given : List (String × Direction)}

theorem map_fst_ordersOf (given : List (String × Direction)) :
    (ordersOf given).map Prod.fst = (given.map Prod.fst).eraseDups := by
  rw [ordersOf, List.map_map]
  exact List.map_id _

theorem lastDirection_concat (given : List (String × Direction)) (o : String × Direction)
    (key : String) :
    lastDirection (given ++ [o]) key = if key = o.1 then o.2 else lastDirection given key := by
  rw [lastDirection, List.reverse_concat, Keyed.lookup_cons_eq_ite]
  split <;> rfl

/-- Where orders are given, their clause has each key once. -/
theorem orderText_ordersOf (h : given ≠ []) :
    orderText (ordersOf given) = " ORDER BY " ++ ", ".intercalate
      ((given.map Prod.fst).eraseDups.map fun key =>
        key ++ " " ++ (lastDirection given key).keyword) := by
  obtain ⟨o, rest, rfl⟩ := List.exists_cons_of_ne_nil h
  rw [orderText, ordersOf, List.map_cons, List.eraseDups_cons, List.map_cons, List.isEmpty_cons,
    if_neg Bool.false_ne_true, List.map_cons, List.map_map, List.map_cons]
  rfl

/-- A key that was given has a last direction. -/
theorem lookup_reverse_eq_some_iff {key : String} {direction : Direction} :
    given.reverse.lookup key = some direction ↔
      key ∈ given.map Prod.fst ∧ lastDirection given key = direction := by
  induction given using List.reverseRecOn with
  | nil => simp
  | append_singleton given o ih =>
    rw [List.reverse_concat, Keyed.lookup_cons_eq_ite, lastDirection_concat, List.map_append,
      List.mem_append, List.map_singleton, List.mem_singleton]
    by_cases hkey : key = o.1
    · simp [hkey]
    · simp [hkey, ih]

/-! ## One more order -/

/-- One more order, where every key has a direction already. -/
theorem placeOrder_map (key : String) (direction : Direction) (f : String → Direction)
    {keys : List String} (h : keys.Nodup) :
    placeOrder key direction (keys.map fun k => (k, f k))
      = (addKey key keys).map fun k => (k, if k = key then direction else f k) := by
  induction keys with
  | nil => simp [placeOrder, addKey]
  | cons k keys ih =>
    obtain ⟨hk, hkeys⟩ := List.nodup_cons.1 h
    rw [List.map_cons, placeOrder, addKey_cons]
    by_cases hkey : k = key
    · -- the key stands here and at no later place
      subst hkey
      rw [if_pos rfl, if_pos rfl, List.map_cons, if_pos rfl]
      refine congrArg _ (List.map_congr_left fun name hname => ?_)
      rw [if_neg fun heq : name = k => hk (heq ▸ hname)]
    · rw [if_neg hkey, if_neg hkey, List.map_cons, if_neg hkey, ih hkeys]

/-- **One more order**: a key that is new stands last, and any other one stays where it is; in both
cases it takes the direction. -/
theorem placeOrder_ordersOf (given : List (String × Direction)) (key : String)
    (direction : Direction) :
    placeOrder key direction (ordersOf given) = ordersOf (given ++ [(key, direction)]) := by
  rw [ordersOf, placeOrder_map _ _ _ (nodup_eraseDups _), ordersOf, List.map_append,
    List.map_singleton, eraseDups_concat]
  refine List.map_congr_left fun k _ => ?_
  rw [lastDirection_concat]

/-- All orders of a list, one after the other. -/
theorem orders_foldl_withOrder (given : List (String × Direction)) :
    (given.foldl (fun d o => d.withOrder o.1 o.2) Descriptor.empty).orders = ordersOf given := by
  induction given using List.reverseRecOn with
  | nil => rfl
  | append_singleton given o ih =>
    rw [List.foldl_concat]
    show placeOrder o.1 o.2 _ = _
    rw [ih, placeOrder_ordersOf]

/-- **A description is ordered by what it was given**: each key once, at its first place and with its
last direction. -/
theorem Ordered.orders_eq (h : d.Ordered given) : d.orders = ordersOf given := by
  induction h with
  | empty => rfl
  | page n _ ih => exact ih
  | size n _ ih => exact ih
  | filter f _ ih => exact ih
  | @order d given key direction _ ih =>
    show placeOrder key direction d.orders = _
    rw [ih, placeOrder_ordersOf]
  | request ht hd hgiven =>
    obtain ⟨t', ht', hdescribes⟩ := ofRequest_eq_ok_iff.1 hd
    obtain rfl := Except.ok.inj (ht.symm.trans ht')
    obtain ⟨asked, hasked, horders⟩ := hdescribes.orders
    obtain rfl := rightUnique_asksOrder.forall₂ hasked hgiven
    rw [horders, orders_foldl_withOrder]

end Descriptor

/-! ## What orders add to a plan -/

namespace Plan

/-- **The orders add one clause** behind the conditions, and nothing else. -/
theorem exists_core_without_orders {r : Registry} {d : Descriptor} {base : String}
    {extra : Parameters} {draft : Draft} (h : core r d base extra = .ok draft) :
    ∃ front, core r { d with orders := [] } base extra = .ok ⟨front, draft.parameters⟩ ∧
      draft.text = front ++ orderText d.orders ∧ ∀ o ∈ d.orders, isIdentifier o.1 = true := by
  obtain ⟨filtered, hfiltered, h⟩ := bind_eq_ok.1 h
  obtain ⟨full, hfull, h⟩ := bind_eq_ok.1 h
  obtain ⟨_, horders, h⟩ := bind_eq_ok.1 h
  obtain rfl := Except.ok.inj h
  refine ⟨full.text, ?_, rfl, fun o ho => checkIdentifier_eq_ok.1 (forM_eq_ok.1 horders o ho)⟩
  refine bind_eq_ok.2 ⟨filtered, hfiltered, bind_eq_ok.2 ⟨full, hfull, ?_⟩⟩
  show Except.ok { full with text := full.text ++ "" } = _
  rw [String.append_empty]

end Plan

namespace Descriptor

variable {d : Descriptor} {given : List (String × Direction)}

/-- **The order keys of a description are unique.**  The keys are those that were given, each of them
once and in the order in which they were first given, and each has the direction that it was last
given.  A key that was given before changes neither the number nor the order of the keys.  In a plan
the orders are one clause behind a text that they have no part in, with each key once. -/
theorem order_keys_once (h : d.Ordered given) :
    d.orders.map Prod.fst = (given.map Prod.fst).eraseDups ∧
    (d.orders.map Prod.fst).Nodup ∧
    (∀ key, key ∈ d.orders.map Prod.fst ↔ key ∈ given.map Prod.fst) ∧
    (∀ key direction, (key, direction) ∈ d.orders ↔
      given.reverse.lookup key = some direction) ∧
    (∀ key direction, key ∈ given.map Prod.fst →
      (d.withOrder key direction).orders.map Prod.fst = d.orders.map Prod.fst ∧
      (d.withOrder key direction).orders.length = d.orders.length) ∧
    ∀ r cap base extra plan, Plan.build r cap d base extra = .ok plan → ∃ front,
      Plan.core r { d with orders := [] } base extra = .ok ⟨front, plan.parameters⟩ ∧
      plan.data = front ++ orderText d.orders ++ windowText (d.windowCapped cap) ∧
      plan.count = countText (front ++ orderText d.orders) ∧
      (∀ key ∈ given.map Prod.fst, isIdentifier key = true) ∧
      (given ≠ [] → orderText d.orders = " ORDER BY " ++ ", ".intercalate
        ((given.map Prod.fst).eraseDups.map fun key =>
          key ++ " " ++ (lastDirection given key).keyword)) := by
  have horders := h.orders_eq
  have hkeys : d.orders.map Prod.fst = (given.map Prod.fst).eraseDups := by
    rw [horders, map_fst_ordersOf]
  have hmem : ∀ key, key ∈ d.orders.map Prod.fst ↔ key ∈ given.map Prod.fst := by
    intro key
    rw [hkeys, List.mem_eraseDups]
  refine ⟨hkeys, hkeys ▸ nodup_eraseDups _, hmem, fun key direction => ?_,
    fun key direction hkey => ?_, fun r cap base extra plan hplan => ?_⟩
  · rw [horders, lookup_reverse_eq_some_iff, ordersOf, List.mem_map]
    simp only [List.mem_eraseDups, Prod.mk.injEq]
    constructor
    · rintro ⟨_, hgiven, rfl, hlast⟩
      exact ⟨hgiven, hlast⟩
    · rintro ⟨hgiven, hlast⟩
      exact ⟨key, hgiven, rfl, hlast⟩
  · have hsame : (d.withOrder key direction).orders.map Prod.fst = d.orders.map Prod.fst := by
      show (placeOrder key direction d.orders).map Prod.fst = _
      rw [map_fst_placeOrder, addKey, if_pos ((hmem key).2 hkey)]
    exact ⟨hsame, by simpa using congrArg List.length hsame⟩
  · obtain ⟨draft, hdraft, rfl⟩ := Plan.build_eq_ok hplan
    obtain ⟨front, hfront, htext, hidentifiers⟩ := Plan.exists_core_without_orders hdraft
    refine ⟨front, hfront, ?_, ?_, fun key hkey => ?_, fun hgiven => ?_⟩
    · rw [← htext]
      rfl
    · rw [← htext]
      rfl
    · obtain ⟨o, ho, rfl⟩ := List.mem_map.1 ((hmem key).2 hkey)
      exact hidentifiers o ho
    · rw [horders, orderText_ordersOf hgiven]

/-- A request gives a key twice and leaves an order blank, and two more orders are given behind it. -/
theorem order_keys_once_behind_request :
    ∃ (c : Catalogue) (t : Table) (d e : Descriptor) (given : List (String × Direction)),
      c.table "Person" = .ok t ∧
      (ofRequest c "Person"
        [("sort", "age,desc"), ("sort", " "), ("sort", "name"), ("sort", "age")]).outcome = .ok d ∧
      e = (d.withOrder "note" .descending).withOrder "full_name" .descending ∧ e.Ordered given ∧
      given = [("age", .descending), ("full_name", .ascending), ("age", .ascending),
        ("note", .descending), ("full_name", .descending)] ∧
      e.orders.map Prod.fst = ["age", "full_name", "note"] ∧
      ("age", .ascending) ∈ e.orders ∧ ("full_name", .descending) ∈ e.orders ∧
      (e.withOrder "age" .descending).orders.length = e.orders.length ∧
      ∃ plan, Plan.build .builtin none e "SELECT 1" .empty = .ok plan ∧ ∃ front,
        plan.data = front ++ " ORDER BY age ASC, full_name DESC, note DESC" := by
  let t : Table := ⟨"Person", none, [⟨"name", "full_name", .text⟩, ⟨"age", "age", .integer⟩]⟩
  let c : Catalogue := Catalogue.empty.insert "Person" t
  let d : Descriptor := { orders := [("age", .ascending), ("full_name", .ascending)] }
  let e : Descriptor := (d.withOrder "note" .descending).withOrder "full_name" .descending
  have ht : c.table "Person" = .ok t := rfl
  have hd : (ofRequest c "Person"
      [("sort", "age,desc"), ("sort", " "), ("sort", "name"), ("sort", "age")]).outcome = .ok d :=
    rfl
  have hgiven : List.Forall₂ (AsksOrder t) ["age,desc", "name", "age"]
      [("age", .descending), ("full_name", .ascending), ("age", .ascending)] :=
    .cons (@AsksOrder.directed t "age,desc" "age" "desc" ⟨"age", "age", .integer⟩ .descending
        rfl (.descending rfl) rfl)
      (.cons (@AsksOrder.plain t "name" ⟨"name", "full_name", .text⟩ rfl rfl)
        (.cons (@AsksOrder.plain t "age" ⟨"age", "age", .integer⟩ rfl rfl) .nil))
  have he : e.Ordered [("age", .descending), ("full_name", .ascending), ("age", .ascending),
      ("note", .descending), ("full_name", .descending)] :=
    ((Ordered.request ht hd hgiven).order "note" .descending).order "full_name" .descending
  obtain ⟨hkeys, -, -, hlast, hagain, hplans⟩ := order_keys_once he
  have hplan : Plan.build .builtin none e "SELECT 1" .empty = .ok _ := rfl
  obtain ⟨front, -, hdata, -, -, hclause⟩ := hplans _ _ _ _ _ hplan
  refine ⟨c, t, d, e, _, ht, hd, rfl, he, rfl, hkeys.trans (by decide), (hlast _ _).2 rfl,
    (hlast _ _).2 rfl, (hagain _ _ List.mem_cons_self).2, _, hplan, front, ?_⟩
  rw [hdata, hclause (List.cons_ne_nil _ _), String.append_assoc]
  rfl

end Descriptor

end TableQuery
