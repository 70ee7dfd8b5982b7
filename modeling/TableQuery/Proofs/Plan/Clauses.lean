import TableQuery.Plan
import TableQuery.Proofs.Outcome
import TableQuery.Proofs.Statement.Enclosed
import TableQuery.Proofs.Text.Split

/-!
# Clauses that bind nothing

A plan puts texts of its own around the base query and behind the conditions.  None of them has a
placeholder, and each begins with a blank or a bracket, so a statement is bound as it would be
without them.

* `isClausePart` — the characters of clauses;
* `isInert_windowText`, `isInert_orderText` — the limit and the order;
* `isInert_clauses`, `isEnclosed_clauses` — both together, behind what is live and behind what is not;
* `Plan.ofCore` — a plan is its core with clauses;
* `bind_windowed`, `bind_countText` — the statement of a page and the statement that counts.
-/

namespace TableQuery

open Lexical

/-! ## Characters of clauses -/

/-- A character of words and numbers, or one of those that stand between them. -/
def isClausePart (c : Char) : Bool := Identifier.isPart c || c == ' ' || c == ','

theorem isClausePart_toString (n : Nat) : ∀ c ∈ (toString n).toList, isClausePart c = true := by
  intro c hc
  rw [Nat.toString_eq_repr, Nat.toList_repr] at hc
  have hdigit : c.isDigit = true := Nat.isDigit_of_mem_toDigits (by decide) (by decide) hc
  simp [isClausePart, Identifier.isPart, Char.isAlphanum, hdigit]

theorem isClausePart_windowText (w : Option Window) :
    ∀ c ∈ (windowText w).toList, isClausePart c = true := by
  cases w with
  | none => exact nofun
  | some w =>
    simp only [windowText, String.toList_append, List.forall_mem_append]
    exact ⟨⟨⟨List.all_eq_true.1 rfl, isClausePart_toString _⟩, List.all_eq_true.1 rfl⟩,
      isClausePart_toString _⟩

theorem isClausePart_keyword (direction : Direction) :
    ∀ c ∈ direction.keyword.toList, isClausePart c = true := by
  cases direction <;> exact List.all_eq_true.1 rfl

theorem isClausePart_orderText {orders : List (String × Direction)}
    (h : ∀ o ∈ orders, isIdentifier o.1 = true) :
    ∀ c ∈ (orderText orders).toList, isClausePart c = true := by
  rw [orderText]
  split
  · exact nofun
  · have hkeys : ∀ key ∈ orders.map fun o => o.1 ++ " " ++ o.2.keyword,
        ∀ c ∈ key.toList, isClausePart c = true := by
      intro key hkey
      obtain ⟨o, ho, rfl⟩ := List.mem_map.1 hkey
      have hcolumn : ∀ c ∈ o.1.toList, isClausePart c = true := by
        intro c hc
        rw [isClausePart, isPart_of_identifierText (h o ho) c hc]
        rfl
      simp only [String.toList_append, List.forall_mem_append]
      exact ⟨⟨hcolumn, List.all_eq_true.1 rfl⟩, isClausePart_keyword o.2⟩
    rw [String.toList_append, List.forall_mem_append]
    exact ⟨List.all_eq_true.1 rfl, Text.forall_mem_intercalate (List.all_eq_true.1 rfl) hkeys⟩

/-! ## Texts without a placeholder -/

theorem isInert_of_clausePart {xs : List Char} (h : ∀ c ∈ xs, isClausePart c = true)
    (hhead : ∀ c ∈ xs.head?, c = ' ') : IsInert xs where
  no_colon := fun hc => absurd (h _ hc) (by decide)
  no_part := by
    intro c hc
    rw [hhead c hc]
    decide

/-- The limit and the offset are inert. -/
theorem isInert_windowText (w : Option Window) : IsInert (windowText w).toList := by
  refine isInert_of_clausePart (isClausePart_windowText w) ?_
  cases w with
  | none => exact nofun
  | some w =>
    simp only [windowText, String.toList_append, List.append_assoc]
    exact forall_mem_head rfl

/-- The order is inert if its keys are identifiers. -/
theorem isInert_orderText {orders : List (String × Direction)}
    (h : ∀ o ∈ orders, isIdentifier o.1 = true) : IsInert (orderText orders).toList := by
  refine isInert_of_clausePart (isClausePart_orderText h) ?_
  rw [orderText]
  split
  · exact nofun
  · rw [String.toList_append]
    exact forall_mem_head rfl

/-- Nothing that is left open before clauses ends in them. -/
theorem isEnclosed_of_clausePart {xs : List Char} (h : ∀ c ∈ xs, isClausePart c = true) :
    IsEnclosed xs := by
  refine isEnclosed_of_forall fun c hc => ?_
  have hpart := h c hc
  simp only [isClausePart, Bool.or_eq_true, beq_iff_eq] at hpart
  rcases hpart with (hpart | rfl) | rfl
  · exact endsOpen_of_isPart hpart
  · decide
  · decide

section

variable {orders : List (String × Direction)} (h : ∀ o ∈ orders, isIdentifier o.1 = true)

include h

/-- What a plan puts behind its conditions is inert. -/
theorem isInert_clauses (w : Option Window) :
    IsInert (orderText orders ++ windowText w).toList := by
  rw [String.toList_append]
  exact (isInert_orderText h).append (isInert_windowText w)

/-- What a plan puts behind its conditions ends nothing that is left open before it. -/
theorem isEnclosed_clauses (w : Option Window) :
    IsEnclosed (orderText orders ++ windowText w).toList := by
  refine isEnclosed_of_clausePart ?_
  rw [String.toList_append, List.forall_mem_append]
  exact ⟨isClausePart_orderText h, isClausePart_windowText w⟩

end

/-! ## A core with its clauses -/

namespace Plan

/-- A core with the clauses of a plan. -/
def ofCore (core : Draft) (window : Option Window) : Plan where
  data := core.text ++ windowText window
  count := countText core.text
  parameters := core.parameters

theorem build_eq_map (r : Registry) (cap : Option UInt64) (d : Descriptor) (base : String)
    (extra : Parameters) :
    build r cap d base extra = (core r d base extra).map fun c => ofCore c (d.windowCapped cap) := by
  rw [build]
  cases core r d base extra <;> rfl

theorem build_eq_ok {r : Registry} {cap : Option UInt64} {d : Descriptor} {base : String}
    {extra : Parameters} {plan : Plan} (h : build r cap d base extra = .ok plan) :
    ∃ c, core r d base extra = .ok c ∧ plan = ofCore c (d.windowCapped cap) := by
  rw [build_eq_map] at h
  obtain ⟨c, hc, rfl⟩ := Outcome.map_eq_ok.1 h
  exact ⟨c, hc, rfl⟩

end Plan

/-! ## Statements with clauses -/

section

variable (dialect : Dialect) (p : Parameters)

/-- The limit of a statement stays behind it, whatever the statement leaves open. -/
theorem bind_windowed (core : String) (w : Option Window) :
    dialect.bind (core ++ windowText w) p
      = (dialect.bind core p).map fun b => ⟨b.sql ++ windowText w, b.values⟩ := by
  have h := dialect.bind_framed p "" core (windowText w) (by decide) rfl (isInert_windowText w)
  simpa using h

/-- A count binds what the statement binds that it counts, whatever that statement leaves open. -/
theorem bind_countText (core : String) :
    dialect.bind (countText core) p
      = (dialect.bind core p).map fun b => ⟨countText b.sql, b.values⟩ := by
  have hback : IsInert (") AS c").toList := ⟨by decide, forall_mem_head (by decide)⟩
  exact dialect.bind_framed p _ core _ (by decide) (by decide) hback

end

end TableQuery
