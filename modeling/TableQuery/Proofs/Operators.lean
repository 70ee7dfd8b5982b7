import TableQuery.Operator
import TableQuery.Proofs.Keyed
import TableQuery.Proofs.Statement.Enclosed
import TableQuery.Proofs.Text.Split

/-!
# The operators of the library

Each operator of the library writes a condition that has the placeholder of its column once, outside
quotes and comments, between texts that bind nothing.

* `Registry.mem_builtins` — what the registry of the library finds is an operator of the library;
* `Operator.Places` — where a fragment has its placeholder;
* `Operator.builtin_places` — every operator of the library places it;
* `Operator.isEnclosed_fragment` — a fragment ends no quote and no comment that is open before it;
* `Operator.Places.scan_fragment` — such a fragment is scanned as one placeholder between
  characters, and `Operator.Places.bind_fragment` that its value is bound there;
* `Operator.Places.replace_fragment` — replacing the placeholder leaves these characters.
-/

namespace TableQuery

/-! ## Operators that are found -/

theorem Registry.lookup_eq_ok {r : Registry} {id : String} {op : Operator} :
    r.lookup id = .ok op ↔ r.operators.get? id = some op := by
  rw [lookup]
  cases r.operators.get? id <;> simp

theorem Registry.exists_lookup {r : Registry} {id : String} :
    (∃ op, r.lookup id = .ok op) ↔ r.contains id = true := by
  rw [lookup, contains, Keyed.contains]
  cases r.operators.get? id <;> simp

theorem Registry.lookup_eq_error {r : Registry} {id : String} {e : ConfigurationError} :
    r.lookup id = .error e ↔ r.contains id = false ∧ e = .unknownOperator id := by
  rw [lookup, contains, Keyed.contains]
  cases r.operators.get? id <;> simp [eq_comm]

theorem Registry.lookup_builtin {id : String} {op : Operator}
    (h : Registry.builtin.lookup id = .ok op) : op ∈ Operator.builtins ∧ op.id = id := by
  have hget := Keyed.mem_of_get?_ofList (lookup_eq_ok.1 h)
  obtain ⟨op', hmem, heq⟩ := List.mem_map.1 hget
  obtain ⟨hid, rfl⟩ := Prod.mk.inj heq
  exact ⟨hmem, hid⟩

/-- What the registry of the library finds under an id is an operator of the library. -/
theorem Registry.mem_builtins {id : String} {op : Operator}
    (h : Registry.builtin.lookup id = .ok op) : op ∈ Operator.builtins := (lookup_builtin h).1

/-! ## Where a fragment has its placeholder -/

open Lexical

namespace Operator

/-- A fragment that has the placeholder of its column once, between two texts that bind nothing.
The first one leaves nothing open or pending; the second one ends the name and leaves nothing
open. -/
structure Places (op : Operator) (column : String) (front back : List Char) : Prop where
  fragment : (op.fragment column).toList = front ++ ':' :: (column.toList ++ back)
  front_colon : ':' ∉ front
  front_closed : after .code front = .code
  back_colon : ':' ∉ back
  back_separator : ∀ c ∈ back.head?, isSeparator c = true
  back_live : isLive (after .code back) = true

theorem places_comparison (id : String) {symbol : String} {column : String}
    (hcolon : ':' ∉ symbol.toList) (hclosed : after .code (' ' :: symbol.toList ++ [' ']) = .code)
    (h : isIdentifier column = true) :
    (comparison id symbol).Places column (column.toList ++ (' ' :: symbol.toList ++ [' '])) [] where
  fragment := by
    simp only [comparison, String.toList_append, List.append_assoc, List.append_nil]
    rfl
  front_colon := by
    have hname := colon_not_mem_identifierText h
    simp only [List.mem_append, List.mem_cons, List.not_mem_nil, or_false]
    rintro (hc | (hc | hc) | hc)
    · exact hname hc
    · exact absurd hc (by decide)
    · exact hcolon hc
    · exact absurd hc (by decide)
  front_closed := by rw [after_append, after_parts (isPart_of_identifierText h), hclosed]
  back_colon := by simp
  back_separator := by simp
  back_live := rfl

theorem places_contains {column : String} (h : isIdentifier column = true) :
    contains.Places column (column.toList ++ " LIKE \x27%\x27 || ".toList)
      " || \x27%\x27".toList where
  fragment := by
    simp only [contains, String.toList_append, List.append_assoc]
    rfl
  front_colon := by
    rw [List.mem_append]
    exact not_or.2 ⟨colon_not_mem_identifierText h, by decide⟩
  front_closed := by
    rw [after_append, after_parts (isPart_of_identifierText h)]
    decide
  back_colon := by decide
  back_separator := forall_mem_head (by decide)
  back_live := by decide

theorem places_oneOf {column : String} (h : isIdentifier column = true) :
    oneOf.Places column (column.toList ++ " IN (".toList) ")".toList where
  fragment := by
    simp only [oneOf, String.toList_append, List.append_assoc]
    rfl
  front_colon := by
    rw [List.mem_append]
    exact not_or.2 ⟨colon_not_mem_identifierText h, by decide⟩
  front_closed := by
    rw [after_append, after_parts (isPart_of_identifierText h)]
    decide
  back_colon := by decide
  back_separator := forall_mem_head (by decide)
  back_live := by decide

/-- **Every operator of the library** has the placeholder of its column once. -/
theorem builtin_places {op : Operator} (h : op ∈ builtins) {column : String}
    (hcolumn : isIdentifier column = true) : ∃ front back, op.Places column front back := by
  simp only [builtins, List.mem_cons, List.not_mem_nil, or_false] at h
  rcases h with rfl | rfl | rfl | rfl | rfl | rfl | rfl
  · exact ⟨_, _, places_comparison _ (by decide) (by decide) hcolumn⟩
  · exact ⟨_, _, places_comparison _ (by decide) (by decide) hcolumn⟩
  · exact ⟨_, _, places_comparison _ (by decide) (by decide) hcolumn⟩
  · exact ⟨_, _, places_comparison _ (by decide) (by decide) hcolumn⟩
  · exact ⟨_, _, places_comparison _ (by decide) (by decide) hcolumn⟩
  · exact ⟨_, _, places_contains hcolumn⟩
  · exact ⟨_, _, places_oneOf hcolumn⟩

/-! ## Fragments behind what is left open -/

theorem isEnclosed_column {column : String} (h : isIdentifier column = true) :
    IsEnclosed column.toList :=
  isEnclosed_of_forall fun c hc => endsOpen_of_isPart (isPart_of_identifierText h c hc)

theorem isEnclosed_comparison (id : String) {symbol column : String}
    (hsymbol : IsEnclosed symbol.toList) (h : isIdentifier column = true) :
    IsEnclosed ((comparison id symbol).fragment column).toList := by
  have hcolumn := isEnclosed_column h
  simp only [comparison, String.toList_append]
  exact (((hcolumn.append (by decide)).append hsymbol).append (by decide)).append hcolumn

/-- **No operator of the library ends what is open before its fragment**: the quotes of a pattern
come in pairs, and the sign between them is read outside of either. -/
theorem isEnclosed_fragment {op : Operator} (h : op ∈ builtins) {column : String}
    (hcolumn : isIdentifier column = true) : IsEnclosed (op.fragment column).toList := by
  have hname := isEnclosed_column hcolumn
  simp only [builtins, List.mem_cons, List.not_mem_nil, or_false] at h
  rcases h with rfl | rfl | rfl | rfl | rfl | rfl | rfl
  · exact isEnclosed_comparison _ (by decide) hcolumn
  · exact isEnclosed_comparison _ (by decide) hcolumn
  · exact isEnclosed_comparison _ (by decide) hcolumn
  · exact isEnclosed_comparison _ (by decide) hcolumn
  · exact isEnclosed_comparison _ (by decide) hcolumn
  · simp only [contains, String.toList_append]
    exact ((hname.append (by decide)).append hname).append (by decide)
  · simp only [oneOf, String.toList_append]
    exact ((hname.append (by decide)).append hname).append (by decide)

end Operator

/-! ## Fragments as they are bound -/

namespace Operator.Places

variable {op : Operator} {column : String} {front back : List Char}

/-- **A placed fragment is one placeholder between characters.** -/
theorem scan_fragment (h : op.Places column front back) (hcolumn : isIdentifier column = true) :
    scan .code (op.fragment column).toList
      = front.map .char ++ .placeholder column :: back.map .char := by
  have hback : ∀ c ∈ back.head?, Identifier.isPart c = false :=
    fun c hc => not_isPart_of_separator (h.back_separator c hc)
  rw [h.fragment, scan_closed_append h.front_colon h.front_closed, scan_placeholder hcolumn hback,
    scan_of_not_pending rfl h.back_colon, String.ofList_toList]

/-- A placed fragment is bound to the value of its column. -/
theorem bind_fragment (h : op.Places column front back) (hcolumn : isIdentifier column = true)
    (d : Dialect) {p : Parameters} {v : Value} (hv : p.get? column = some v) :
    d.bind (op.fragment column) p = .ok
      ⟨String.ofList (front ++ ((d.slots 0 v.operands.length).toList ++ back)), v.operands⟩ := by
  rw [Dialect.bind_eq_map, h.scan_fragment hcolumn, Dialect.fill_chars_append,
    Dialect.fill_placeholder d p hv, Dialect.fill_chars]
  simp [Except.map]

/-- A placed fragment leaves nothing open. -/
theorem live_fragment (h : op.Places column front back) (hcolumn : isIdentifier column = true) :
    isLive (after .code (op.fragment column).toList) = true := by
  have hname : isLive (after .code (front ++ ':' :: column.toList)) = true := by
    rw [after_append, h.front_closed, after_placeholder hcolumn]
    rfl
  have htext : (op.fragment column).toList = (front ++ ':' :: column.toList) ++ back := by
    rw [h.fragment, List.append_assoc, List.cons_append]
  rw [htext, live_append_seam hname h.back_separator]
  exact h.back_live

/-- With another text in place of its placeholder, a placed fragment keeps the two texts around
it. -/
theorem replace_fragment (h : op.Places column front back) (slots : List Char) :
    Text.replaceFirst (':' :: column.toList) slots (op.fragment column).toList
      = front ++ slots ++ back := by
  rw [h.fragment, Text.replaceFirst_of_not_mem h.front_colon]

end Operator.Places

end TableQuery
