import TableQuery.Proofs.Keyed
import TableQuery.Proofs.Outcome
import TableQuery.Proofs.Statement.Filling

/-!
# The placeholders of a statement

Which values a statement binds, and whether it can be bound at all, is decided by the names of its
placeholders in their order; the text between them does not matter.

* `Lexical.placeholders` — the names of the placeholders of a text;
* `Lexical.names`, `Lexical.placeholders_eq_names` — those that a part of a text completes;
* `Lexical.placeholders_append_inert`, `Lexical.placeholders_append_seam` — those of a text in two
  parts;
* `Dialect.bind_values` — the values of a statement by these names;
* `BindAlike`, `bindAlike_iff` — two statements bind the same values from any parameters just if
  they have the same placeholders.
-/

namespace TableQuery

/-- The name of a placeholder. -/
def Piece.name? : Piece → Option String
  | .char _ => none
  | .placeholder name => some name

theorem Piece.filterMap_name?_char (cs : List Char) :
    (cs.map Piece.char).filterMap Piece.name? = [] := by
  rw [List.filterMap_map]
  exact List.filterMap_eq_nil_iff.2 fun _ _ => rfl

/-! ## Names of a text -/

namespace Lexical

/-- The names of the placeholders that a text completes, read from a state on, when more text may
follow. -/
def names (s : Lexical) (text : List Char) : List String := (emitted s text).filterMap Piece.name?

/-- The names of the placeholders of a text, in their order. -/
def placeholders (text : List Char) : List String := (scan .code text).filterMap Piece.name?

theorem emitted_append (s : Lexical) (xs ys : List Char) :
    emitted s (xs ++ ys) = emitted s xs ++ emitted (after s xs) ys := by
  induction xs generalizing s with
  | nil => rfl
  | cons c xs ih => rw [List.cons_append, emitted, ih, emitted, after_cons, List.append_assoc]

theorem names_append (s : Lexical) (xs ys : List Char) :
    names s (xs ++ ys) = names s xs ++ names (after s xs) ys := by
  rw [names, emitted_append, List.filterMap_append]
  rfl

/-- A text has the placeholders that it completes when a character follows that is no colon and goes
on no name. -/
theorem placeholders_eq_names {c : Char} (h : c ≠ ':') (hp : Identifier.isPart c = false)
    (text : List Char) : placeholders text = names .code (text ++ [c]) := by
  have hlast : emitted (after .code text) [c] = finish (after .code text) ++ [.char c] := by
    rw [emitted, (step_completes h hp).1]
    exact List.append_nil _
  rw [placeholders, scan_eq_emitted, names, emitted_append, hlast, List.filterMap_append,
    List.filterMap_append, List.filterMap_append]
  exact congrArg _ (List.append_nil _).symm

/-- Text without a colon that leaves nothing open brings no placeholder before another text. -/
theorem placeholders_closed_append {xs : List Char} (hcolon : ':' ∉ xs)
    (hclosed : after .code xs = .code) (ys : List Char) :
    placeholders (xs ++ ys) = placeholders ys := by
  rw [placeholders, scan_closed_append hcolon hclosed, List.filterMap_append,
    Piece.filterMap_name?_char]
  rfl

/-- Inert text brings no placeholder behind any text. -/
theorem placeholders_append_inert (xs : List Char) {ys : List Char} (h : IsInert ys) :
    placeholders (xs ++ ys) = placeholders xs := by
  rw [placeholders, scan_append_inert _ _ h, List.filterMap_append, Piece.filterMap_name?_char,
    List.append_nil]
  rfl

/-- At a seam the placeholders of the second text stand behind those of the first. -/
theorem placeholders_append_seam {xs ys : List Char} (hl : isLive (after .code xs) = true)
    (hy : ∀ c ∈ ys.head?, isSeparator c = true) :
    placeholders (xs ++ ys) = placeholders xs ++ placeholders ys := by
  rw [placeholders, scan_append_seam hl hy, List.filterMap_append]
  rfl

end Lexical

/-! ## Values by names -/

/-- The values that names take, in their order; the first name without a value is an error. -/
def valuesOf (p : Parameters) : List String → Except ConfigurationError (List Value)
  | [] => .ok []
  | name :: rest =>
    match p.get? name with
    | none => .error (.unboundParameter name)
    | some v => (valuesOf p rest).map (v.operands ++ ·)

namespace Dialect

theorem fill_values (d : Dialect) (p : Parameters) (n : Nat) (pieces : List Piece) :
    (d.fill p n pieces).map Prod.snd = valuesOf p (pieces.filterMap Piece.name?) := by
  induction pieces generalizing n with
  | nil => rfl
  | cons piece pieces ih =>
    cases piece with
    | char c =>
      rw [fill_char, List.filterMap_cons_none rfl, ← ih n]
      cases d.fill p n pieces <;> rfl
    | placeholder name =>
      rw [List.filterMap_cons_some (show Piece.name? (.placeholder name) = some name from rfl),
        valuesOf]
      cases hname : p.get? name with
      | none => rw [fill_unbound d p hname]; rfl
      | some v =>
        rw [fill_placeholder d p hname]
        simp only [← ih (n + v.operands.length)]
        cases d.fill p (n + v.operands.length) pieces <;> rfl

/-- **The values of a statement** are those of its placeholders. -/
theorem bind_values (d : Dialect) (p : Parameters) (sql : String) :
    (d.bind sql p).map BoundStatement.values = valuesOf p (Lexical.placeholders sql.toList) := by
  rw [bind_eq_map, Lexical.placeholders, ← fill_values d p 0]
  cases d.fill p 0 (Lexical.scan .code sql.toList) <;> rfl

end Dialect

/-! ## Statements that bind alike -/

/-- From all parameters and in all dialects, both statements fail at the same placeholder or both
bind the same values. -/
def BindAlike (sql sql' : String) : Prop :=
  ∀ (d : Dialect) (p : Parameters),
    Agree (fun b b' => b.values = b'.values) (d.bind sql p) (d.bind sql' p)

/-- Each name with its own text as its value. -/
def selfNamed (names : List String) : Parameters :=
  names.foldl (fun p name => p.insert name (.text name)) .empty

theorem get?_foldl_insert {names : List String} {p : Parameters} {name : String}
    (h : name ∈ names ∨ p.get? name = some (.text name)) :
    (names.foldl (fun p name => p.insert name (.text name)) p).get? name = some (.text name) := by
  induction names generalizing p with
  | nil => exact h.resolve_left (by simp)
  | cons first names ih =>
    refine ih ?_
    rw [Keyed.get?_insert]
    by_cases hfirst : name = first
    · exact .inr (by rw [if_pos hfirst, hfirst])
    · rw [if_neg hfirst]
      exact h.imp_left fun hmem => (List.mem_cons.1 hmem).resolve_left hfirst

/-- Under such parameters the values of names spell them. -/
theorem valuesOf_selfNamed {names among : List String} (h : names ⊆ among) :
    valuesOf (selfNamed among) names = .ok (names.map .text) := by
  induction names with
  | nil => rfl
  | cons name names ih =>
    obtain ⟨hname, hnames⟩ := List.cons_subset.1 h
    have hget : (selfNamed among).get? name = some (.text name) := get?_foldl_insert (.inl hname)
    rw [valuesOf, hget]
    simp only [ih hnames]
    rfl

/-- **Statements bind alike** just if they have the same placeholders in the same order. -/
theorem bindAlike_iff {sql sql' : String} :
    BindAlike sql sql' ↔
      Lexical.placeholders sql.toList = Lexical.placeholders sql'.toList := by
  simp only [BindAlike, agree_map_iff, Dialect.bind_values]
  constructor
  · intro h
    have hvalues := h .sqlite (selfNamed (Lexical.placeholders sql.toList
      ++ Lexical.placeholders sql'.toList))
    rw [valuesOf_selfNamed (List.subset_append_left _ _),
      valuesOf_selfNamed (List.subset_append_right _ _)] at hvalues
    exact List.map_injective_iff.2 (fun _ _ => Value.text.inj) (Except.ok.inj hvalues)
  · intro h d p
    rw [h]

end TableQuery
