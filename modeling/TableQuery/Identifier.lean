import TableQuery.Error

/-!
# Identifiers

Names of columns, aliases and order keys stand in statements as they are, so they must be
identifiers: an ASCII letter or an underscore, then ASCII letters, digits and underscores.  The
scanner of statements reads the names of placeholders by the same two classes of characters.
-/

namespace TableQuery

namespace Identifier

/-- A character that an identifier may start with. -/
def isStart (c : Char) : Bool := c.isAlpha || c == '_'

/-- A character that an identifier may go on with. -/
def isPart (c : Char) : Bool := c.isAlphanum || c == '_'

/-- What starts an identifier also goes on with one. -/
theorem isPart_of_isStart {c : Char} (h : isStart c = true) : isPart c = true := by
  simp only [isStart, isPart, Char.isAlphanum, Bool.or_eq_true] at h ⊢
  exact h.imp_left .inl

end Identifier

/-- The characters of an identifier. -/
def isIdentifierText : List Char → Bool
  | [] => false
  | c :: rest => Identifier.isStart c && rest.all Identifier.isPart

/-- A string that is an identifier. -/
def isIdentifier (s : String) : Bool := isIdentifierText s.toList

/-- Refuses all strings but identifiers. -/
def checkIdentifier (s : String) : Except ConfigurationError Unit :=
  if isIdentifier s then .ok () else .error (.invalidIdentifier s)

theorem checkIdentifier_eq_ok {s : String} :
    checkIdentifier s = .ok () ↔ isIdentifier s = true := by
  rw [checkIdentifier]
  cases isIdentifier s <;> simp

theorem checkIdentifier_eq_error {s : String} {e : ConfigurationError} :
    checkIdentifier s = .error e ↔ isIdentifier s = false ∧ e = .invalidIdentifier s := by
  rw [checkIdentifier]
  cases isIdentifier s <;> simp [eq_comm]

end TableQuery
