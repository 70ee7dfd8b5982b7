import TableQuery.Kind
import TableQuery.Proofs.Outcome

/-!
# The shapes of kinds

Every kind has values of its own: texts, integers of sixty-four bits, finite doubles, truth values,
and for the JSON kind all values but `null`.  A column that holds such a value keeps it, and a column
that holds another one and is not refused becomes such a value, or `null`.

* `Kind.IsShaped` — a value in the shape of a kind;
* `Kind.coerce_of_isShaped` — coercion leaves it as it is;
* `Kind.fits_wholeOf?` — what is found as the integer of a number has sixty-four bits;
* `Kind.isShaped_of_coerceInteger` and the like — where the coercion of one kind ends;
* `Kind.coerce_settles` — coercion ends in the shape of the kind, and a second one changes nothing.
-/

namespace TableQuery.Kind

open Outcome

/-- The value has the shape of the kind. -/
inductive IsShaped : Kind → Json → Prop where
  | text (s : String) : IsShaped .text (.text s)
  | integer {i : Int} (h : Json.FitsInt64 i) : IsShaped .integer (.int i)
  | float {x : Float} (h : x.isFinite = true) : IsShaped .float (.real x)
  | boolean (b : Bool) : IsShaped .boolean (.bool b)
  | json {v : Json} (h : v.isNull = false) : IsShaped .json v

variable {kind : Kind} {v w : Json}

/-- No shape has `null` in it. -/
theorem IsShaped.isNull (h : kind.IsShaped v) : v.isNull = false := by
  cases h with
  | json h => exact h
  | _ => rfl

theorem coerce_null (kind : Kind) : kind.coerce .null = .ok .null := rfl

/-- **A value in the shape of the kind stays as it is.** -/
theorem coerce_of_isShaped (h : kind.IsShaped v) : kind.coerce v = .ok v := by
  unfold coerce
  rw [h.isNull, if_neg Bool.false_ne_true]
  cases h with
  | text s => rfl
  | @integer i h =>
    have hwhole : wholeOf? (.int i) = some i := if_pos h
    simp [coerceInteger, hwhole]
  | float h => simp [coerceFloat, Json.ofFloat, h]
  | boolean b => rfl
  | json h => rfl

/-! ## Where coercion ends -/

/-- The integer of a number has sixty-four bits, however the number is written. -/
theorem fits_wholeOf? {z : Int} (h : wholeOf? v = some z) : Json.FitsInt64 z := by
  cases v with
  | int i =>
    rw [wholeOf?] at h
    split at h
    next hfits => exact Option.some.inj h ▸ hfits
    next => cases h
  | real x =>
    -- less than `2 ^ 63` in absolute value is less than what is asked for
    have hless := of_decide_eq_true (Option.filter_eq_some_iff.1 h).2
    rw [show Nat.pow 2 63 = 9223372036854775808 from rfl] at hless
    show -9223372036854775808 ≤ z ∧ z ≤ 9223372036854775807
    omega
  | _ => cases h

theorem fits_toInt (i : Int64) : Json.FitsInt64 i.toInt :=
  ⟨Int64.minValue_le_toInt i, Int64.toInt_le i⟩

theorem isShaped_of_coerceInteger (h : coerceInteger v = .ok w) : IsShaped .integer w := by
  rw [coerceInteger.eq_def] at h
  split at h
  next b =>
    obtain rfl := Except.ok.inj h
    cases b with
    | true => exact .integer (by decide)
    | false => exact .integer (by decide)
  next s =>
    obtain ⟨i, -, rfl⟩ := elim_eq_ok.1 h
    exact .integer (fits_toInt i)
  next =>
    obtain ⟨z, hz, rfl⟩ := elim_eq_ok.1 h
    exact .integer (fits_wholeOf? hz)

/-- A double that JSON does not have has become `null`. -/
theorem ofFloat_settles (x : Float) : Json.ofFloat x = .null ∨ IsShaped .float (.ofFloat x) := by
  rw [Json.ofFloat]
  split
  next h => exact .inr (.float h)
  next => exact .inl rfl

theorem isShaped_of_coerceFloat (h : coerceFloat v = .ok w) : w = .null ∨ IsShaped .float w := by
  cases v with
  | int i =>
    obtain rfl := Except.ok.inj h
    exact ofFloat_settles _
  | real x =>
    obtain rfl := Except.ok.inj h
    exact ofFloat_settles _
  | text s =>
    obtain ⟨x, -, rfl⟩ := elim_eq_ok.1 h
    exact ofFloat_settles _
  | null | bool _ | array _ | object _ => cases h

theorem isShaped_of_coerceBoolean (h : coerceBoolean v = .ok w) : IsShaped .boolean w := by
  rw [coerceBoolean.eq_def] at h
  split at h
  · exact Except.ok.inj h ▸ .boolean _
  · exact Except.ok.inj h ▸ .boolean _
  · exact Except.ok.inj h ▸ .boolean _
  · obtain ⟨b, -, rfl⟩ := elim_eq_ok.1 h
    exact .boolean b
  · cases h

theorem isShaped_of_coerceText (h : coerceText v = .ok w) : IsShaped .text w := by
  cases v with
  | text _ | int _ | real _ | bool _ => exact Except.ok.inj h ▸ .text _
  | null | array _ | object _ => cases h

/-- A value that is there ends in the shape of the kind, unless it becomes a double. -/
theorem isShaped_of_coerce_of_ne (hv : v.isNull = false) (hkind : kind ≠ .float)
    (h : kind.coerce v = .ok w) : kind.IsShaped w := by
  rw [coerce.eq_def, hv, if_neg Bool.false_ne_true] at h
  cases kind with
  | json => exact Except.ok.inj h ▸ .json hv
  | text => exact isShaped_of_coerceText h
  | integer => exact isShaped_of_coerceInteger h
  | boolean => exact isShaped_of_coerceBoolean h
  | float => exact absurd rfl hkind

/-- Coercion ends in the shape of the kind, or with `null`. -/
theorem isShaped_of_coerce (h : kind.coerce v = .ok w) : w = .null ∨ kind.IsShaped w := by
  cases hv : v.isNull with
  | true =>
    rw [coerce.eq_def, hv, if_pos rfl] at h
    exact .inl (Except.ok.inj h).symm
  | false =>
    by_cases hkind : kind = .float
    · subst hkind
      rw [coerce.eq_def, hv, if_neg Bool.false_ne_true] at h
      exact isShaped_of_coerceFloat h
    · exact .inr (isShaped_of_coerce_of_ne hv hkind h)

/-- A column keeps `null` and the values in the shape of its kind, and no others. -/
theorem coerce_eq_self_iff : kind.coerce v = .ok v ↔ v = .null ∨ kind.IsShaped v := by
  constructor
  · exact isShaped_of_coerce
  · rintro (rfl | h)
    · exact coerce_null kind
    · exact coerce_of_isShaped h

theorem coerce_json (v : Json) : Kind.json.coerce v = .ok v := by
  cases v <;> rfl

/-- **Coercion settles a value.**  What a column comes to is `null` or has the shape of its kind; it
stays so when it is coerced once more; and the JSON kind changes nothing at all.  The values that a
column keeps are exactly `null` and those in the shape of its kind. -/
theorem coerce_settles (kind : Kind) :
    (∀ v w, kind.coerce v = .ok w →
      (w = .null ∨ kind.IsShaped w) ∧ kind.coerce w = .ok w ∧ (kind = .json → w = v)) ∧
    ∀ v, kind.coerce v = .ok v ↔ v = .null ∨ kind.IsShaped v := by
  refine ⟨fun v w h => ?_, fun v => coerce_eq_self_iff⟩
  have hshape := isShaped_of_coerce h
  refine ⟨hshape, coerce_eq_self_iff.2 hshape, ?_⟩
  rintro rfl
  rw [coerce_json] at h
  exact (Except.ok.inj h).symm

/-- A text becomes the integer that it writes and then stays it, and a nested value that a column of
the JSON kind holds is kept with the `null` inside it. -/
theorem coerce_settles_nested :
    Kind.integer.coerce (.text " +7 ") = .ok (.int 7) ∧
    Kind.integer.IsShaped (.int 7) ∧ Kind.integer.coerce (.int 7) = .ok (.int 7) ∧
    Kind.json.coerce (.array [.null, .object [("a", .array [])]])
      = .ok (.array [.null, .object [("a", .array [])]]) ∧
    Kind.json.IsShaped (.array [.null, .object [("a", .array [])]]) := by
  have hinteger : Kind.integer.coerce (.text " +7 ") = .ok (.int 7) := rfl
  have hjson : Kind.json.coerce (.array [.null, .object [("a", .array [])]])
      = .ok (.array [.null, .object [("a", .array [])]]) := rfl
  obtain ⟨hshape, hagain, -⟩ := (coerce_settles .integer).1 _ _ hinteger
  obtain ⟨hnested, -, -⟩ := (coerce_settles .json).1 _ _ hjson
  exact ⟨hinteger, hshape.resolve_left nofun, hagain, hjson, hnested.resolve_left nofun⟩

end TableQuery.Kind
