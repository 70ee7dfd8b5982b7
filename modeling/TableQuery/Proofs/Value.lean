import Mathlib.Data.List.Forall2
import TableQuery.Proofs.Kind.Shapes
import TableQuery.Value

/-!
# Values and their JSON forms

The JSON form of a value does not say of what kind the value is.  A reader tries the kinds one after
the other and takes the first that fits.  That this gives back the value rests on two things: an
integer comes before a double, and a double is never written as an integer.

* `Value.induction`, `Json.induction` — induction through the items of lists;
* `Value.readers` — what each kind takes, in the order in which the kinds are tried;
* `Value.IsFinite`, `Json.IsPlain`, `Json.HasObject` — what has a JSON form, what is the JSON form
  of a value, and what is the form of none;
* `Value.json_inverse` — writing and reading are inverse to each other, exactly there.
-/

namespace TableQuery

/-! ## Induction -/

/-- Induction on a value, through the items of its lists. -/
@[elab_as_elim]
theorem Value.induction {P : Value → Prop} (null : P .null) (boolean : ∀ b, P (.boolean b))
    (integer : ∀ i, P (.integer i)) (real : ∀ x, P (.real x)) (text : ∀ s, P (.text s))
    (list : ∀ items, (∀ v ∈ items, P v) → P (.list items)) : ∀ v, P v
  | .null => null
  | .boolean b => boolean b
  | .integer i => integer i
  | .real x => real x
  | .text s => text s
  | .list items => list items fun v _ => induction null boolean integer real text list v

/-- Induction on a JSON value, through the items of its arrays. -/
@[elab_as_elim]
theorem Json.induction {P : Json → Prop} (null : P .null) (bool : ∀ b, P (.bool b))
    (int : ∀ i, P (.int i)) (real : ∀ x, P (.real x)) (text : ∀ s, P (.text s))
    (array : ∀ items, (∀ v ∈ items, P v) → P (.array items))
    (object : ∀ fields, P (.object fields)) : ∀ v, P v
  | .null => null
  | .bool b => bool b
  | .int i => int i
  | .real x => real x
  | .text s => text s
  | .array items => array items fun v _ => induction null bool int real text array object v
  | .object fields => object fields

/-! ## What has a JSON form, and what is one -/

/-- No double in the value is an infinity or no number. -/
inductive Value.IsFinite : Value → Prop where
  | null : IsFinite .null
  | boolean (b : Bool) : IsFinite (.boolean b)
  | integer (i : Int64) : IsFinite (.integer i)
  | real {x : Float} (h : x.isFinite = true) : IsFinite (.real x)
  | text (s : String) : IsFinite (.text s)
  | list {items : List Value} (h : ∀ v ∈ items, IsFinite v) : IsFinite (.list items)

/-- The JSON value is made of `null`, truth values, integers of sixty-four bits, finite doubles,
strings and arrays. -/
inductive Json.IsPlain : Json → Prop where
  | null : IsPlain .null
  | bool (b : Bool) : IsPlain (.bool b)
  | int {i : Int} (h : FitsInt64 i) : IsPlain (.int i)
  | real {x : Float} (h : x.isFinite = true) : IsPlain (.real x)
  | text (s : String) : IsPlain (.text s)
  | array {items : List Json} (h : ∀ v ∈ items, IsPlain v) : IsPlain (.array items)

/-- The JSON value is an object, or there is one among its items. -/
inductive Json.HasObject : Json → Prop where
  | object (fields : List (String × Json)) : HasObject (.object fields)
  | array {items : List Json} {v : Json} (hv : v ∈ items) (h : HasObject v) :
      HasObject (.array items)

namespace Value

/-! ## The readers of the kinds -/

/-- The absent value is `null`. -/
def readNull? : Json → Option Value
  | .null => some .null
  | _ => none

def readBoolean? : Json → Option Value
  | .bool b => some (.boolean b)
  | _ => none

/-- An integer takes the integers of sixty-four bits. -/
def readInteger? : Json → Option Value
  | .int i => if Json.FitsInt64 i then some (.integer (Int64.ofInt i)) else none
  | _ => none

/-- A double takes every number. -/
def readReal? : Json → Option Value
  | .int i => some (.real (Float.ofInt i))
  | .real x => some (.real x)
  | _ => none

def readText? : Json → Option Value
  | .text s => some (.text s)
  | _ => none

/-- A list takes an array whose items are all read. -/
def readList? : Json → Option Value
  | .array items => (items.mapM ofJson?).map .list
  | _ => none

/-- The readers of the kinds, in the order in which they are tried. -/
def readers : List (Json → Option Value) :=
  [readNull?, readBoolean?, readInteger?, readReal?, readText?, readList?]

theorem ofJsonItems?_eq_mapM (items : List Json) : ofJsonItems? items = items.mapM ofJson? := by
  induction items with
  | nil => rfl
  | cons v items ih =>
    rw [ofJsonItems?, List.mapM_cons, ih]
    cases ofJson? v <;> cases items.mapM ofJson? <;> rfl

/-- **The first reader that fits decides.** -/
theorem ofJson?_eq_findSome? (v : Json) : ofJson? v = readers.findSome? fun read => read v := by
  cases v with
  | int i =>
    rw [ofJson?]
    simp only [readers, List.findSome?, readNull?, readBoolean?, readInteger?, readReal?]
    split <;> rfl
  | array items =>
    rw [ofJson?, ofJsonItems?_eq_mapM]
    simp only [readers, List.findSome?, readNull?, readBoolean?, readInteger?, readReal?, readText?,
      readList?]
    cases items.mapM ofJson? <;> rfl
  | _ => rfl

/-! ## Lists of values -/

theorem toJsonItems_eq_map (items : List Value) : toJsonItems items = items.map toJson := by
  induction items with
  | nil => rfl
  | cons v items ih => rw [toJsonItems, ih, List.map_cons]

/-- Several JSON values are read one by one. -/
theorem ofJsonItems?_eq_some_iff {items : List Json} {vs : List Value} :
    ofJsonItems? items = some vs ↔ List.Forall₂ (fun v w => ofJson? v = some w) items vs := by
  induction items generalizing vs with
  | nil => rw [ofJsonItems?, List.forall₂_nil_left_iff, Option.some.injEq, eq_comm]
  | cons v items ih =>
    rw [ofJsonItems?, List.forall₂_cons_left_iff]
    simp only [← ih]
    cases ofJson? v <;> cases ofJsonItems? items <;> simp [eq_comm]

theorem ofJsonItems?_eq_none_iff {items : List Json} :
    ofJsonItems? items = none ↔ ∃ v ∈ items, ofJson? v = none := by
  induction items with
  | nil => simp [ofJsonItems?]
  | cons v items ih =>
    rw [ofJsonItems?, List.exists_mem_cons_iff, ← ih]
    cases ofJson? v <;> cases ofJsonItems? items <;> simp

/-! ## Writing and reading -/

/-- Several JSON values are written as they were just if each of them is. -/
theorem map_toJsonItems_ofJsonItems?_iff {items : List Json} :
    (ofJsonItems? items).map toJsonItems = some items ↔
      ∀ v ∈ items, (ofJson? v).map toJson = some v := by
  induction items with
  | nil => simp [ofJsonItems?, toJsonItems]
  | cons v items ih =>
    rw [ofJsonItems?, List.forall_mem_cons, ← ih]
    cases ofJson? v <;> cases ofJsonItems? items <;> simp [toJsonItems]

theorem ofInt_toInt_of_fits {i : Int} (h : Json.FitsInt64 i) : (Int64.ofInt i).toInt = i :=
  Int64.toInt_ofInt_of_le h.1 (Int.lt_of_le_of_lt h.2 (by decide))

/-- **What is written is read back**, of the same kind, if all its doubles have a JSON form; a double
that has none is read as `null`. -/
theorem ofJson?_toJson_iff (v : Value) : ofJson? v.toJson = some v ↔ v.IsFinite := by
  induction v using Value.induction with
  | null => exact iff_of_true rfl .null
  | boolean b => exact iff_of_true rfl (.boolean b)
  | integer i =>
    refine iff_of_true ?_ (.integer i)
    rw [toJson, Json.ofInt64, ofJson?, if_pos (Kind.fits_toInt i), Int64.ofInt_toInt]
  | real x =>
    rw [toJson, Json.ofFloat]
    split
    next h => exact iff_of_true rfl (.real h)
    next hx =>
      refine iff_of_false (fun h => ?_) (fun h => ?_)
      · cases h
      · cases h with
        | real h => exact hx h
  | text s => exact iff_of_true rfl (.text s)
  | list items ih =>
    have hitems : (Value.list items).IsFinite ↔ ∀ v ∈ items, v.IsFinite :=
      ⟨fun h => by cases h with | list h => exact h, .list⟩
    have hsame : List.Forall₂ (fun v w => ofJson? v.toJson = some w) items items ↔
        ∀ v ∈ items, ofJson? v.toJson = some v := List.forall₂_same
    have hread : ofJsonItems? (toJsonItems items) = some items ↔
        ∀ v ∈ items, ofJson? v.toJson = some v := by
      rw [toJsonItems_eq_map, ofJsonItems?_eq_some_iff, List.forall₂_map_left_iff, hsame]
    rw [toJson, ofJson?, hitems, ← forall₂_congr ih, ← hread]
    cases ofJsonItems? (toJsonItems items) <;> simp

/-- **What is read is written as it was**, if it is the JSON form of a value. -/
theorem map_toJson_ofJson?_iff (v : Json) : (ofJson? v).map toJson = some v ↔ v.IsPlain := by
  induction v using Json.induction with
  | null => exact iff_of_true rfl .null
  | bool b => exact iff_of_true rfl (.bool b)
  | int i =>
    rw [ofJson?]
    split
    next h =>
      refine iff_of_true ?_ (.int h)
      rw [Option.map_some, toJson, Json.ofInt64, ofInt_toInt_of_fits h]
    next hfits =>
      refine iff_of_false (fun h => ?_) (fun h => ?_)
      · -- a double is written as a double, or as nothing
        rw [Option.map_some, toJson, Json.ofFloat, Option.some.injEq] at h
        split at h <;> cases h
      · cases h with
        | int h => exact hfits h
  | real x =>
    rw [ofJson?, Option.map_some, toJson, Json.ofFloat]
    split
    next h => exact iff_of_true rfl (.real h)
    next hx =>
      refine iff_of_false (fun h => ?_) (fun h => ?_)
      · cases h
      · cases h with
        | real h => exact hx h
  | text s => exact iff_of_true rfl (.text s)
  | array items ih =>
    have hitems : (Json.array items).IsPlain ↔ ∀ v ∈ items, v.IsPlain :=
      ⟨fun h => by cases h with | array h => exact h, .array⟩
    rw [hitems, ← forall₂_congr ih, ← map_toJsonItems_ofJsonItems?_iff, ofJson?, Option.map_map]
    cases ofJsonItems? items <;> simp [toJson]
  | object fields =>
    refine iff_of_false (fun h => ?_) (fun h => ?_) <;> cases h

/-- **Refused is what has an object in it**, and nothing else. -/
theorem ofJson?_eq_none_iff (v : Json) : ofJson? v = none ↔ v.HasObject := by
  induction v using Json.induction with
  | int i =>
    rw [ofJson?]
    refine iff_of_false (fun h => ?_) (fun h => ?_)
    · split at h <;> cases h
    · cases h
  | array items ih =>
    have hitems : (Json.array items).HasObject ↔ ∃ v ∈ items, v.HasObject :=
      ⟨fun h => by cases h with | array hv h => exact ⟨_, hv, h⟩, fun ⟨_, hv, h⟩ => .array hv h⟩
    rw [ofJson?, Option.map_eq_none_iff, ofJsonItems?_eq_none_iff, hitems]
    exact exists_congr fun v => and_congr_right (ih v)
  | object fields => exact iff_of_true rfl (.object fields)
  | _ => refine iff_of_false (fun h => ?_) (fun h => ?_) <;> cases h

/-- **Values and their JSON forms are inverse to each other.**  A JSON value is read by the first
kind that fits.  What is written is read back as the same value of the same kind just if all doubles
in it are finite, at any depth; what is read is written as it was just if it is made of `null`, truth
values, integers of sixty-four bits, finite doubles, strings and arrays; and refused is just what has
an object anywhere in it. -/
theorem json_inverse :
    (∀ v : Json, ofJson? v = readers.findSome? fun read => read v) ∧
    (∀ v : Value, ofJson? v.toJson = some v ↔ v.IsFinite) ∧
    (∀ v : Json, (ofJson? v).map toJson = some v ↔ v.IsPlain) ∧
    ∀ v : Json, ofJson? v = none ↔ v.HasObject :=
  ⟨ofJson?_eq_findSome?, ofJson?_toJson_iff, map_toJson_ofJson?_iff, ofJson?_eq_none_iff⟩

/-- A double that is a whole number is not read as an integer. -/
example : ofJson? (toJson (.list [.real 1, .integer 1])) = some (.list [.real 1, .integer 1]) := rfl

end Value

end TableQuery
