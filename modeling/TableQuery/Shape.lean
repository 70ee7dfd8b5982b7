import TableQuery.Shape.Refusal

/-!
# Shapes of target types

A `Shape` describes the JSON values of a type.  Reading a value by a shape gives the value in full,
with absent fields at their defaults and unknown fields left out, or the first refusal.

A record is read from an object, whose entries are taken in the order of their names, or from an
array of its fields in the order of declaration.  A choice is read from the name of a variant, or
from an object whose only field is a variant without content.

* `Shape` — the shapes;
* `Shape.read` — a value read by a shape.
-/

namespace TableQuery

/-- The JSON values of a type. -/
inductive Shape where
  /-- All values. -/
  | any
  /-- The integers between two bounds, under the name of their type. -/
  | integer (name : String) (low high : Int)
  /-- The doubles; an integer is read as one. -/
  | double
  /-- The strings. -/
  | text
  /-- The truth values. -/
  | truth
  /-- The arrays of values of one shape. -/
  | list (item : Shape)
  /-- A shape and `null`; an absent field is `null`. -/
  | optional (item : Shape)
  /-- The names of some variants. -/
  | choice (variants : List String)
  /-- The objects with these fields: name, default and shape.  A closed record has no others. -/
  | record (name : String) (closed : Bool) (fields : List (String × Option Json × Shape))
  /-- The arrays with these items. -/
  | tuple (name : String) (items : List Shape)

namespace Shape

/-- A value read, or refused. -/
abbrev Reader := Json → Except Refusal Json

/-- A field with its reader and with what stands for it when it is absent from an object, and when
it is absent from an array. -/
structure FieldReader where
  /-- The name of the field. -/
  name : String
  /-- What stands for it in an object. -/
  inObject : Option Json
  /-- What stands for it in an array. -/
  inArray : Option Json
  /-- Reads its value. -/
  read : Reader

/-! ## Single values -/

/-- The refusal of a value of another type. -/
def wrong (found : Json) (wanted : String) : Except Refusal Json :=
  .error (ShapeError.wrongType found wanted).here

/-- Reads an integer between two bounds. -/
def readInteger (name : String) (low high : Int) : Reader
  | .int i =>
    if low ≤ i ∧ i ≤ high then .ok (.int i) else .error (ShapeError.outOfRange i name).here
  | v => wrong v name

/-- Reads a double. -/
def readDouble : Reader
  | .int i => .ok (.real (Float.ofInt i))
  | .real x => .ok (.real x)
  | v => wrong v "f64"

/-- Reads a string. -/
def readText : Reader
  | .text s => .ok (.text s)
  | v => wrong v "a string"

/-- Reads a truth value. -/
def readTruth : Reader
  | .bool b => .ok (.bool b)
  | v => wrong v "a boolean"

/-- Reads the name of a variant, with nothing or `null` as its content. -/
def readChoice (variants : List String) : Reader
  | .text s =>
    if variants.contains s then .ok (.text s)
    else .error (ShapeError.unknownVariant s variants).here
  | .object [(name, content)] =>
    if !variants.contains name then .error (ShapeError.unknownVariant name variants).here
    else if content.isNull then .ok (.text name)
    else .error ((ShapeError.wrongType content "unit").here.under (.field name))
  | .object _ => .error ShapeError.notSingle.here
  | v => wrong v "string or map"

/-! ## Arrays -/

/-- Reads the items of an array, the first of which has this number. -/
def readItems (read : Reader) : Nat → List Json → Except Refusal (List Json)
  | _, [] => .ok []
  | index, v :: rest =>
    match read v with
    | .error r => .error (r.under (.item index))
    | .ok w => (readItems read (index + 1) rest).map (w :: ·)

/-- Reads fields from the items of an array, the first of which has this number.  `missing` is the
refusal of an array that ends before a field. -/
def readPositions (missing : Nat → Refusal) :
    Nat → List FieldReader → List Json → Except Refusal (List (String × Json))
  | _, [], _ => .ok []
  | index, f :: fields, [] =>
    match f.inArray with
    | none => .error (missing index)
    | some v => (readPositions missing (index + 1) fields []).map ((f.name, v) :: ·)
  | index, f :: fields, v :: rest =>
    match f.read v with
    | .error r => .error (r.under (.item index))
    | .ok w => (readPositions missing (index + 1) fields rest).map ((f.name, w) :: ·)

/-! ## Records -/

/-- Reads the entries of an object in their order. -/
def readEntries (closed : Bool) (fields : List FieldReader) :
    List (String × Json) → Except Refusal (List (String × Json))
  | [] => .ok []
  | (name, v) :: rest =>
    match fields.find? fun f => f.name == name with
    | none =>
      if closed then
        .error ((ShapeError.unknownField name (fields.map (·.name))).here.under (.field name))
      else readEntries closed fields rest
    | some f =>
      match f.read v with
      | .error r => .error (r.under (.field name))
      | .ok w => (readEntries closed fields rest).map ((name, w) :: ·)

/-- Adds what stands for the fields that are absent, in the order of declaration. -/
def fillAbsent (present : List (String × Json)) :
    List FieldReader → Except Refusal (List (String × Json))
  | [] => .ok present
  | f :: fields =>
    if (present.lookup f.name).isSome then fillAbsent present fields
    else match f.inObject with
      | none => .error (ShapeError.missingField f.name).here
      | some v => (fillAbsent present fields).map ((f.name, v) :: ·)

/-- Reads a record from an object or from an array. -/
def readRecord (name : String) (closed : Bool) (fields : List FieldReader) : Reader
  | .object entries => do
    let present ← readEntries closed fields entries
    .ok (.ofFields (← fillAbsent present fields))
  | .array items => do
    let missing index := (ShapeError.tooShort index ("struct " ++ name) fields.length).here
    let read ← readPositions missing 0 fields items
    if fields.length < items.length then .error (ShapeError.tooLong items.length).here
    else .ok (.ofFields read)
  | v => wrong v ("struct " ++ name)

/-- Reads a tuple from an array. -/
def readTuple (name : String) (items : List FieldReader) : Reader
  | .array values => do
    let missing index := (ShapeError.tooShort index ("tuple struct " ++ name) items.length).here
    let read ← readPositions missing 0 items values
    if items.length < values.length then .error (ShapeError.tooLong values.length).here
    else .ok (.array (read.map Prod.snd))
  | v => wrong v ("tuple struct " ++ name)

/-! ## All shapes -/

/-- What stands for an absent field of a shape without a default. -/
def absent : Shape → Option Json
  | .optional _ => some .null
  | _ => none

mutual

/-- Reads a value by a shape. -/
def read : Shape → Reader
  | .any => .ok
  | .integer name low high => readInteger name low high
  | .double => readDouble
  | .text => readText
  | .truth => readTruth
  | .list item => fun v => match v with
    | .array items => (readItems (read item) 0 items).map .array
    | v => wrong v "a sequence"
  | .optional item => fun v => if v.isNull then .ok .null else read item v
  | .choice variants => readChoice variants
  | .record name closed fields => readRecord name closed (fieldReaders fields)
  | .tuple name items => readTuple name (itemReaders items)

/-- The readers of the fields of a record. -/
def fieldReaders : List (String × Option Json × Shape) → List FieldReader
  | [] => []
  | (name, preset, shape) :: rest =>
    ⟨name, preset.or shape.absent, preset, read shape⟩ :: fieldReaders rest

/-- The readers of the items of a tuple. -/
def itemReaders : List Shape → List FieldReader
  | [] => []
  | shape :: rest => ⟨"", none, none, read shape⟩ :: itemReaders rest

end

end Shape

end TableQuery
