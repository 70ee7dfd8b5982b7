import TableQuery.Catalogue
import TableQuery.Descriptor

/-!
# Request parameters

A request is a list of keys and values, such as the query string of a web address.  Four keys are
reserved: `page` and `size` are numbers, `sort` is a property with a direction, and `filter` is a
property with an operator.  Every other key that names a property gives a value to compare with;
several values of one property are joined by commas.  Keys that name nothing are ignored.

* `Request.Draft` — what the pairs so far ask for;
* `Request.readPair` — one pair;
* `Request.readFilter` — the filter of a property that has a value;
* `Descriptor.ofRequest` — the description that a request asks for.
-/

namespace TableQuery

namespace Request

/-! ## Keys -/

/-- The key of the page number. -/
def pageKey : String := "page"

/-- The key of the page size. -/
def sizeKey : String := "size"

/-- The key of an order. -/
def sortKey : String := "sort"

/-- The key of an operator. -/
def filterKey : String := "filter"

/-- The operator of a property for which the request names none. -/
def defaultOperator : String := "equals"

/-- The operator that compares with several values. -/
def listOperator : String := "in"

/-! ## Values of the reserved keys -/

/-- A natural number of sixty-four bits between blanks. -/
def readCount (key raw : String) : Except RequestError UInt64 :=
  match Decimal.readNat (UInt64.size - 1) (Text.trim raw) with
  | some n => .ok n.toUInt64
  | none => .error (.notACount key raw)

/-- The property of an order, and its direction; a blank text asks for no order. -/
def readSort (t : Table) (raw : String) : Except RequestError (Option (Property × Direction)) := do
  let raw := Text.trim raw
  if raw = "" then .ok none
  else
    let (name, direction) ← match Text.split? ',' raw with
      | none => .ok (raw, .ascending)
      | some (name, direction) =>
        match Direction.read? direction with
        | some d => .ok (Text.trim name, d)
        | none => .error (.unknownDirection (Text.trim direction))
    match t.property? name with
    | some p => .ok (some (p, direction))
    | none => .error (.unknownOrder name)

/-- The property of an operator, and the operator. -/
def readOperator (t : Table) (raw : String) : Except RequestError (Property × String) :=
  match Text.split? ',' raw with
  | none => .error (.notAPair raw)
  | some (name, operation) =>
    if Text.trim operation = "" then .error (.noOperator raw)
    else match t.property? (Text.trim name) with
      | some p => .ok (p, Text.trim operation)
      | none => .error (.unknownFilter (Text.trim name))

/-! ## Pairs -/

/-- What the pairs so far ask for. -/
structure Draft where
  /-- The page, the size and the orders. -/
  descriptor : Descriptor
  /-- The operator of each property that has one. -/
  operators : List (String × String)
  /-- The joined values of each property that has one, in the order of their first values. -/
  values : List (String × String)

/-- The value of a key from now on; a new key stands last. -/
def assign (key value : String) : List (String × String) → List (String × String)
  | [] => [(key, value)]
  | (k, v) :: rest => if k = key then (k, value) :: rest else (k, v) :: assign key value rest

/-- One more value of a key, after a comma; a new key stands last. -/
def append (key value : String) : List (String × String) → List (String × String)
  | [] => [(key, value)]
  | (k, v) :: rest =>
    if k = key then (k, v ++ "," ++ value) :: rest else (k, v) :: append key value rest

/-- The event of a key that names nothing. -/
def unknownKey (key : String) : Event where
  level := .trace
  origin := .params
  message := "Ignoring unknown query parameter"
  fields := [("param", .quoted key)]
  span := none

/-- Reads one pair. -/
def readPair (t : Table) (d : Draft) (pair : String × String) :
    Traced Event RequestError Draft := do
  let (key, raw) := pair
  if key = pageKey then
    let n ← .ofExcept (readCount key raw)
    pure { d with descriptor := d.descriptor.withPage n }
  else if key = sizeKey then
    let n ← .ofExcept (readCount key raw)
    pure { d with descriptor := d.descriptor.withSize n }
  else if key = sortKey then
    match ← .ofExcept (readSort t raw) with
    | none => pure d
    | some (p, direction) =>
      pure { d with descriptor := d.descriptor.withOrder p.column direction }
  else if key = filterKey then
    let (p, operation) ← .ofExcept (readOperator t raw)
    pure { d with operators := assign p.name operation d.operators }
  else match t.property? key with
    | some p => pure { d with values := append p.name raw d.values }
    | none => do
      .emit (unknownKey key)
      pure d

/-! ## Filters -/

/-- The value of a property that a text writes. -/
def readValue (p : Property) (raw : String) : Except RequestError Value :=
  match p.kind.read raw with
  | .ok v => .ok v
  | .error e => .error (.unreadable p.name e)

/-- The values of a property that stand between commas, without the blank ones. -/
def readItems (p : Property) (raw : String) : Except RequestError (List Value) :=
  ((Text.splitAll ',' raw).filter fun part => !Text.isBlankText part).mapM (readValue p)

/-- The value of a filter with this operator. -/
def readOperand (p : Property) (operation raw : String) : Except RequestError Value :=
  if operation = listOperator then (readItems p raw).map .list else readValue p raw

/-- The event of a property whose value is blank. -/
def blankValue (name : String) : Event where
  level := .debug
  origin := .params
  message := "Ignoring filter with empty value"
  fields := [("property", .plain name)]
  span := none

/-- The event of an operator without a value. -/
def noValue (name : String) : Event where
  level := .debug
  origin := .params
  message := "Ignoring filter declared without a value"
  fields := [("property", .plain name)]
  span := none

/-- Adds the filter of a property that has a value; a blank value makes no filter. -/
def readFilter (t : Table) (operators : List (String × String)) (d : Descriptor)
    (entry : String × String) : Traced Event RequestError Descriptor :=
  let (name, raw) := entry
  match t.property? name with
  | none => pure d
  | some p => do
    let operation := (operators.lookup name).getD defaultOperator
    if Text.isBlankText raw then
      .emit (blankValue name)
      pure d
    else
      let v ← .ofExcept (readOperand p operation raw)
      pure (d.withFilter ⟨p.name, p.column, operation, v⟩)

/-- The properties that have an operator and no value. -/
def withoutValue (d : Draft) : List String :=
  (d.operators.map Prod.fst).filter fun name => (d.values.lookup name).isNone

/-- Reads all pairs with respect to a table. -/
def readAll (t : Table) (pairs : List (String × String)) :
    Traced Event RequestError Descriptor := do
  let draft ← pairs.foldlM (readPair t) ⟨.empty, [], []⟩
  let d ← draft.values.foldlM (readFilter t draft.operators) draft.descriptor
  (withoutValue draft).forM fun name => .emit (noValue name)
  pure d

end Request

/-- The description that the parameters of a request ask for. -/
def Descriptor.ofRequest (c : Catalogue) (type : TargetType) (pairs : List (String × String)) :
    Traced Event Error Descriptor := do
  let t ← (Traced.ofExcept (c.table type)).mapError Error.configuration
  (Request.readAll t pairs).mapError Error.request

end TableQuery
