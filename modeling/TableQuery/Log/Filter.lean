import TableQuery.Decimal.Reading
import TableQuery.Event
import TableQuery.Log.Line
import TableQuery.Text.Alphanumeric
import TableQuery.Text.Blank
import TableQuery.Text.Pattern

/-!
# Log filters

A filter says which events a log shows.  It is a list of directives with commas between them: a
level, or the start of the name of an origin, or such a start with a level for it; between brackets
behind the start may stand the name of a span, or a field, or both.

A directive with neither a span nor the value of a field is general.  Of the general ones that care
about an event, the one with the longest start decides, of those the one with a field, and of
several with the same start and field the last one.  An event that no directive cares about is not
shown.  A directive with a span or a field admits events inside the spans that it cares about,
besides those that the general ones admit.

* `Directive`, `LogFilter` — the filters;
* `LogFilter.read?` — a filter read;
* `LogFilter.showsSpan` — the log knows the span of an execution;
* `LogFilter.admits` — the decision about an event.
-/

namespace TableQuery

/-! ## Filters -/

/-- What the value of a field must be. -/
inductive FieldValue where
  /-- A number or a truth value. -/
  | single
  /-- A text of this form. -/
  | text (form : Text.Pattern)
  deriving DecidableEq, Repr

/-- A field that must be there, and have a value perhaps. -/
structure FieldFilter where
  /-- The name of the field. -/
  name : String
  /-- What its value must be. -/
  value : Option FieldValue
  deriving DecidableEq, Repr

/-- What a filter says about some events. -/
structure Directive where
  /-- The start of the names of origins; without one the directive cares about all of them. -/
  start : Option String := none
  /-- The name of a span. -/
  span : Option String := none
  field : Option FieldFilter := none
  /-- How much is shown: the greatest rank of a level. -/
  rank : Nat := Level.trace.rank
  deriving DecidableEq, Repr

/-- A filter: its directives in order. -/
structure LogFilter where
  directives : List Directive
  deriving DecidableEq, Repr

/-! ## Reading directives -/

namespace Directive

/-- The rank of the most detailed level. -/
def allLevels : Nat := Level.trace.rank

/-- The rank that a word names: a level in any letter case, `off`, or a number up to five. -/
def rankOf? (word : String) : Option Nat :=
  match Decimal.readNat allLevels word with
  | some n => some n
  | none =>
    match Text.lower word with
    | "error" => some Level.error.rank
    | "warn" => some Level.warn.rank
    | "info" => some Level.info.rank
    | "debug" => some Level.debug.rank
    | "trace" => some Level.trace.rank
    | "off" => some 0
    | _ => none

/-- The rank of the level behind an equals sign; without one all levels are meant. -/
def levelOf? (word : String) : Option Nat := if word = "" then some allLevels else rankOf? word

/-- What the value of a field must be, as it is written. -/
def valueOf? (text : String) : Option FieldValue :=
  if text = "true" ∨ text = "false" ∨ (Decimal.readFloat text).isSome then some .single
  else (Text.Pattern.read? text).map .text

/-- A field as it is written. -/
def fieldOf? (text : String) : Option FieldFilter :=
  if text = "" then none
  else match Text.splitAll '=' text with
    | name :: value :: _ => (valueOf? value).map fun v => ⟨name, some v⟩
    | _ => some ⟨text, none⟩

/-- How far a directive has been read; a number is the place where a part starts. -/
inductive Stage where
  /-- Nothing is read. -/
  | nothing
  /-- A word that is a level or the start of a name. -/
  | word
  /-- The name of a span. -/
  | span (start : Nat)
  | field (start : Nat)
  /-- The field is closed. -/
  | closed
  /-- The bracket is closed. -/
  | bracketed
  | level (start : Nat)
  deriving DecidableEq, Repr

/-- A character that a directive may start with, besides a bracket. -/
def isStart (c : Char) : Bool := c == '-' || c == ':' || c == '_' || Text.isLetterOrNumber c

/-- The part of a text between two places, which are counted in bytes. -/
def part? (text : String) (start stop : Nat) : Option String :=
  String.fromUTF8? (text.toUTF8.extract start stop)

/-- Reads one character, which is at a place; parts are taken from the text. -/
def readChar? (text : String) (d : Directive) (stage : Stage) (at_ : Nat) (c : Char) :
    Option (Directive × Stage) :=
  match stage, c with
  | .nothing, '[' => some (d, .span (at_ + 1))
  | .nothing, c => if isStart c then some (d, .word) else none
  | .word, '=' => (part? text 0 at_).map fun s => ({ d with start := some s }, .level (at_ + 1))
  | .word, '[' => (part? text 0 at_).map fun s => ({ d with start := some s }, .span (at_ + 1))
  | .span start, ']' => (part? text start at_).map fun s => ({ d with span := some s }, .bracketed)
  | .span start, '\x7b' => (part? text start at_).map fun s =>
    ({ d with span := if s = "" then none else some s }, .field (at_ + 1))
  | .field start, '\x7d' =>
    ((part? text start at_).bind fieldOf?).map fun f => ({ d with field := some f }, .closed)
  | .closed, ']' => some (d, .bracketed)
  | .bracketed, '=' => some (d, .level (at_ + 1))
  | .closed, _ | .bracketed, _ => none
  | stage, _ => some (d, stage)

/-- Reads characters, of which the first one is at a place. -/
def readChars? (text : String) (d : Directive) (stage : Stage) :
    Nat → List Char → Option (Directive × Stage)
  | _, [] => some (d, stage)
  | at_, c :: rest => (readChar? text d stage at_ c).bind fun (d, stage) =>
    readChars? text d stage (at_ + c.utf8Size) rest

/-- A directive.  A word that names no level is the start of a name.  Places are counted without the
blanks in front, but parts are taken from the whole text: so a blank in front moves every part. -/
def read? (text : String) : Option Directive := do
  let (d, stage) ← readChars? text {} .nothing 0 (Text.trimChars text.toList)
  match stage with
  | .word =>
    match rankOf? text with
    | some rank => some { d with rank }
    | none => some { d with start := some text }
  | .level start =>
    let rank ← (part? text start text.utf8ByteSize).bind levelOf?
    some { d with rank }
  | .bracketed => some d
  | _ => none

/-! ## What a directive cares about -/

/-- The directive asks for the value of a field. -/
def hasValue (d : Directive) : Bool := d.field.any fun f => f.value.isSome

/-- The directive is general. -/
def isGeneral (d : Directive) : Bool := d.span.isNone && !d.hasValue

/-- The directive is about spans. -/
def isAboutSpans (d : Directive) : Bool := d.span.isSome || d.field.isSome

/-- The name of an origin has the start. -/
def hasOrigin (origin : Origin) (d : Directive) : Bool :=
  d.start.all fun start => Text.startsWith start origin.name

/-- The directive cares about an event. -/
def caresAboutEvent (e : Event) (d : Directive) : Bool :=
  d.hasOrigin e.origin &&
    d.field.all fun f => ("message" :: e.fields.map Prod.fst).contains f.name

/-- The directive cares about the span of an execution. -/
def caresAboutSpan (d : Directive) : Bool :=
  d.hasOrigin .executor && d.span.all (· == Event.spanName) &&
    d.field.all fun f => f.name == Event.spanField

/-- The directive cares about the span of an execution for this target type. -/
def caresAboutType (typeName : String) (d : Directive) : Bool :=
  d.caresAboutSpan && (d.field.bind FieldFilter.value).all fun
    | .single => false
    | .text form => form.fits typeName

/-- The second directive speaks about no more events than the first one. -/
def isAsSpecial (a b : Directive) : Bool :=
  let size (d : Directive) : Nat := d.start.elim 0 fun s => s.utf8ByteSize + 1
  if size a ≠ size b then size a < size b
  else match a.field, b.field with
    | none, _ => true
    | some _, none => false
    | some f, some g => f.name ≤ g.name

/-- The directives speak about the same events. -/
def sameAs (a b : Directive) : Bool := { a with rank := 0 } == { b with rank := 0 }

end Directive

/-! ## Filters -/

namespace LogFilter

/-- A filter; empty parts between commas do not count. -/
def read? (text : String) : Option LogFilter :=
  (((Text.splitAll ',' text).filter (· ≠ "")).mapM Directive.read?).map LogFilter.mk

/-- The greatest rank that any directive admits; all ranks where the value of a field counts. -/
def ceiling (f : LogFilter) : Nat :=
  if f.directives.any Directive.hasValue then Directive.allLevels
  else (f.directives.map Directive.rank).foldl max 0

/-- The rank that the most special of some directives admits. -/
def decisiveRank (ds : List Directive) : Nat :=
  (ds.foldl (fun (best : Option Directive) d =>
    match best with
    | some b => if b.isAsSpecial d then some d else some b
    | none => some d) none).elim 0 Directive.rank

/-- The general directives. -/
def general (f : LogFilter) : List Directive := f.directives.filter Directive.isGeneral

/-- The directives about spans; a later one replaces an earlier one about the same events. -/
def aboutSpans (f : LogFilter) : List Directive :=
  (f.directives.filter Directive.isAboutSpans).foldl (fun ds d =>
    ds.filter (fun other => !d.sameAs other) ++ [d]) []

/-- The log knows the span of an execution. -/
def showsSpan (f : LogFilter) : Bool :=
  let rank := Level.debug.rank
  rank ≤ f.ceiling && (f.aboutSpans.any Directive.caresAboutSpan ||
    rank ≤ decisiveRank (f.general.filter fun d => d.hasOrigin .executor))

/-- The greatest rank that is shown inside the span of an execution for this target type. -/
def rankInside (f : LogFilter) (typeName : String) : Nat :=
  if f.showsSpan then
    ((f.aboutSpans.filter (Directive.caresAboutType typeName)).map Directive.rank).foldl max 0
  else 0

/-- The event is shown. -/
def admits (f : LogFilter) (e : Event) : Bool :=
  let rank := e.level.rank
  rank ≤ decisiveRank (f.general.filter (Directive.caresAboutEvent e)) ||
    e.span.any fun typeName => rank ≤ f.rankInside typeName

end LogFilter

end TableQuery
