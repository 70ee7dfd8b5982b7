import TableQuery.Settings.Basic
import TableQuery.Settings.Tree

/-!
# From trees to settings

The sections are read in the order of their names, and so are the settings inside a section.  An
unknown key is ignored, an absent one takes its default, and a value of another type or out of
range is an error: the first one found is reported with its path.  A section may also be a list of
its settings in the order of their declaration.

* `SettingsError` — what is wrong, and where;
* `Settings.ofTree` — the settings of a tree.
-/

namespace TableQuery

/-! ## Errors -/

/-- What is wrong with a setting. -/
inductive SettingsCause where
  /-- It has another type. -/
  | wrongType (found : Tree) (wanted : String)
  /-- It is an integer out of range. -/
  | outOfRange (found : Tree) (wanted : String)
  deriving BEq

/-- The wording of a cause. -/
def SettingsCause.message : SettingsCause → String
  | .wrongType found wanted => "invalid type: found " ++ found.described ++ ", expected " ++ wanted
  | .outOfRange found wanted => "invalid value " ++ found.described ++ ", expected " ++ wanted

/-- Why there are no settings. -/
inductive SettingsError where
  /-- A file is no TOML document. -/
  | malformedFile
  /-- Something is wrong at a path. -/
  | wrongSetting (path : List String) (cause : SettingsCause)
  deriving BEq

namespace Settings

/-- A setting that is read, or the path below it and the cause. -/
abbrev Reader (α : Type) := Tree → Except (List String × SettingsCause) α

/-! ## Single settings -/

/-- The refusal of a value of another type. -/
def wrong {α : Type} (found : Tree) (wanted : String) : Except (List String × SettingsCause) α :=
  .error ([], .wrongType found wanted)

/-- A natural number up to a bound, under the name of its type. -/
def readNatural (name : String) (high : Nat) : Reader Nat
  | .signed i =>
    if 0 ≤ i ∧ i ≤ high then .ok i.toNat else .error ([], .outOfRange (.signed i) name)
  | .unsigned n => if n ≤ high then .ok n else .error ([], .outOfRange (.unsigned n) name)
  | t => wrong t name

/-- A natural number of sixty-four bits. -/
def readWord : Reader UInt64 := fun t =>
  (readNatural "u64" (UInt64.size - 1) t).map Nat.toUInt64

/-- A natural number of thirty-two bits. -/
def readHalfWord : Reader UInt32 := fun t =>
  (readNatural "u32" (UInt32.size - 1) t).map Nat.toUInt32

/-- A truth value. -/
def readTruth : Reader Bool
  | .truth b => .ok b
  | t => wrong t "a boolean"

/-- A text. -/
def readText : Reader String
  | .text s => .ok s
  | t => wrong t "a string"

/-- The path of a directory. -/
def readPath : Reader String
  | .text s => .ok s
  | t => wrong t "path string"

/-! ## Sections -/

/-- How the value of a key changes a section. -/
abbrev Key (σ : Type) := String × (σ → Reader σ)

/-- A key whose value is read and put into the section. -/
def key {σ α : Type} (name : String) (read : Reader α) (put : σ → α → σ) : Key σ :=
  (name, fun s t => (read t).map (put s))

/-- Reads the fields of a table in their order. -/
def readFields {σ : Type} (keys : List (Key σ)) (s : σ) (fields : List (String × Tree)) :
    Except (List String × SettingsCause) σ :=
  fields.foldlM (fun s (name, t) =>
    match keys.lookup name with
    | none => .ok s
    | some change => (change s t).mapError fun (path, cause) => (name :: path, cause)) s

/-- Reads the items of a list as the values of the keys in their order. -/
def readItems {σ : Type} : Nat → List (Key σ) → σ → List Tree →
    Except (List String × SettingsCause) σ
  | index, (_, change) :: keys, s, t :: items =>
    match change s t with
    | .error (path, cause) => .error (toString index :: path, cause)
    | .ok s => readItems (index + 1) keys s items
  | _, _, s, _ => .ok s

/-- Reads a section, starting from its defaults. -/
def readSection {σ : Type} (name : String) (keys : List (Key σ)) (defaults : σ) : Reader σ
  | .table fields => readFields keys defaults fields
  | .list items => readItems 0 keys defaults items
  | t => wrong t ("struct " ++ name)

/-- The keys of the query section. -/
def queryKeys : List (Key QuerySettings) :=
  [key "max_page_size" readWord fun s v => { s with maxPageSize := v },
    key "queries_dir" readPath fun s v => { s with queriesDir := v },
    key "log_statements" readTruth fun s v => { s with logStatements := v }]

/-- The keys of the database section. -/
def databaseKeys : List (Key DatabaseSettings) :=
  [key "url" readText fun s v => { s with url := v },
    key "max_connections" readHalfWord fun s v => { s with maxConnections := v },
    key "min_connections" readHalfWord fun s v => { s with minConnections := v },
    key "connection_timeout_secs" readWord fun s v => { s with connectionTimeout := v }]

/-- The keys of the logging section. -/
def loggingKeys : List (Key LoggingSettings) :=
  [key "level" readText fun s v => { s with level := v },
    key "json" readTruth fun s v => { s with json := v }]

/-- The sections. -/
def sections : List (Key Settings) :=
  [key "query" (readSection "QueryConfig" queryKeys {}) fun s v => { s with query := v },
    key "database" (readSection "DatabaseConfig" databaseKeys {})
      fun s v => { s with database := v },
    key "logging" (readSection "LoggingConfig" loggingKeys {}) fun s v => { s with logging := v }]

/-- The settings of a tree. -/
def ofTree (t : Tree) : Except SettingsError Settings :=
  (readFields sections {} t.fields).mapError fun (path, cause) => .wrongSetting path cause

end Settings

end TableQuery
