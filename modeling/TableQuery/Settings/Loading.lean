import TableQuery.Disk
import TableQuery.Event
import TableQuery.Settings.Environment
import TableQuery.Settings.Reading
import TableQuery.Toml.Document
import TableQuery.Traced

/-!
# Loading settings

Settings come in layers.  The lowest one are the defaults; over it lie the files, from the one of
the system to the one of the working directory; and over those the environment variables.  Each
layer sets what it names and leaves the rest to the layers below.

* `Settings.defaults` — the lowest layer;
* `Settings.ofLayers` — the settings of some files and variables;
* `Settings.Finder`, `Settings.nearest` — how a file is looked for;
* `Settings.loadFiles`, `Settings.loadFile` — the files of several paths, and a single file;
* `Settings.load`, `Settings.loadFrom` — both with the paths and the search that are used.
-/

namespace TableQuery

namespace Settings

/-- The tree of a JSON value that settings have. -/
def leafOfJson : Json → Tree
  | .int i => .unsigned i.toNat
  | .bool b => .truth b
  | .text s => .text s
  | _ => .table []

/-- The tree of the settings of a section. -/
def sectionOfJson : Json → Tree
  | .object fields => .table (fields.map fun (name, v) => (name, leafOfJson v))
  | v => leafOfJson v

/-- The lowest layer: every setting at its default. -/
def defaults : Tree :=
  match ({} : Settings).toJson with
  | .object fields => .table (fields.map fun (name, v) => (name, sectionOfJson v))
  | _ => .table []

/-- The layer of a file, from its text; a file whose bytes are no text is malformed too. -/
def fileLayer (text : Option String) : Except SettingsError Tree :=
  match text.bind Tree.ofToml? with
  | some t => .ok t
  | none => .error .malformedFile

/-- The settings of files, the lowest one first, and variables. -/
def ofLayers (files : List (Option String)) (environment : List (String × String)) :
    Except SettingsError Settings := do
  let layers ← files.mapM fileLayer
  let tree := layers.foldl Tree.overlay defaults
  ofTree (tree.overlay (Environment.layer environment))

/-! ## Files -/

/-- How a file of settings is looked for on a disk: the bytes of the file that a path leads to, if it
leads to one. -/
abbrev Finder := Disk → String → Option ByteArray

/-- The bytes of the file at the end of a path, if there is one. -/
def fileAt? (d : Disk) (path : String) : Option ByteArray := (d.readBytes path).toOption

/-- A path from the root leads to the file at its end.  Any other one leads to the file at its end
from the working directory or else from the directory above it, which on a `Disk` is the root. -/
def nearest : Finder := fun d path =>
  if Text.startsWith "/" path then fileAt? d path
  else (fileAt? d path).or (fileAt? d ("../" ++ path))

/-- The layer of the file that a path leads to, if it leads to one. -/
def fileText? (find : Finder) (d : Disk) (path : String) : Option (Option String) :=
  (find d path).map String.fromUTF8?

/-- There is something at the end of a path. -/
def isThere (d : Disk) (path : String) : Bool := (d.find path).isOk

/-- An event of the loading. -/
def loadingEvent (level : Level) (message : String) : Event where
  level := level
  origin := .config
  message := message
  fields := []
  span := none

/-- The settings of the files of some paths, the most important one first, and of variables.  The log
tells the paths, and then those where there is something, from the lowest layer on; only these are
looked for. -/
def loadFiles (find : Finder) (d : Disk) (paths : List String)
    (environment : List (String × String)) : Traced Event SettingsError Settings :=
  let found := paths.reverse.filter (isThere d)
  let searched := loadingEvent .debug "Searching for config files in order:" ::
    paths.map fun path => loadingEvent .debug ("  - " ++ path)
  let loaded := found.map fun path =>
    loadingEvent .info ("Loading configuration from: " ++ path)
  ⟨searched ++ loaded, ofLayers (found.filterMap (fileText? find d)) environment⟩

/-- The settings of the file that a path leads to, whether or not there is something at its end, and
of variables. -/
def loadFile (find : Finder) (d : Disk) (path : String) (environment : List (String × String)) :
    Except SettingsError Settings :=
  ofLayers (fileText? find d path).toList environment

/-- The paths of the files of settings, the most important one first: in the working directory, in
the directory of the user, and in the directory of the system. -/
def paths (user : String) : List String :=
  ["config.toml", user, "/etc/acton-query/config.toml"]

/-- The settings of all files and of variables. -/
def load (d : Disk) (user : String) (environment : List (String × String)) :
    Traced Event SettingsError Settings :=
  loadFiles nearest d (paths user) environment

/-- The settings of one file and of variables. -/
def loadFrom (d : Disk) (path : String) (environment : List (String × String)) :
    Except SettingsError Settings :=
  loadFile nearest d path environment

end Settings

end TableQuery
