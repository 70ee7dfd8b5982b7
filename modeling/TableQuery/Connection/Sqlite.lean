import TableQuery.Address
import TableQuery.Address.Form
import TableQuery.Disk
import TableQuery.Event
import TableQuery.Fault
import TableQuery.Text.Quoted
import TableQuery.Traced

/-!
# Connections to files

The address of a database in a file is the path of the file, after `sqlite:` or `sqlite://` perhaps,
and parameters after a question mark.  The file must be there unless it may be created, and its
directory must be there in any case.  A path that starts with `file:` is an address of its own, with
options of its own.

* `SqliteAddress` — what an address says;
* `SqliteAddress.read` — an address read, or the report about a wrong parameter;
* `Connection.openSqlite` — whether the database at an address can be opened;
* `Connection.connectSqlite` — the attempt to connect, with what it logs.
-/

namespace TableQuery

/-- What the address of a database in a file says. -/
structure SqliteAddress where
  /-- The path of the file. -/
  path : String
  /-- The database is in memory. -/
  inMemory : Bool := false
  /-- The file is only read. -/
  readOnly : Bool := false
  /-- The file may be created; one that is only read is never created. -/
  mayCreate : Bool := false
  /-- The file does not change. -/
  immutable : Bool := false
  /-- How files are accessed. -/
  access : Option String := none

namespace SqliteAddress

/-! ## Reading -/

/-- The report about a wrong value. -/
def unknownValue (parameter value : String) : Fault :=
  .setting ("unknown value " ++ Text.quoted value ++ " for `" ++ parameter ++ "`")

/-- An address with one more parameter. -/
def withParameter (a : SqliteAddress) (p : String × String) : Except Fault SqliteAddress :=
  match p with
  | ("mode", value) =>
    match value with
    | "ro" => .ok { a with readOnly := true }
    | "rw" => .ok a
    | "rwc" => .ok { a with mayCreate := true }
    | "memory" => .ok { a with inMemory := true }
    | _ => .error (unknownValue "mode" value)
  | ("cache", value) =>
    if value = "private" ∨ value = "shared" then .ok a else .error (unknownValue "cache" value)
  | ("immutable", value) =>
    if value = "true" ∨ value = "1" then .ok { a with immutable := true }
    else if value = "false" ∨ value = "0" then .ok { a with immutable := false }
    else .error (unknownValue "immutable" value)
  | ("vfs", value) => .ok { a with access := some value }
  | (name, _) =>
    .error (.setting ("unknown query parameter `" ++ name ++ "` while parsing connection URL"))

/-- The path that stands for a database in memory. -/
def memoryPath : String := ":memory:"

/-- An address without parameters. -/
def ofName (name : List Char) : Except Fault SqliteAddress :=
  if String.ofList name = memoryPath then .ok { path := memoryPath, inMemory := true }
  else
    match Address.percentDecoded (String.ofList name) with
    | .ok path => .ok { path }
    | .error fault => .error (.setting fault.message)

/-- A text without the scheme of databases in files. -/
def withoutScheme (cs : List Char) : List Char :=
  ((Text.after? "sqlite://".toList cs).or (Text.after? "sqlite:".toList cs)).getD cs

/-- An address read. -/
def read (url : String) : Except Fault SqliteAddress := do
  let cs := withoutScheme url.toList
  let (name, parameters) := (Text.cutAt '?' cs).getD (cs, [])
  (Address.formPairs (String.ofList parameters)).foldlM withParameter (← ofName name)

/-! ## Paths that are addresses -/

/-- A refusal of the database with its code. -/
def refusal (code : Nat) (detail : String) : Fault :=
  .refused ("(code: " ++ toString code ++ ") " ++ detail)

/-- A text up to its first null character. -/
def upToNull (s : String) : String := String.ofList (s.toList.takeWhile (· ≠ '\x00'))

/-- A part of a path that is an address, with the bytes for percent signs; a null byte ends it. -/
def uriPart (cs : List Char) : String :=
  Text.replaced ((Address.decodedBytes cs).takeWhile (· ≠ 0))

/-- How freely a file may be used: only read, also written, or also created; a database in memory
is freer than any file. -/
def freedom (a : SqliteAddress) : Nat :=
  (if a.readOnly then 1 else if a.mayCreate then 3 else 2) + (if a.inMemory then 3 else 0)

/-- An address with one more option of its path. -/
def withOption (a : SqliteAddress) (p : String × String) : Except Fault SqliteAddress :=
  let (name, value) := p
  let plain := { a with inMemory := false, readOnly := false, mayCreate := false }
  let allowed (wanted : SqliteAddress) : Except Fault SqliteAddress :=
    if wanted.freedom ≤ a.freedom then .ok wanted
    else .error (refusal 3 ("access mode not allowed: " ++ value))
  if name = "vfs" then .ok { a with access := some value }
  else if name = "cache" then
    if value = "shared" ∨ value = "private" then .ok a
    else .error (refusal 1 ("no such cache mode: " ++ value))
  else if name = "mode" then
    match value with
    | "ro" => allowed { plain with readOnly := true }
    | "rw" => allowed plain
    | "rwc" => allowed { plain with mayCreate := true }
    | "memory" => .ok { plain with inMemory := true }
    | _ => .error (refusal 1 ("no such access mode: " ++ value))
  else .ok a

/-- What stands behind the host of a path that is an address; only this host may be named. -/
def afterHost (cs : List Char) : Except Fault (List Char) :=
  match Text.after? ['/', '/'] cs with
  | none => .ok cs
  | some rest =>
    let host := String.ofList (rest.takeWhile (· ≠ '/'))
    if host = "" ∨ host = "localhost" then .ok (rest.dropWhile (· ≠ '/'))
    else .error (refusal 1 ("invalid uri authority: " ++ host))

/-- An address whose path is an address itself, without the `file:` in front. -/
def withUri (a : SqliteAddress) (uri : List Char) : Except Fault SqliteAddress := do
  let cs := (← afterHost uri).takeWhile (· ≠ '#')
  let (path, options) := (Text.cutAt '?' cs).getD (cs, [])
  let pairs := (Text.pieces '&' options).map fun part =>
    let (name, value) := (Text.cutAt '=' part).getD (part, [])
    (uriPart name, uriPart value)
  (pairs.filter fun p => p.1 ≠ "").foldlM withOption { a with path := uriPart path }

/-- The address of the file itself.  With a way of access, or for a file that does not change, the
path is taken as it is, as part of an address in which a space is a plus sign. -/
def resolved (a : SqliteAddress) : Except Fault SqliteAddress :=
  if a.immutable || a.access.isSome then
    let plus (s : String) : String :=
      String.ofList (s.toList.map fun c => if c = ' ' then '+' else c)
    .ok { a with path := upToNull a.path, access := a.access.map fun s => plus (upToNull s) }
  else if a.path.toList.contains '\x00' then
    .error (.transfer "filename passed to SQLite must not contain nul bytes")
  else
    match Text.after? "file:".toList a.path.toList with
    | some uri => a.withUri uri
    | none => .ok a

end SqliteAddress

namespace Connection

/-! ## Opening -/

/-- The report that a file cannot be opened. -/
def cannotOpen : Fault := SqliteAddress.refusal 14 "unable to open database file"

/-- The report about a directory in the place of a file. -/
def notReadable : Fault := SqliteAddress.refusal 266 "disk I/O error"

/-- The way of access to databases that are in memory only. -/
def memoryAccess : String := "memdb"

/-- The ways of access that there are. -/
def accessNames : List String :=
  ["unix", "unix-none", "unix-dotfile", "unix-excl", memoryAccess]

/-- The place of a path.  Two points go back by one name even if nothing stands there; but no name
may stand behind a file or be too long for the directory that it is in. -/
def placeOf? (d : Disk) (path : String) : Option Place :=
  (Text.splitAll '/' path).foldlM (fun place name =>
    if name = "" ∨ name = "." then some place
    else if name = ".." then some place.up
    else if d.isFile place ∨ (d.isDirectory place ∧ nameLimit < name.utf8ByteSize) then none
    else some (place.down name)) (Place.start path)

/-- Opens the file at an address. -/
def openFile (d : Disk) (a : SqliteAddress) : Except Fault Unit :=
  match placeOf? d a.path with
  | none => .error cannotOpen
  | some place =>
    if place = .outside [] ∧ Text.startsWith "/" a.path then .error cannotOpen
    else if d.isFile place then .ok ()
    else if d.isDirectory place then .error (if a.readOnly then notReadable else cannotOpen)
    else if a.mayCreate && !a.readOnly && d.isDirectory place.up then .ok ()
    else .error cannotOpen

/-- Opens the database at an address. -/
def openSqlite (d : Disk) (a : SqliteAddress) : Except Fault Unit := do
  let a ← a.resolved
  if !a.access.all accessNames.contains then
    .error (SqliteAddress.refusal 1 ("no such vfs: " ++ a.access.getD ""))
  else if a.access = some memoryAccess || a.inMemory || a.path = "" ||
      a.path = SqliteAddress.memoryPath then .ok ()
  else openFile d a

/-! ## Connecting -/

/-- The event of a database that is open. -/
def sqliteOpened (s : DatabaseSettings) : Event where
  level := .info
  origin := .sqliteSource
  message := "SQLite pool created: max=" ++ toString s.maxConnections.toNat ++ ", min=" ++
    toString s.minConnections.toNat
  fields := []
  span := none

/-- The event of an attempt that failed; the log does not see the password. -/
def connectFailed (origin : Origin) (message : String) (s : DatabaseSettings) (f : Fault) :
    Event where
  level := .error
  origin := origin
  message := message
  fields := [("url", .plain s.sanitizedUrl), ("error", .plain f.report)]
  span := none

/-- Connects to the database at the address in the settings. -/
def connectSqlite (d : Disk) (s : DatabaseSettings) : Traced Event DataSourceError Unit :=
  match SqliteAddress.read s.url with
  | .error f => .fail f.toError
  | .ok a =>
    match openSqlite d a with
    | .error f =>
      ⟨[connectFailed .sqliteSource "Failed to open SQLite database" s f], .error f.toError⟩
    | .ok () => .emit (sqliteOpened s)

end Connection

end TableQuery
