import TableQuery.Text.Split

/-!
# Directories and files

A `Disk` is what stands on a disk at the time when it is read: what is in the working directory, and
what is found from the root.  Above the working directory one is taken to be at the root at once.

A path is followed one name at a time, and what stops it has a text of its own.

* `Entry`, `Disk` — files with their bytes, and directories;
* `Place` — a place on a disk;
* `Disk.entry?` — what stands at a place;
* `Obstacle` — why there is no text at the end of a path;
* `Disk.find`, `Disk.readText` — the place at the end of a path, and the text of a file.
-/

namespace TableQuery

/-- What stands at a place. -/
inductive Entry where
  /-- A file with these bytes. -/
  | file (content : ByteArray)
  | directory

/-- A place, by the names on the way to it. -/
inductive Place where
  /-- From the working directory. -/
  | here (names : List String)
  /-- From the root. -/
  | outside (names : List String)
  deriving DecidableEq, Repr

namespace Place

/-- The directory that a place is in. -/
def up : Place → Place
  | .here [] => .outside []
  | .here names => .here names.dropLast
  | .outside names => .outside names.dropLast

/-- The place of a name in a directory. -/
def down (name : String) : Place → Place
  | .here names => .here (names ++ [name])
  | .outside names => .outside (names ++ [name])

/-- Where a path starts. -/
def start (path : String) : Place :=
  if Text.startsWith "/" path then .outside [] else .here []

end Place

/-- Directories and files. -/
structure Disk where
  /-- What is in the working directory, by the names on the way. -/
  here : List (List String × Entry)
  /-- What is found from the root, by the names on the way. -/
  outside : List (List String × Entry)

namespace Disk

/-- The entry behind these names.  A directory is there when it is listed or something in it is. -/
def lookup (entries : List (List String × Entry)) (names : List String) : Option Entry :=
  if names = [] then some .directory
  else (entries.lookup names).or
    (if entries.any fun e => names.isPrefixOf e.1 then some .directory else none)

/-- The entry at a place. -/
def entry? (d : Disk) : Place → Option Entry
  | .here names => lookup d.here names
  | .outside names => lookup d.outside names

/-- There is a directory at the place. -/
def isDirectory (d : Disk) (place : Place) : Bool :=
  match d.entry? place with
  | some .directory => true
  | _ => false

/-- There is a file at the place. -/
def isFile (d : Disk) (place : Place) : Bool :=
  match d.entry? place with
  | some (.file _) => true
  | _ => false

end Disk

/-! ## Following a path -/

/-- Why there is no text at the end of a path. -/
inductive Obstacle where
  /-- A name has no entry. -/
  | notFound
  /-- The path goes on after a file. -/
  | notDirectory
  /-- The path ends at a directory. -/
  | isDirectory
  /-- A name or the path is too long. -/
  | nameTooLong
  /-- The path has a zero character in it. -/
  | zeroByte
  /-- The bytes of the file are no text. -/
  | notText
  deriving DecidableEq, Repr

/-- The wording of an obstacle. -/
def Obstacle.message : Obstacle → String
  | .notFound => "No such file or directory (os error 2)"
  | .notDirectory => "Not a directory (os error 20)"
  | .isDirectory => "Is a directory (os error 21)"
  | .nameTooLong => "File name too long (os error 36)"
  | .zeroByte => "file name contained an unexpected NUL byte"
  | .notText => "stream did not contain valid UTF-8"

/-- The number of bytes that a name in a directory may have. -/
def nameLimit : Nat := 255

/-- The number of bytes that is too much for a path. -/
def pathLimit : Nat := 4096

namespace Disk

/-- Follows one name. -/
def follow (d : Disk) (place : Place) (name : String) : Except Obstacle Place :=
  match d.entry? place with
  | none => .error .notFound
  | some (.file _) => .error .notDirectory
  | some .directory =>
    if name = "" ∨ name = "." then .ok place
    else if name = ".." then .ok place.up
    else if nameLimit < name.utf8ByteSize then .error .nameTooLong
    else if (d.entry? (place.down name)).isSome then .ok (place.down name)
    else .error .notFound

/-- The place at the end of a path. -/
def find (d : Disk) (path : String) : Except Obstacle Place :=
  if path.toList.contains '\x00' then .error .zeroByte
  else if pathLimit ≤ path.utf8ByteSize then .error .nameTooLong
  else (Text.splitAll '/' path).foldlM d.follow (Place.start path)

/-- The bytes of the file at the end of a path. -/
def readBytes (d : Disk) (path : String) : Except Obstacle ByteArray := do
  match d.entry? (← d.find path) with
  | some (.file content) => .ok content
  | some .directory => .error .isDirectory
  | none => .error .notFound

/-- The text of the file at the end of a path. -/
def readText (d : Disk) (path : String) : Except Obstacle String := do
  match String.fromUTF8? (← d.readBytes path) with
  | some text => .ok text
  | none => .error .notText

end Disk

end TableQuery
