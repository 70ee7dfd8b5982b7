import TableQuery.Disk

/-!
# The folder of query files

A `Folder` is a directory of query files.  A reference is a path inside it, unless it starts with a
slash and stands alone.

* `Folder` — a directory on a disk;
* `Folder.readText` — the text of the file of a reference.
-/

namespace TableQuery

/-- A directory of query files. -/
structure Folder where
  /-- The path of the directory, as it is written. -/
  name : String
  /-- The disk that it is on. -/
  disk : Disk

namespace Folder

/-- The path of a reference as it is written.  One that starts with a slash stands alone.  Any other
one goes behind the name of the directory, with a slash between them unless the name is empty or has
one at its end. -/
def pathOf (f : Folder) (reference : String) : String :=
  if Text.startsWith "/" reference then reference
  else if f.name = "" ∨ Text.endsWith "/" f.name = true then f.name ++ reference
  else f.name ++ "/" ++ reference

/-- The text of the file of a reference. -/
def readText (f : Folder) (reference : String) : Except Obstacle String :=
  f.disk.readText (f.pathOf reference)

end Folder

end TableQuery
