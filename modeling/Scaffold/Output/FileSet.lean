import Scaffold.Json.Print

namespace Scaffold

/-!
# File sets

The files that a generation produces, in order.
-/

/-- A file that is ready to be written. -/
structure GeneratedFile where
  path : String
  content : String
  deriving DecidableEq, Repr

structure FileSet where
  files : List GeneratedFile
  deriving DecidableEq, Repr

namespace FileSet

def size (s : FileSet) : Nat :=
  s.files.length

def paths (s : FileSet) : List String :=
  s.files.map (·.path)

/-- The content of the first file with a path. -/
def get? (s : FileSet) (path : String) : Option String :=
  (s.files.find? (·.path == path)).map (·.content)

/-- The contents by path: of files with one path the last, in the place of the first. -/
def toMap (s : FileSet) : Datum :=
  Datum.ofEntries (s.files.map fun f => (.str f.path, .str f.content))

def toDatum (s : FileSet) : Datum :=
  .map [(.str "files", .list (s.files.map fun f =>
    .map [(.str "path", .str f.path), (.str "content", .str f.content)]))]

end FileSet

end Scaffold
