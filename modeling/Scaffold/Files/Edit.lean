import Scaffold.Files.Tree

namespace Scaffold.FileTree

/-!
# Changing file trees

Directories are made with all that is missing above them, and files are
written through links. An operation gives the tree as it is afterwards,
also when it fails.
-/

/-- An entry put at a location, in the place of what stands there. -/
def putEntry (l : Location) (node : TreeNode) : List (Location × TreeNode) → List (Location × TreeNode)
  | [] => [(l, node)]
  | (m, n) :: rest => if m = l then (l, node) :: rest else (m, n) :: putEntry l node rest

def put (t : FileTree) (l : Location) (node : TreeNode) : FileTree :=
  ⟨putEntry l node t.entries⟩

/-- Makes one directory; the one it is in has to be there. -/
def makeDirectory (t : FileTree) (names : List String) : Except FileTrouble FileTree :=
  match names.getLast? with
  | none => .error .alreadyThere
  | some name =>
    match t.walk names.dropLast with
    | .there l .directory =>
      if (t.node? (l ++ [name])).isSome || name = ".." then .error .alreadyThere
      else if longestName < name.utf8ByteSize then .error .nameTooLong
      else .ok (t.put (l ++ [name]) .directory)
    | .there _ _ => .error .notDirectory
    | .gap _ => .error .notFound
    | .stuck trouble => .error trouble

/-- What went wrong, and where. -/
abbrev Mishap := FileTrouble × List String

/-- Makes a directory and all that is missing above it, given the last name first. A directory
that is there already is as good as a new one. -/
def makeDirectoriesFrom (t : FileTree) : List String → FileTree × Option Mishap
  | [] => (t, none)
  | name :: above =>
    let names := (name :: above).reverse
    let settle (t : FileTree) (trouble : FileTrouble) : FileTree × Option Mishap :=
      if t.isDirectory names then (t, none) else (t, some (trouble, names))
    match t.makeDirectory names with
    | .ok t => (t, none)
    | .error .notFound =>
      match makeDirectoriesFrom t above with
      | (t, some mishap) => (t, some mishap)
      | (t, none) =>
        match t.makeDirectory names with
        | .ok t => (t, none)
        | .error trouble => settle t trouble
    | .error trouble => settle t trouble

def makeDirectories (t : FileTree) (names : List String) : FileTree × Option Mishap :=
  t.makeDirectoriesFrom names.reverse

/-- Writes a file into a directory that is there. -/
def write (t : FileTree) (names : List String) (content : ByteArray) :
    Except FileTrouble FileTree :=
  match t.walk names with
  | .there l (.file _) => .ok (t.put l (.file content))
  | .there _ _ => .error .isDirectory
  | .gap l => .ok (t.put l (.file content))
  | .stuck trouble => .error trouble

/-- Writes a file and makes the directories above it. -/
def writeWithin (t : FileTree) (names : List String) (content : ByteArray) :
    FileTree × Option Mishap :=
  match t.makeDirectories names.dropLast with
  | (t, some mishap) => (t, some mishap)
  | (t, none) =>
    match t.write names content with
    | .ok t => (t, none)
    | .error trouble => (t, some (trouble, names))

end Scaffold.FileTree
