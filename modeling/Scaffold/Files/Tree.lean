import Scaffold.Files.PathName
import Scaffold.Text.Quoted

namespace Scaffold

/-!
# File trees

A file tree maps locations to directories, files and symbolic links. Names
are followed from the root, through links, up to what stands at their end.
Nothing here changes a tree.
-/

/-- The names that lead from the root of a tree to a place, without links on the way. -/
abbrev Location := List String

namespace Location

/-- Where one name leads: dots and empty names stay, double dots go back. -/
def enter (place : Location) (name : String) : Location :=
  if name = "" ∨ name = "." then place
  else if name = ".." then place.dropLast
  else place ++ [name]

/-- Where names lead when no tree is looked at, so that links count as directories. -/
def follow (place : Location) (names : List String) : Location :=
  names.foldl enter place

end Location

inductive TreeNode
  | directory
  | file (content : ByteArray)
  | link (target : PathName)

/-- Directories, files and links by location. The root is always a directory. -/
structure FileTree where
  entries : List (Location × TreeNode)

inductive FileTrouble
  | notFound
  | alreadyThere
  | notDirectory
  | isDirectory
  | nameTooLong
  | tooManyLinks
  deriving DecidableEq, Repr

structure FileError where
  trouble : FileTrouble
  path : String
  deriving DecidableEq, Repr

namespace FileError

def kind (e : FileError) : String :=
  match e.trouble with
  | .notFound => "FileNotFoundError"
  | .alreadyThere => "FileExistsError"
  | .notDirectory => "NotADirectoryError"
  | .isDirectory => "IsADirectoryError"
  | .nameTooLong | .tooManyLinks => "OSError"

/-- The number and the words of the operating system. -/
def description (e : FileError) : String :=
  match e.trouble with
  | .notFound => "[Errno 2] No such file or directory"
  | .alreadyThere => "[Errno 17] File exists"
  | .notDirectory => "[Errno 20] Not a directory"
  | .isDirectory => "[Errno 21] Is a directory"
  | .nameTooLong => "[Errno 36] File name too long"
  | .tooManyLinks => "[Errno 40] Too many levels of symbolic links"

def message (e : FileError) : String :=
  s!"{e.description}: {Text.quote e.path}"

end FileError

/-- Where following names leads. -/
inductive Arrival
  | there (place : Location) (node : TreeNode)
  /-- Nothing is there, but the directory that it would be in. -/
  | gap (place : Location)
  | stuck (trouble : FileTrouble)

/-- Where resolving names leads, or where a link leads back to itself: its location and the names
that were still to be resolved. -/
inductive Resolution
  | place (l : Location)
  | loop (l : Location)
  deriving DecidableEq, Repr

namespace FileTree

/-- What stands at a location, links not followed. -/
def node? (t : FileTree) (l : Location) : Option TreeNode :=
  if l = [] then some .directory else t.entries.lookup l

/-- No name may have more bytes. -/
def longestName : Nat := 255

/-- Follows names from a directory; `enter` goes on with the names of a link. -/
def walkIn (t : FileTree) (enter : Location → List String → Arrival) :
    Location → List String → Arrival
  | here, [] => .there here .directory
  | here, name :: rest =>
    if name = ".." then walkIn t enter here.dropLast rest
    else
      let next := here ++ [name]
      match t.node? next with
      | none =>
        if longestName < name.utf8ByteSize then .stuck .nameTooLong
        else if rest.isEmpty then .gap next
        else .stuck .notFound
      | some .directory => walkIn t enter next rest
      | some (.file content) =>
        if rest.isEmpty then .there next (.file content) else .stuck .notDirectory
      | some (.link target) => enter (if target.isAbsolute then [] else here) (target.parts ++ rest)

/-- Follows names through at most as many links. -/
def walkThrough (t : FileTree) : Nat → Location → List String → Arrival
  | 0 => fun _ _ => .stuck .tooManyLinks
  | links + 1 => walkIn t (walkThrough t links)

/-- Follows names from the root, through forty links at most. -/
def walk (t : FileTree) (names : List String) : Arrival :=
  t.walkThrough 41 [] names

def isDirectory (t : FileTree) (names : List String) : Bool :=
  match t.walk names with
  | .there _ .directory => true
  | _ => false

def isFile (t : FileTree) (names : List String) : Bool :=
  match t.walk names with
  | .there _ (.file _) => true
  | _ => false

/-- Is there something at the end of the names? A name that is too long cannot be asked about. -/
def contains (t : FileTree) (names : List String) : Except FileTrouble Bool :=
  match t.walk names with
  | .there .. => .ok true
  | .stuck .nameTooLong => .error .nameTooLong
  | _ => .ok false

def findsDirectory (t : FileTree) (names : List String) : Except FileTrouble Bool :=
  (t.contains names).map fun _ => t.isDirectory names

def findsFile (t : FileTree) (names : List String) : Except FileTrouble Bool :=
  (t.contains names).map fun _ => t.isFile names

def read (t : FileTree) (names : List String) : Except FileTrouble ByteArray :=
  match t.walk names with
  | .there _ (.file content) => .ok content
  | .there _ _ => .error .isDirectory
  | .gap _ => .error .notFound
  | .stuck trouble => .error trouble

/-- Resolves names from a location: links are replaced by where they lead, double dots go back,
and names with nothing there stay. `seen` holds the links that are being resolved. -/
def resolveIn (t : FileTree) (enter : List Location → Location → List String → Resolution)
    (seen : List Location) : Location → List String → Resolution
  | here, [] => .place here
  | here, name :: rest =>
    if name = ".." then resolveIn t enter seen here.dropLast rest
    else
      let next := here ++ [name]
      match t.node? next with
      | some (.link target) =>
        if next ∈ seen then .loop (next ++ rest)
        else
          match enter (next :: seen) (if target.isAbsolute then [] else here) target.parts with
          | .place l => resolveIn t enter seen l rest
          | .loop l => .loop (l ++ rest)
      | _ => resolveIn t enter seen next rest

/-- Resolves names with links nested at most as deep. -/
def resolveThrough (t : FileTree) : Nat → List Location → Location → List String → Resolution
  | 0 => fun _ here rest => .loop (here ++ rest)
  | depth + 1 => resolveIn t (resolveThrough t depth)

/-- Resolves names from the root up to the first link that leads back to itself. Links that are
being resolved are not entered again, so they nest no deeper than there are entries. -/
def resolveLinks (t : FileTree) (names : List String) : Resolution :=
  t.resolveThrough (t.entries.length + 1) [] [] names

/-- Resolves names from the root. From a link that leads back to itself on, names are taken as they
are written. There is no place for them only if they meet too many links then as well. -/
def resolve (t : FileTree) (names : List String) : Resolution :=
  match t.resolveLinks names with
  | .place l => .place l
  | .loop l =>
    let place := Location.follow [] l
    match t.walk place with
    | .stuck .tooManyLinks => .loop place
    | _ => .place place

/-- What lies below a location: the names from there on, and the node. -/
def below (t : FileTree) (l : Location) : List (List String × TreeNode) :=
  t.entries.filterMap fun (m, node) =>
    if l.isPrefixOf m && l.length < m.length then some (m.drop l.length, node) else none

def files (t : FileTree) : List (Location × ByteArray) :=
  t.entries.filterMap fun
    | (l, .file content) => some (l, content)
    | _ => none

end FileTree

end Scaffold
