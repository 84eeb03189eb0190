import Scaffold.Text.Cut

namespace Scaffold

/-!
# Path names

A path name is a list of names, from the root of the file tree or from the
working directory. Empty names and single dots are left out when it is
read; double dots stay.
-/

inductive Anchor
  /-- The working directory. -/
  | here
  | root
  /-- The root, written with two slashes. -/
  | doubleRoot
  deriving DecidableEq, Repr, Inhabited

namespace Anchor

def text : Anchor → String
  | .here => ""
  | .root => "/"
  | .doubleRoot => "//"

/-- The anchor of a text: exactly two slashes are kept, more are as good as one. -/
def ofChars : List Char → Anchor
  | '/' :: '/' :: '/' :: _ => .root
  | '/' :: '/' :: _ => .doubleRoot
  | '/' :: _ => .root
  | _ => .here

end Anchor

/-- The name of a file or directory. -/
structure PathName where
  anchor : Anchor
  parts : List String
  deriving DecidableEq, Repr, Inhabited

namespace PathName

/-- The names between the slashes of a text. -/
def partsOf (s : String) : List String :=
  ((Text.splitOn '/' s.toList).map String.ofList).filter fun part => part != "" && part != "."

def ofString (s : String) : PathName where
  anchor := .ofChars s.toList
  parts := partsOf s

def text (p : PathName) : String :=
  if p.anchor = .here && p.parts.isEmpty then "."
  else p.anchor.text ++ "/".intercalate p.parts

def ofNames (names : List String) : PathName :=
  ⟨.here, names⟩

def isAbsolute (p : PathName) : Bool :=
  p.anchor != .here

/-- A path name taken from inside a directory. -/
def join (p q : PathName) : PathName :=
  if q.isAbsolute then q else ⟨p.anchor, p.parts ++ q.parts⟩

def hasZero (p : PathName) : Bool :=
  p.parts.any fun part => part.toList.contains '\x00'

def parent (p : PathName) : PathName :=
  ⟨p.anchor, p.parts.dropLast⟩

def name (p : PathName) : String :=
  p.parts.getLastD ""

/-- The last dot of the last name and what follows it, if something stands before and after the
dot; else nothing. -/
def suffix (p : PathName) : String :=
  match (Text.splitOn '.' p.name.toList).reverse with
  | last :: before =>
    if last.isEmpty || before.all List.isEmpty && before.length ≤ 1 then ""
    else String.ofList ('.' :: last)
  | [] => ""

/-- The names that lead from the root to a path name seen from a directory. -/
def namesFrom (directory : List String) (p : PathName) : List String :=
  if p.isAbsolute then p.parts else directory ++ p.parts

end PathName

end Scaffold
