import Scaffold.Text.Cut
import Scaffold.Text.Quoted

namespace Scaffold

/-!
# Output paths

A path of a generated file is relative and stays below the output root: no
leading slash, no drive, no backslash, no NUL, and neither an empty segment
nor one that leads upwards.
-/

/-- Why a path is not safe. -/
inductive PathDanger
  | absolute
  | drive
  | backslash
  | nul
  | emptySegment
  | parentSegment
  | outside
  deriving DecidableEq, Repr

def PathDanger.reason : PathDanger → String
  | .absolute => "absolute paths are not allowed"
  | .drive => "drive-qualified paths are not allowed"
  | .backslash => "backslashes are not allowed in paths"
  | .nul => "NUL bytes are not allowed in paths"
  | .emptySegment => "empty path segment"
  | .parentSegment => "'..' segments are not allowed"
  | .outside => "resolves outside the output directory"

structure UnsafePath where
  path : String
  danger : PathDanger
  deriving DecidableEq, Repr

def UnsafePath.message (e : UnsafePath) : String :=
  s!"Unsafe output path {Text.quote e.path}: {e.danger.reason}"

namespace OutputPath

/-- The segments of a path between its slashes. -/
def segments (path : List Char) : List (List Char) :=
  Text.splitOn '/' path

/-- A letter and a colon at the start. -/
def hasDrive : List Char → Bool
  | c :: ':' :: _ => c.isAlpha
  | _ => false

def segmentDanger? (segment : List Char) : Option PathDanger :=
  if segment = [] then some .emptySegment
  else if segment = ['.', '.'] then some .parentSegment
  else none

def danger? (path : List Char) : Option PathDanger :=
  if path.head? = some '/' then some .absolute
  else if hasDrive path then some .drive
  else if '\\' ∈ path then some .backslash
  else if '\x00' ∈ path then some .nul
  else (segments path).findSome? segmentDanger?

/-- Refuses a path that is not safe. -/
def validate (path : String) : Except UnsafePath Unit :=
  match danger? path.toList with
  | none => .ok ()
  | some danger => .error ⟨path, danger⟩

end OutputPath

end Scaffold
