import Scaffold.Files.Edit
import Scaffold.Output.FileSet
import Scaffold.Output.Path

namespace Scaffold

/-!
# Writing file sets

All targets of a file set are planned before one is written: each has to
be a safe path that resolves to a place below the output root, and unless
files may be overwritten nothing may be there yet.
-/

/-- Why a file set is not written. -/
inductive WriteError
  | unsafePath (e : UnsafePath)
  | fileThere (target : Location)
  | linkLoop (l : Location)
  | file (e : FileError)
  deriving DecidableEq, Repr

def Location.text (l : Location) : String :=
  (PathName.mk .root l).text

namespace WriteError

def message : WriteError → String
  | .unsafePath e => e.message
  | .fileThere target => s!"Refusing to overwrite existing file: {Location.text target}"
  | .linkLoop l => s!"Symlink loop from {Text.quote (Location.text l)}"
  | .file e => e.message

end WriteError

/-- Where and how file sets are written. -/
structure Writer where
  /-- The names that lead to the output directory. -/
  output : List String
  overwrite : Bool

namespace Writer

/-- The target of one file below the resolved output root. -/
def target (w : Writer) (t : FileTree) (root : Location) (f : GeneratedFile) :
    Except WriteError Location :=
  match OutputPath.validate f.path with
  | .error e => .error (.unsafePath e)
  | .ok () =>
    match t.resolve (root ++ PathName.partsOf f.path) with
    | .loop l => .error (.linkLoop l)
    | .place target =>
      if !root.isPrefixOf target then .error (.unsafePath ⟨f.path, .outside⟩)
      else
        match t.contains target with
        | .error trouble => .error (.file ⟨trouble, Location.text target⟩)
        | .ok there => if there && !w.overwrite then .error (.fileThere target) else .ok target

/-- The targets of a file set, in order; nothing is written. -/
def plan (w : Writer) (t : FileTree) (s : FileSet) : Except WriteError (List Location) :=
  match t.resolve w.output with
  | .loop l => .error (.linkLoop l)
  | .place root => s.files.mapM (w.target t root)

/-- Writes one file to its target. A write that fails leaves the other writes alone; the first
failure is kept. -/
def writeOne (done : FileTree × Option WriteError) (job : Location × GeneratedFile) :
    FileTree × Option WriteError :=
  let (t, failure?) := done
  let (t, mishap?) := t.writeWithin job.1 job.2.content.toUTF8
  let failure : Option WriteError :=
    mishap?.map fun (trouble, names) => .file ⟨trouble, Location.text names⟩
  (t, failure?.or failure)

/-- Writes a file set and gives its targets, with the tree as it is afterwards. -/
def write (w : Writer) (t : FileTree) (s : FileSet) :
    FileTree × Except WriteError (List Location) :=
  match w.plan t s with
  | .error e => (t, .error e)
  | .ok targets =>
    match (targets.zip s.files).foldl writeOne (t, none) with
    | (t, some e) => (t, .error e)
    | (t, none) => (t, .ok targets)

end Writer

end Scaffold
