import Scaffold.Output.Path
import Scaffold.Template.Render

namespace Scaffold

/-!
# Reports

A report lists everything that failed in one assembly, each entry with the
file it belongs to and the part of the file's template.
-/

/-- The two templates of an entry. -/
inductive TemplatePart
  | path
  | body
  deriving DecidableEq, Repr

def TemplatePart.name : TemplatePart → String
  | .path => "path"
  | .body => "body"

/-- One failure. -/
structure ReportEntry where
  kind : String
  file : String
  position : Option Position
  message : String
  part : String
  deriving DecidableEq, Repr

namespace ReportEntry

def ofParseError (file : String) (part : TemplatePart) (e : ParseError) : ReportEntry where
  kind := e.flaw.kind.name
  file := file
  position := some e.position
  message := e.message
  part := part.name

def ofRenderError (file : String) (part : TemplatePart) (e : RenderError) : ReportEntry where
  kind := e.kind.name
  file := file
  position := some e.position
  message := e.message
  part := part.name

def ofUnsafePath (file : String) (e : UnsafePath) : ReportEntry where
  kind := "PathSecurityError"
  file := file
  position := none
  message := e.message
  part := TemplatePart.path.name

/-- The path of a file was produced by an earlier one. -/
def duplicate (file path earlier : String) : ReportEntry where
  kind := "DuplicatePath"
  file := file
  position := none
  message := s!"Path {Text.quote path} was already produced by {Text.quote earlier}"
  part := TemplatePart.path.name

def positionDatum (p : Position) : Datum :=
  .map [(.str "line", .int p.line), (.str "column", .int p.column), (.str "offset", .int p.offset)]

def toDatum (e : ReportEntry) : Datum :=
  .map [(.str "errorKind", .str e.kind), (.str "fileIdentifier", .str e.file),
    (.str "nodePosition", (e.position.map positionDatum).getD .null),
    (.str "message", .str e.message), (.str "templatePart", .str e.part)]

end ReportEntry

/-- All failures of one assembly. -/
structure Report where
  entries : List ReportEntry
  deriving DecidableEq, Repr

namespace Report

/-- A name at the end of a list, unless it is in it. -/
def addName (names : List String) (name : String) : List String :=
  if name ∈ names then names else names ++ [name]

/-- The files that failed, in order and each once. -/
def failedFiles (r : Report) : List String :=
  (r.entries.map (·.file)).foldl addName []

def kinds (r : Report) : List String :=
  r.entries.map (·.kind)

/-- A number of things, in words. -/
def count (n : Nat) (thing : String) : String :=
  if n = 1 then s!"{n} {thing}" else s!"{n} {thing}s"

def message (r : Report) : String :=
  "Generation failed with " ++ count r.entries.length "error" ++ " in "
    ++ count r.failedFiles.length "file"

def toDatum (r : Report) : Datum :=
  .map [(.str "entries", .list (r.entries.map ReportEntry.toDatum)),
    (.str "failed_files", .list (r.failedFiles.map .str))]

end Report

end Scaffold
