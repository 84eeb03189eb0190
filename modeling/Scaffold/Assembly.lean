import Scaffold.Output.FileSet
import Scaffold.Output.Report
import Scaffold.Quantity
import Scaffold.Template.TemplateSet

namespace Scaffold

/-!
# Assembly

Assembly renders every entry of a template set. Both templates of an entry
are parsed before one is rendered; an empty path skips the file; the path
is checked before the body is rendered. Either every entry succeeds and
there is a file set, or there is a report of all failures.
-/

/-- What becomes of one entry. -/
inductive Outcome
  | file (f : GeneratedFile)
  | skipped
  | failed (entries : List ReportEntry)
  deriving DecidableEq, Repr

/-- Why there is no file set. -/
inductive AssemblyFailure
  | report (r : Report)
  | fault (f : Fault)
  deriving DecidableEq, Repr

/-- How entries are rendered. -/
structure Assembler where
  mode : RenderMode
  /-- Remove blanks around rendered paths. -/
  stripPaths : Bool

namespace Assembler

def parseFailures (identifier : String) (part : TemplatePart) :
    Except ParseError (List Node) → List ReportEntry
  | .ok _ => []
  | .error e => [.ofParseError identifier part e]

/-- The path as it is checked and used. -/
def trimPath (a : Assembler) (path : String) : String :=
  if a.stripPaths then String.ofList (Text.trim path.toList) else path

def renderer (a : Assembler) (t : Template) : Renderer :=
  ⟨t.helpers, a.mode⟩

def processParsed (a : Assembler) (entry : TemplateEntry) (pathNodes bodyNodes : List Node)
    (c : Context) : Except Fault Outcome :=
  match (a.renderer entry.path).render pathNodes c with
  | .error (.fault f) => .error f
  | .error (.error e) => .ok (.failed [.ofRenderError entry.identifier .path e])
  | .ok rendered =>
    let path := a.trimPath rendered
    if path.isEmpty then .ok .skipped
    else
      match OutputPath.validate path with
      | .error e => .ok (.failed [.ofUnsafePath entry.identifier e])
      | .ok () =>
        match (a.renderer entry.body).render bodyNodes c with
        | .error (.fault f) => .error f
        | .error (.error e) => .ok (.failed [.ofRenderError entry.identifier .body e])
        | .ok content => .ok (.file ⟨path, content⟩)

def process (a : Assembler) (c : Context) (entry : TemplateEntry) : Except Fault Outcome :=
  match entry.path.parse, entry.body.parse with
  | .ok pathNodes, .ok bodyNodes => a.processParsed entry pathNodes bodyNodes c
  | path, body =>
    .ok (.failed (parseFailures entry.identifier .path path
      ++ parseFailures entry.identifier .body body))

/-- The files and failures collected so far. -/
structure Collected where
  files : List GeneratedFile
  failures : List ReportEntry
  /-- Which entry produced a path. -/
  owners : List (String × String)

/-- Collects the outcome of one more entry; a path that is taken is a failure. -/
def collectOne (done : Collected) (entry : TemplateEntry) : Outcome → Collected
  | .skipped => done
  | .failed entries => { done with failures := done.failures ++ entries }
  | .file f =>
    match done.owners.lookup f.path with
    | some earlier =>
      { done with
        failures := done.failures ++ [.duplicate entry.identifier f.path earlier] }
    | none =>
      { done with
        files := done.files ++ [f]
        owners := (f.path, entry.identifier) :: done.owners }

/-- The file set of all outcomes, or the report of the failures. -/
def collect (outcomes : List (TemplateEntry × Outcome)) : Except Report FileSet :=
  let done := outcomes.foldl (fun done (entry, outcome) => collectOne done entry outcome) ⟨[], [], []⟩
  if done.failures.isEmpty then .ok ⟨done.files⟩ else .error ⟨done.failures⟩

/-- Renders the entries one after the other. -/
def assemble (a : Assembler) (set : TemplateSet) (c : Context) :
    Except AssemblyFailure FileSet :=
  match set.entries.mapM (a.process c) with
  | .error f => .error (.fault f)
  | .ok outcomes =>
    match collect (set.entries.zip outcomes) with
    | .ok files => .ok files
    | .error r => .error (.report r)

end Assembler

/-- What ends a concurrent run before all entries are done. -/
inductive Interruption
  | timeout (limit : Seconds)
  | cancelled
  /-- Something outside stops the run and says why. -/
  | stopped (reason : String)
  deriving DecidableEq, Repr

def Interruption.message : Interruption → String
  | .timeout limit => s!"Generation exceeded the {limit.text}s timeout; no files were produced"
  | .cancelled => "Generation was cancelled; no files were produced"
  | .stopped reason => reason

/-- How a concurrent run ends without a file set. -/
inductive RunFailure
  | assembly (f : AssemblyFailure)
  | interrupted (i : Interruption)
  /-- A run needs at least one worker. -/
  | noWorkers
  deriving DecidableEq, Repr

def RunFailure.noWorkersMessage : String := "max_workers must be greater than 0"

/-- A concurrent run: its workers, its time limit, and whether it is cancelled before an entry is
done. -/
structure Run where
  workers : Option Int := none
  limit : Option Seconds := none
  cancelled : Bool := false

namespace Run

/-- What strikes the run before an entry can be done. A limit that leaves no time strikes at
once. -/
def interruption? (r : Run) : Option Interruption :=
  match r.limit with
  | some limit =>
    if !limit.isPositive then some (.timeout limit)
    else if r.cancelled then some .cancelled else none
  | none => if r.cancelled then some .cancelled else none

/-- Assembles a set in a concurrent run. An empty set is done before anything can strike. -/
def assemble (r : Run) (a : Assembler) (set : TemplateSet) (c : Context) :
    Except RunFailure FileSet :=
  if r.workers.all (0 < ·) then
    match r.interruption? with
    | some i => if set.entries.isEmpty then .ok ⟨[]⟩ else .error (.interrupted i)
    | none => (a.assemble set c).mapError .assembly
  else .error .noWorkers

end Run

end Scaffold
